import CommitMessage.Text.Lines

/-! Comma-separated tables, read line by line. A field in quotes may hold commas and line breaks,
and a quote written twice; a quote inside an unquoted field is a character like any other. -/

namespace CommitMessage.Page

inductive TableError where
  /-- A field has more characters than are read. -/
  | fieldTooLong
  /-- Something follows a carriage return on one line. -/
  | strayBreak
  deriving DecidableEq, Repr

def maxFieldLength : Nat := 131072

inductive TablePlace where
  | rowStart
  | fieldStart
  | inField
  | inQuotes
  /-- After a quote in a quoted field: the end of the quotes or half of a quote. -/
  | afterQuote
  /-- After a carriage return or a line feed that ended the row. -/
  | afterBreak
  deriving DecidableEq, Repr

/-- A table read in part. Field and row are held last first. -/
structure TableReader where
  place : TablePlace := .rowStart
  field : Text := []
  /-- The length of the field so far. -/
  length : Nat := 0
  row : List Text := []
  rows : List (List Text) := []

namespace TableReader

def start : TableReader := {}

def add (r : TableReader) (c : Char) (place : TablePlace) : Except TableError TableReader :=
  if maxFieldLength ≤ r.length then .error .fieldTooLong
  else .ok { r with field := c :: r.field, length := r.length + 1, place }

def endField (r : TableReader) (place : TablePlace) : TableReader :=
  { r with field := [], length := 0, row := r.field.reverse :: r.row, place }

def endRow (r : TableReader) : TableReader :=
  { r with row := [], rows := r.row.reverse :: r.rows, place := .rowStart }

def isBreak (c : Char) : Bool := c == '\n' || c == '\r'

def readChar (r : TableReader) (c : Char) : Except TableError TableReader :=
  match r.place with
  | .rowStart | .fieldStart =>
    if isBreak c then
      .ok (if r.place = .rowStart then { r with place := .afterBreak } else r.endField .afterBreak)
    else if c = '"' then .ok { r with place := .inQuotes }
    else if c = ',' then .ok (r.endField .fieldStart)
    else r.add c .inField
  | .inField =>
    if isBreak c then .ok (r.endField .afterBreak)
    else if c = ',' then .ok (r.endField .fieldStart)
    else r.add c .inField
  | .inQuotes => if c = '"' then .ok { r with place := .afterQuote } else r.add c .inQuotes
  | .afterQuote =>
    if c = '"' then r.add c .inQuotes
    else if c = ',' then .ok (r.endField .fieldStart)
    else if isBreak c then .ok (r.endField .afterBreak)
    else r.add c .inField
  | .afterBreak => if isBreak c then .ok r else .error .strayBreak

/-- The end of a line ends the row, unless a quoted field is open. -/
def endLine (r : TableReader) : TableReader :=
  match r.place with
  | .rowStart | .afterBreak => r.endRow
  | .fieldStart | .inField | .afterQuote => (r.endField .rowStart).endRow
  | .inQuotes => r

def readLine (r : TableReader) (line : Text) : Except TableError TableReader :=
  (line.foldlM readChar r).map endLine

/-- The end of the text ends a quoted field that is still open. -/
def finish (r : TableReader) : List (List Text) :=
  (if r.place = .inQuotes then (r.endField .rowStart).endRow else r).rows.reverse

end TableReader

/-- Lines with their line feeds. -/
def wholeLines (t : Text) : List Text :=
  match (t.pieces '\n').reverse with
  | [] => []
  | last :: before =>
    before.reverse.map (· ++ ['\n']) ++ (if last.isEmpty then [] else [last])

/-- The rows of a table. A blank line is a row without fields. -/
def tableRows (t : Text) : Except TableError (List (List Text)) :=
  ((wholeLines t).foldlM TableReader.readLine TableReader.start).map TableReader.finish

end CommitMessage.Page
