import CommitMessage.Reference
import CommitMessage.Trailer
import CommitMessage.Text.Word

/-! References in a message. A ticket is a number sign and digits with no word character after
them, a changeset is digits in brackets, and a profile is a valid entry of a username list. -/

namespace CommitMessage

/-- A reference, and the line and columns where the message names it. -/
structure Occurrence where
  line : Nat
  columnStart : Nat
  columnEnd : Nat
  reference : Reference
  deriving DecidableEq, Repr

namespace Occurrence

/-- The digits of a ticket reference at the start of the text. -/
def ticket? : Text → Option Text
  | '#' :: rest =>
    let digits := rest.takeWhile isDigit
    if digits.isEmpty || (rest.dropWhile isDigit).head?.any isWord then none else some digits
  | _ => none

/-- The digits of a changeset reference at the start of the text. -/
def changeset? : Text → Option Text
  | '[' :: rest =>
    let digits := rest.takeWhile isDigit
    if digits.isEmpty || (rest.dropWhile isDigit).head? != some ']' then none else some digits
  | _ => none

/-- Every place from `column` on where `read?` finds digits. -/
def scan (read? : Text → Option Text) (column : Nat) : Text → List (Nat × Text)
  | [] => []
  | c :: rest =>
    match read? (c :: rest) with
    | some digits => (column, digits) :: scan read? (column + 1) rest
    | none => scan read? (column + 1) rest

def tickets (number : Nat) (line : Text) : List Occurrence :=
  (scan ticket? 0 line).map fun (column, digits) =>
    { line := number, columnStart := column, columnEnd := column + 1 + digits.length,
      reference := ⟨.ticket, digits⟩ }

def changesets (number : Nat) (line : Text) : List Occurrence :=
  (scan changeset? 0 line).map fun (column, digits) =>
    { line := number, columnStart := column, columnEnd := column + 2 + digits.length,
      reference := ⟨.changeset, digits⟩ }

def profiles (number : Nat) (line : Text) : List Occurrence :=
  match Trailer.ofLine? line with
  | some trailer =>
    if trailer.kind.listsUsernames && Trailer.startsUsernameList trailer.content then
      (trailer.usernames.filter (·.isValid)).map fun token =>
        { line := number, columnStart := token.column, columnEnd := token.columnEnd,
          reference := ⟨.profile, token.text⟩ }
    else []
  | none => []

/-- Keeps the first occurrence of each reference. -/
def distinct (seen : List Reference) : List Occurrence → List Occurrence
  | [] => []
  | o :: rest =>
    if o.reference ∈ seen then distinct seen rest
    else o :: distinct (o.reference :: seen) rest

def ofLine (number : Nat) (line : Text) : List Occurrence :=
  distinct [] (tickets number line ++ changesets number line ++ profiles number line)

/-- Earlier lines first, and earlier columns first within a line. -/
def precedes (o p : Occurrence) : Bool :=
  o.line < p.line || (o.line == p.line && o.columnStart ≤ p.columnStart)

/-- The references of a message in the order of the text, each once a line. -/
def ofLines (lines : List Text) : List Occurrence :=
  (lines.zipIdx.flatMap fun (line, number) => ofLine number line).mergeSort precedes

end Occurrence

end CommitMessage
