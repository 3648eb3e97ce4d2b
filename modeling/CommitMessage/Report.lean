import CommitMessage.Annotation
import CommitMessage.Json.Printer
import CommitMessage.Lint.Problem

/-! What is reported on a message: its findings, and the annotations of its lines. As text, every
finding and every annotation is a line that begins with its place, counted from one; as JSON,
places are counted from zero. -/

namespace CommitMessage

structure Report where
  path : Text
  findings : List Lint.Finding
  annotations : List (Int × List Annotation) := []

namespace Report

def hasErrors (r : Report) : Bool := r.findings.any (·.isError)

def placeText (path : Text) (line column : Int) : Text :=
  path ++ ':' :: Decimal.ofInt (line + 1) ++ ':' :: Decimal.ofInt (column + 1) ++ ':' :: [' ']

def findingLine (path : Text) (f : Lint.Finding) : Text :=
  placeText path f.line f.columnStart ++ f.problem.severity.name ++ ':' :: ' ' ::
    f.problem.message ++ ' ' :: '[' :: f.problem.code ++ [']', '\n']

def annotationLine (path : Text) (line : Int) (a : Annotation) : Text :=
  placeText path line a.position ++ a.status.name ++ ':' :: ' ' :: a.text ++ ['\n']

def placed (r : Report) : List (Int × Annotation) :=
  r.annotations.flatMap fun (line, annotations) => annotations.map ((line, ·))

def text (r : Report) : Text :=
  r.findings.flatMap (findingLine r.path) ++
    r.placed.flatMap fun (line, a) => annotationLine r.path line a

def findingJson (f : Lint.Finding) : Json := .object
  [("line".toList, .int f.line), ("column_start".toList, .int f.columnStart),
    ("column_end".toList, .int f.columnEnd), ("severity".toList, .string f.problem.severity.name),
    ("code".toList, .string f.problem.code), ("message".toList, .string f.problem.message)]

def annotationJson (line : Int) (a : Annotation) : Json := .object
  [("line".toList, .int line), ("position".toList, .int a.position),
    ("kind".toList, .string a.reference.kind.name),
    ("identifier".toList, .string a.reference.identifier),
    ("status".toList, .string a.status.name), ("display_text".toList, .string a.text)]

def findingsJson (r : Report) : Json := .array (r.findings.map findingJson)

def annotationsJson (r : Report) : Json :=
  .array (r.placed.map fun (line, a) => annotationJson line a)

def json (r : Report) : Json := .object
  [("path".toList, .string r.path), ("findings".toList, r.findingsJson),
    ("annotations".toList, r.annotationsJson)]

def printed (r : Report) (asJson : Bool) : Text :=
  if asJson then r.json.indented 0 ++ ['\n'] else r.text

end Report

end CommitMessage
