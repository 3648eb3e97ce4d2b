import CommitMessage.Lint.Problem
import CommitMessage.Text.Letter

/-! The first line: a component, a colon, and a summary of 50 to 70 characters that starts with
a capital letter and ends with a period. -/

namespace CommitMessage.Lint

/-- Text up to a line feed, and at most that line feed after it. -/
def lastLine? (t : Text) : Option Text :=
  let line := t.takeWhile (· != '\n')
  let rest := t.dropWhile (· != '\n')
  if line.isEmpty || 1 < rest.length then none else some line

/-- The text after the longest run of leading blanks that leaves a last line, with the number
of blanks passed over. -/
def summaryText? : Text → Option (Nat × Text)
  | [] => none
  | c :: rest =>
    let later := if isBlank c then summaryText? rest else none
    match later with
    | some (skipped, text) => some (skipped + 1, text)
    | none => (lastLine? (c :: rest)).map fun line => (0, line)

/-- A line cut at its first colon: the component, and what follows the colon. -/
def cutAtColon? (line : Text) : Option (Text × Text) :=
  match line.dropWhile (· != ':') with
  | _ :: rest => some (line.takeWhile (· != ':'), rest)
  | [] => none

def isComponentChar (c : Char) : Bool := c.isAlphanum || isBlank c || c == '-' || c == '/'

/-- A component is a letter and then letters, digits, blanks, hyphens and slashes. -/
def isComponent : Text → Bool
  | [] => false
  | c :: rest => c.isAlpha && rest.all isComponentChar

def isSummaryLine (line : Text) : Bool :=
  match cutAtColon? line with
  | some (component, rest) => isComponent component && (summaryText? rest).isSome
  | none => false

/-- The parts of a first line: component, column of the summary, summary. -/
def summaryParts? (line : Text) : Option (Text × Nat × Text) := do
  let (component, rest) ← cutAtColon? line
  if component.isEmpty then none
  else
    let (skipped, summary) ← summaryText? rest
    return (component, component.length + 1 + skipped, summary)

/-- Findings on a component and on a summary that starts at `column` of a line of `length`. -/
def partFindings (length : Nat) (component : Text) (column : Nat) (summary : Text) :
    List Finding :=
  (if component.head?.any isLower then
    [{ line := 0, columnStart := 0, columnEnd := component.length,
       problem := .componentCapitalization }] else []) ++
  (if summary.head?.any isUpper then [] else
    [{ line := 0, columnStart := column, columnEnd := column + 1,
       problem := .summaryCapitalization }]) ++
  (if summary.getLast? = some '.' then [] else
    [{ line := 0, columnStart := length - 1, columnEnd := length, problem := .summaryPeriod }])

def summaryFindings (lines : List Text) : List Finding :=
  match lines with
  | [] => [.atLine 0 .summaryMissing]
  | line :: _ =>
    if line.isAllBlank then [.atLine 0 .summaryMissing]
    else
      (if isSummaryLine line then [] else [.onLine 0 line .summaryFormat]) ++
      (if line.length > summaryMaxLength then
        [{ line := 0, columnStart := summaryMinLength, columnEnd := line.length,
           problem := .summaryLength line.length }] else []) ++
      (match summaryParts? line with
       | some (component, column, summary) => partFindings line.length component column summary
       | none => [])

end CommitMessage.Lint
