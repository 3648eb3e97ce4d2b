import CommitMessage.Lint.Sections
import CommitMessage.Occurrence

/-! A trailer line on its own: keyword, content, period and usernames. -/

namespace CommitMessage.Lint

/-- Passes over at most so many points that digits follow, with those digits. -/
def skipPoints : Nat → Text → Text
  | fuel + 1, '.' :: rest =>
    match Text.skipSome? isDigit rest with
    | some after => skipPoints fuel after
    | none => '.' :: rest
  | _, rest => rest

/-- One or more runs of digits with a point between them; gives the rest. -/
def skipVersion? (t : Text) : Option Text := do
  let rest ← Text.skipSome? isDigit t
  return skipPoints rest.length rest

/-- Content of the form `[12345] to the 1.2 branch`, with or without a period. -/
def isMergeContent (content : Text) : Bool :=
  let rest? : Option Text := do
    let rest ← Text.skip? ['['] content.trimEnd
    let rest ← Text.skipSome? isDigit rest
    let rest ← Text.skip? [']'] rest
    let rest ← Text.skipSome? isBlank rest
    let rest ← Text.skip? "to".toList rest
    let rest ← Text.skipSome? isBlank rest
    let rest ← Text.skip? "the".toList rest
    let rest ← Text.skipSome? isBlank rest
    let rest ← skipVersion? rest
    let rest ← Text.skipSome? isBlank rest
    Text.skip? "branch".toList rest
  rest? = some [] || rest? = some ['.']

def hasContent (kind : Trailer.Kind) (content : Text) : Bool :=
  match kind with
  | .fixes | .see => !(Occurrence.scan Occurrence.ticket? 0 content).isEmpty
  | .followUp => !(Occurrence.scan Occurrence.changeset? 0 content).isEmpty
  | .merges => isMergeContent content
  | .props | .reviewedBy => Trailer.startsUsernameList content

/-- Equal up to the case of ASCII letters. -/
def equalUpToCase (t u : Text) : Bool := t.map Char.toLower == u.map Char.toLower

def keywordFindings (t : TrailerLine) : List Finding :=
  let kind := t.trailer.kind
  let written := t.trailer.written
  if written = kind.keyword then []
  else [{ line := t.number, columnStart := 0, columnEnd := written.length,
          problem := .trailerCapitalization kind (equalUpToCase written kind.keyword) }]

def usernameFindings (t : TrailerLine) : List Finding :=
  (t.trailer.usernames.filter (!·.isValid)).map fun token =>
    { line := t.number, columnStart := token.column, columnEnd := token.columnEnd,
      problem := .usernameFormat token.text }

def trailerFindings (t : TrailerLine) : List Finding :=
  let kind := t.trailer.kind
  let wellFormed := hasContent kind t.trailer.content
  keywordFindings t ++
  (if wellFormed then [] else [.onLine t.number t.line (.trailerFormat kind)]) ++
  (if t.line.getLast? = some '.' then [] else
    [{ line := t.number, columnStart := t.line.length - 1, columnEnd := t.line.length,
       problem := .trailerPeriod kind }]) ++
  (if kind.listsUsernames && wellFormed then usernameFindings t else [])

end CommitMessage.Lint
