import CommitMessage.Page.CharacterReferences
import CommitMessage.Page.Table
import CommitMessage.Trailer

/-! What a fetched page says about a reference: whether it exists, and a short detail to show. -/

namespace CommitMessage.Page

/-- The first place of a text where `read?` succeeds. -/
def firstMatch? {α : Type} (read? : Text → Option α) : Text → Option α
  | [] => read? []
  | c :: rest =>
    match read? (c :: rest) with
    | some found => some found
    | none => firstMatch? read? rest

def some? (t : Text) : Option Text := if t.isEmpty then none else some t

/-- The text up to the next tag; there has to be some. -/
def textBeforeTag? (t : Text) : Option Text := some? (t.takeWhile (· != '<'))

/-- Passes over a tag that begins with `opening` and holds `mark` before its end. -/
def skipTag? (opening mark : String) (t : Text) : Option Text := do
  let rest ← Text.skip? opening.toList t
  let (inside, after) ← Text.splitAt? ['>'] rest
  if Text.holds mark.toList inside then some after else none

/-! Tickets: a table whose second row is the ticket, with the title in its second field. -/

/-- The second line is there and shows something. -/
def ticketExists (body : Text) : Bool :=
  match body.pieces '\n' with
  | _ :: second :: _ => !second.isAllBlank
  | _ => false

def ticketTitle (body : Text) : Except Problem (Option Text) :=
  match tableRows body with
  | .ok (_ :: (_ :: title :: _) :: _) => do return some? (← decode title).trim
  | _ => .ok none

/-! Changesets: the first paragraph of the message, or the message of the overview. -/

def missingChangeset : Text := "No such changeset".toList

def changesetExists (body : Text) : Bool := !Text.holds missingChangeset body

/-- The content of the message section: it is headed by a term that is about the message, and
follows the end of that term or of a later one. -/
def messageSection? (body : Text) : Option Text := do
  let t ← firstMatch? (skipTag? "<dt" "property message") body
  let t ← firstMatch? (fun t => do
    let t ← Text.skip? "</dt>".toList t
    skipTag? "<dd" "message" (t.dropWhile isBlank)) t
  let (content, _) ← Text.splitAt? "</dd>".toList t
  return content

/-- The text that a paragraph tag opens. -/
def paragraph? (t : Text) : Option Text :=
  firstMatch? (fun t => skipTag? "<p" "" t >>= textBeforeTag?) t

/-- The overview list, without its closing tag. -/
def overviewList? (body : Text) : Option Text := do
  let (_, t) ← Text.splitAt? "<dl id=\"overview\"".toList body
  let (content, _) ← Text.splitAt? "</dl>".toList t
  return content

/-- The message of an overview list. A closing tag follows the list, so no text runs to its end. -/
def overviewMessage? (overview : Text) : Option Text :=
  firstMatch? (fun t => do
    let t ← Text.skip? "<dt>Message:</dt>".toList t
    let t ← skipTag? "<dd" "" (t.dropWhile isBlank)
    textBeforeTag? t) (overview ++ "</dl>".toList)

/-- Takes tags out of a text of at most `fuel` characters. -/
def stripTagsUpTo : Nat → Text → Text
  | fuel + 1, '<' :: rest =>
    match Text.splitAt? ['>'] rest with
    | some (_ :: _, after) => stripTagsUpTo fuel after
    | _ => '<' :: stripTagsUpTo fuel rest
  | fuel + 1, c :: rest => c :: stripTagsUpTo fuel rest
  | _, _ => []

def stripTags (t : Text) : Text := stripTagsUpTo t.length t

/-- Every run of blanks becomes one space. -/
def collapseBlanks : Text → Text
  | c :: d :: rest =>
    if isBlank c then
      if isBlank d then collapseBlanks (d :: rest) else ' ' :: collapseBlanks (d :: rest)
    else c :: collapseBlanks (d :: rest)
  | [c] => if isBlank c then [' '] else [c]
  | [] => []

/-- Tags out, references decoded, and words one space apart. -/
def cleanText (t : Text) : Except Problem Text := do
  return (collapseBlanks (← decode (stripTags t))).trim

/-- Several periods at the end become one. -/
def onePeriod (t : Text) : Text :=
  if t.getLast? = some '.' then (t.reverse.dropWhile (· == '.')).reverse ++ ['.'] else t

def detailLength : Nat := 80

def truncate (t : Text) : Text :=
  if t.length ≤ detailLength then t else t.take (detailLength - 3) ++ "...".toList

/-- The detail that a found message makes; none if it shows nothing. -/
def messageDetail? (found : Option Text) : Except Problem (Option Text) :=
  match found with
  | none => .ok none
  | some t => do return (some? (← cleanText t)).map fun message => truncate (onePeriod message)

def changesetMessage (body : Text) : Except Problem (Option Text) := do
  match ← messageDetail? (messageSection? body >>= paragraph?) with
  | some detail => return some detail
  | none => messageDetail? (overviewList? body >>= overviewMessage?)

/-! Profiles: the display name in front of the handle in the page title. -/

/-- Passes over a text in any case. -/
def skipCaseless? (lead : Text) (t : Text) : Option Text :=
  if (t.take lead.length).map Trailer.caseless = lead then
    some (t.drop lead.length)
  else none

/-- The content of the first title that holds no tag. -/
def pageTitle? (body : Text) : Option Text :=
  firstMatch? (fun t => do
    let t ← skipCaseless? "<title>".toList t
    let title ← textBeforeTag? t
    let _ ← skipCaseless? "</title>".toList (t.drop title.length)
    return title) body

/-- What stands before the first parenthesis; there has to be one, and something before it. -/
def nameBeforeHandle? (title : Text) : Option Text :=
  match Text.splitAt? ['('] title with
  | some (name, _) => if name.isEmpty then none else some? name.trim
  | none => none

def profileName (body : Text) : Except Problem (Option Text) :=
  match pageTitle? body with
  | none => .ok none
  | some title => do return nameBeforeHandle? (← decode title)

end CommitMessage.Page
