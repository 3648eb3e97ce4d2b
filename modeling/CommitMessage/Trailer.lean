import CommitMessage.Text.Lines
import CommitMessage.Text.Digit

/-! Trailers, the closing lines of a message. A trailer is its keyword as written, a gap of
blanks, and the content; together they are the whole line. -/

namespace CommitMessage

inductive Trailer.Kind where
  | followUp
  | reviewedBy
  | merges
  | props
  | fixes
  | see
  deriving DecidableEq, Repr

structure Trailer where
  kind : Trailer.Kind
  /-- The keyword as the line writes it. -/
  written : Text
  /-- The blanks between keyword and content, at least one. -/
  gap : Text
  content : Text
  deriving DecidableEq, Repr

namespace Trailer

/-- What a keyword asks for, place by place. -/
inductive Mark where
  /-- A letter or a hyphen, in either case. -/
  | letter (c : Char)
  /-- One space or one hyphen. -/
  | spaceOrHyphen
  /-- One or more blanks. -/
  | blanks
  deriving DecidableEq, Repr

/-- The ASCII character that `c` stands for when case is ignored: the dotted and the dotless i
count as i, the long s as s, the Kelvin sign as k. -/
def caseless (c : Char) : Char :=
  if c = 'İ' ∨ c = 'ı' then 'i'
  else if c = 'ſ' then 's'
  else if c.toNat = 0x212a then 'k'
  else c.toLower

/-- Takes the marks from the left of a line: what they cover, and the rest. -/
def Mark.take? : List Mark → Text → Option (Text × Text)
  | [], line => some ([], line)
  | .letter m :: marks, c :: line =>
    if caseless c = m then (take? marks line).map fun (seen, rest) => (c :: seen, rest) else none
  | .spaceOrHyphen :: marks, c :: line =>
    if c = ' ' ∨ c = '-' then (take? marks line).map fun (seen, rest) => (c :: seen, rest)
    else none
  | .blanks :: marks, c :: line =>
    if isBlank c then
      (take? marks (line.dropWhile isBlank)).map fun (seen, rest) =>
        (c :: line.takeWhile isBlank ++ seen, rest)
    else none
  | _ :: _, [] => none

namespace Kind

/-- In the order in which a line is tried against them. -/
def all : List Kind := [followUp, reviewedBy, merges, props, fixes, see]

def name : Kind → Text
  | followUp => "follow-up".toList
  | reviewedBy => "reviewed-by".toList
  | merges => "merges".toList
  | props => "props".toList
  | fixes => "fixes".toList
  | see => "see".toList

/-- The keyword as it should be written. -/
def keyword : Kind → Text
  | followUp => "Follow-up to".toList
  | reviewedBy => "Reviewed by".toList
  | merges => "Merges".toList
  | props => "Props".toList
  | fixes => "Fixes".toList
  | see => "See".toList

/-- The section name that findings use. -/
def label : Kind → Text
  | followUp => "Follow-up".toList
  | kind => kind.keyword

/-- The place of the section; Fixes and See share one. -/
def order : Kind → Nat
  | followUp => 1
  | reviewedBy => 2
  | merges => 3
  | props => 4
  | fixes => 5
  | see => 5

def marks : Kind → List Mark
  | followUp => "follow-up".toList.map .letter ++ .blanks :: "to".toList.map .letter
  | reviewedBy => "reviewed".toList.map .letter ++ .spaceOrHyphen :: "by".toList.map .letter
  | merges => "merges".toList.map .letter
  | props => "props".toList.map .letter
  | fixes => "fixes".toList.map .letter
  | see => "see".toList.map .letter

def isTicketReference : Kind → Bool
  | fixes | see => true
  | _ => false

def listsUsernames : Kind → Bool
  | props | reviewedBy => true
  | _ => false

/-- The line as a trailer of this kind: its keyword and then at least one blank. -/
def read? (kind : Kind) (line : Text) : Option Trailer := do
  let (written, rest) ← Mark.take? kind.marks line
  let content ← Text.skipSome? isBlank rest
  return { kind, written, gap := rest.takeWhile isBlank, content }

end Kind

def ofLine? (line : Text) : Option Trailer := Kind.all.findSome? (·.read? line)

def contentStart (t : Trailer) : Nat := t.written.length + t.gap.length

/-- The sections in their order, as findings name them. -/
def orderDescription : Text := "Follow-up, Reviewed by, Merges, Props, Fixes/See".toList

end Trailer

def isUsernameChar (c : Char) : Bool := c.isAlphanum || c == '_' || c == '-'

def isUsername (t : Text) : Bool := !t.isEmpty && t.all isUsernameChar

/-- One entry of a username list, without the blanks around it. -/
structure UsernameToken where
  text : Text
  column : Nat
  deriving DecidableEq, Repr

namespace UsernameToken

def columnEnd (t : UsernameToken) : Nat := t.column + t.text.length

def isValid (t : UsernameToken) : Bool := isUsername t.text

/-- Entries that stand one after the other with a comma between them. -/
def ofEntries (column : Nat) : List Text → List UsernameToken
  | [] => []
  | entry :: rest =>
    { text := entry.trim, column := column + (entry.takeWhile isBlank).length } ::
      ofEntries (column + entry.length + 1) rest

end UsernameToken

namespace Trailer

/-- Whether the content opens with a username character. -/
def startsUsernameList (content : Text) : Bool := content.head?.any isUsernameChar

/-- The content read as a comma-separated list, less the blanks at its end and one period. -/
def usernames (t : Trailer) : List UsernameToken :=
  UsernameToken.ofEntries t.contentStart ((Text.dropFinal '.' t.content.trimEnd).pieces ',')

end Trailer

end CommitMessage
