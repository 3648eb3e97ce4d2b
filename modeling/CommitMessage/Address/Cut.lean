import CommitMessage.Text.Blank

/-! Cutting addresses at their marks. -/

namespace CommitMessage

namespace Text

/-- The text before a mark, and the text after it, if the mark is there. -/
def cutAt (mark : Char) (t : Text) : Text × Option Text :=
  match t.dropWhile (· != mark) with
  | [] => (t, none)
  | _ :: after => (t.takeWhile (· != mark), some after)

/-- The text after the last of the marks; all of it if there is none. -/
def afterLast (mark : Char) (t : Text) : Text := (t.reverse.takeWhile (· != mark)).reverse

/-- The text up to the last of the marks, with it; no text if there is none. -/
def throughLast (mark : Char) (t : Text) : Text := (t.reverse.dropWhile (· != mark)).reverse

end Text

namespace Address

def isSchemeChar (c : Char) : Bool := c.isAlphanum || c == '+' || c == '-' || c == '.'

/-- Marks that end a host. -/
def isHostEnd (c : Char) : Bool := c == '/' || c == '?' || c == '#'

/-- The scheme as it is written and what follows its colon; no scheme if there is none. -/
def cutScheme (t : Text) : Text × Text :=
  match t.cutAt ':' with
  | (c :: scheme, some rest) =>
    if c.isAlpha && scheme.all isSchemeChar then (c :: scheme, rest) else ([], t)
  | _ => ([], t)

/-- The host as it is written after two slashes, and what follows it. -/
def cutHost : Text → Text × Text
  | '/' :: '/' :: rest => (rest.takeWhile (!isHostEnd ·), rest.dropWhile (!isHostEnd ·))
  | t => ([], t)

end Address

end CommitMessage
