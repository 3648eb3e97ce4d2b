import CommitMessage.Text.Blank

/-! Cutting text at a separator, and a message into its lines. -/

namespace CommitMessage.Text

/-- The pieces between the separators; always one more than there are separators. -/
def pieces (separator : Char) (t : Text) : List Text :=
  t.foldr (fun c parts =>
    if c = separator then [] :: parts
    else match parts with
      | [] => [[c]]
      | part :: rest => (c :: part) :: rest) [[]]

/-- Pieces put together again with something between them. -/
def joinWith (separator : Text) : List Text → Text
  | [] => []
  | [part] => part
  | part :: rest => part ++ separator ++ joinWith separator rest

/-- Drops every carriage return that stands right before a line feed. -/
def plainBreaks : Text → Text
  | '\r' :: '\n' :: rest => '\n' :: plainBreaks rest
  | c :: rest => c :: plainBreaks rest
  | [] => []

/-- The text without its last character, where that is `c`. -/
def dropFinal (c : Char) (t : Text) : Text :=
  if t.getLast? = some c then t.dropLast else t

/-- The lines of a message. A final line break ends the last line and opens no other. -/
def messageLines (t : Text) : List Text :=
  match plainBreaks t with
  | [] => []
  | plain => pieces '\n' (dropFinal '\n' plain)

/-! Small steps for reading text from the left. Each gives the rest, or nothing where it does
not apply. -/

/-- Passes over one or more characters of a class, as many as there are. -/
def skipSome? (p : Char → Bool) : Text → Option Text
  | c :: rest => if p c then some (rest.dropWhile p) else none
  | [] => none

/-- Passes over exactly the given text. -/
def skip? (lead : Text) (t : Text) : Option Text :=
  match lead, t with
  | [], rest => some rest
  | a :: lead, c :: rest => if a = c then skip? lead rest else none
  | _ :: _, [] => none

/-- The first place where the given text stands, as what comes before it and what follows. -/
def splitAt? (mark : Text) : Text → Option (Text × Text)
  | [] => if mark.isEmpty then some ([], []) else none
  | c :: rest =>
    match skip? mark (c :: rest) with
    | some after => some ([], after)
    | none => (splitAt? mark rest).map fun (before, after) => (c :: before, after)

/-- Whether the given text stands anywhere in this one. -/
def holds (mark : Text) : Text → Bool
  | [] => mark.isEmpty
  | c :: rest => (skip? mark (c :: rest)).isSome || holds mark rest

end CommitMessage.Text
