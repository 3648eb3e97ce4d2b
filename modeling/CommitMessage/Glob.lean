import CommitMessage.Text.Lines

/-! File patterns. A star stands for any text, a question mark for one character, and brackets
for one character of a set. Letter case counts. -/

namespace CommitMessage.Glob

inductive Token where
  | star
  | one
  | literal (c : Char)
  /-- A character of a set, or one outside of it. The pieces are the text between the brackets cut
  at the hyphens that make ranges. -/
  | set (negated : Bool) (pieces : List Text)
  deriving DecidableEq, Repr

/-- Cuts at every hyphen that makes a range: at least `least` characters stand before the first,
and two or more between one and the next. -/
def cutRanges : Nat → Nat → Text → List Text
  | 0, _, t => [t]
  | fuel + 1, least, t =>
    match (t.drop least).dropWhile (· != '-') with
    | [] => [t]
    | _ :: after =>
      t.take (t.length - after.length - 1) :: cutRanges fuel 2 after

/-- A hyphen at the very end makes no range and is a member of the set. -/
def keepFinalHyphen : List Text → List Text
  | [] => []
  | [t, []] => [t ++ ['-']]
  | t :: rest => t :: keepFinalHyphen rest

/-- Takes out the ranges that run backwards, together with both of their ends. -/
def dropEmptyRanges : List Text → List Text
  | [] => []
  | t :: rest =>
    match dropEmptyRanges rest with
    | [] => [t]
    | next :: later =>
      match t.getLast?, next.head? with
      | some a, some b =>
        if b < a then (t.dropLast ++ next.drop 1) :: later else t :: next :: later
      | _, _ => t :: next :: later

/-- The set that stands between brackets. An exclamation mark in front turns it around. -/
def setToken (inside : Text) : Token :=
  let least := if inside.head? = some '!' then 2 else 1
  match dropEmptyRanges (keepFinalHyphen (cutRanges inside.length least inside)) with
  | ('!' :: t) :: rest => .set true (t :: rest)
  | pieces => .set false pieces

/-- The text up to the bracket that closes a set, and what follows it. A closing bracket that
comes first is a member. -/
def closing? (t : Text) : Option (Text × Text) :=
  let lead := match t with
    | '!' :: ']' :: _ => 2
    | '!' :: _ => 1
    | ']' :: _ => 1
    | _ => 0
  let body := t.drop lead
  match body.dropWhile (· != ']') with
  | [] => none
  | _ :: after => some (t.take lead ++ body.takeWhile (· != ']'), after)

/-- The tokens of a pattern of at most `fuel` characters. -/
def tokensUpTo : Nat → Text → List Token
  | fuel + 1, c :: rest =>
    if c = '*' then .star :: tokensUpTo fuel rest
    else if c = '?' then .one :: tokensUpTo fuel rest
    else if c = '[' then
      match closing? rest with
      | some (inside, after) => setToken inside :: tokensUpTo fuel after
      | none => .literal c :: tokensUpTo fuel rest
    else .literal c :: tokensUpTo fuel rest
  | _, _ => []

def tokens (pattern : Text) : List Token := tokensUpTo pattern.length pattern

/-- Membership in a set: a range runs from the last character of a piece to the first of the
next, and all other characters stand for themselves. -/
def inPieces (c : Char) (t : Text) : List Text → Bool
  | [] => t.contains c
  | next :: rest =>
    t.dropLast.contains c ||
      (match t.getLast?, next.head? with
       | some a, some b => a ≤ c && c ≤ b
       | _, _ => false) ||
      inPieces c (next.drop 1) rest

/-- Whether a token other than a star accepts a character. -/
def Token.acceptsChar (c : Char) : Token → Bool
  | star => false
  | one => true
  | literal d => c == d
  | set negated pieces => inPieces c (pieces.headD []) pieces.tail != negated

/-- For every place of a list, whether there or later stands a `true`. -/
def hereOrLater : List Bool → List Bool
  | [] => []
  | b :: rest =>
    let later := hereOrLater rest
    (b || later.headD false) :: later

/-- For the text and then for every shorter end of it, down to the empty one, whether the tokens
accept it. -/
def acceptsEnds (t : Text) : List Token → List Bool
  | [] => t.map (fun _ => false) ++ [true]
  | .star :: rest => hereOrLater (acceptsEnds t rest)
  | token :: rest =>
    List.zipWith (fun c later => token.acceptsChar c && later) t (acceptsEnds t rest).tail ++
      [false]

def accepts (tokens : List Token) (t : Text) : Bool := (acceptsEnds t tokens).headD false

def fits (pattern t : Text) : Bool := accepts (tokens pattern) t

end CommitMessage.Glob

namespace CommitMessage

/-- The last component of a path. Empty components and single periods do not count. -/
def fileName (path : Text) : Text :=
  ((path.pieces '/').filter fun part => !part.isEmpty && part != ['.']).getLast?.getD []

/-- A file is a message if its name or its whole path fits one of the patterns. -/
def isMessageFile (patterns : List Text) (path : Text) : Bool :=
  patterns.any fun pattern => Glob.fits pattern (fileName path) || Glob.fits pattern path

/-- The names under which version control leaves messages. -/
def standardPatterns : List Text := ["COMMIT_EDITMSG".toList, "svn-commit.tmp".toList]

end CommitMessage
