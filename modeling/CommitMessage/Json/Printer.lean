import CommitMessage.Json.Basic

/-! JSON text in ASCII: a character beyond it is written as its UTF-16 units. A space follows
every comma and every colon. -/

namespace CommitMessage.Json

def unitText (n : Nat) : Text :=
  '\\' :: 'u' :: [n / 4096 % 16, n / 256 % 16, n / 16 % 16, n % 16].map Nat.digitChar

/-- A character as it stands between quotes. -/
def charText (c : Char) : Text :=
  if c = '"' then "\\\"".toList
  else if c = '\\' then "\\\\".toList
  else if c = '\n' then "\\n".toList
  else if c = '\r' then "\\r".toList
  else if c = '\t' then "\\t".toList
  else if c.toNat = 8 then "\\b".toList
  else if c.toNat = 12 then "\\f".toList
  else if 32 ≤ c.toNat ∧ c.toNat < 127 then [c]
  else if c.toNat < 0x10000 then unitText c.toNat
  else
    let offset := c.toNat - 0x10000
    unitText (0xd800 + offset / 1024) ++ unitText (0xdc00 + offset % 1024)

def stringText (t : Text) : Text := '"' :: t.flatMap charText ++ ['"']

def numberText : Binary64 → Text
  | .nan => "NaN".toList
  | .infinity false => "Infinity".toList
  | .infinity true => "-Infinity".toList
  | .finite negative significand exponent => Decimal.shortestText negative significand exponent

mutual

def render : Json → Text
  | null => "null".toList
  | bool true => "true".toList
  | bool false => "false".toList
  | int n => Decimal.ofInt n
  | number x => numberText x
  | string t => stringText t
  | array items => '[' :: renderItems items ++ [']']
  | object members => '\x7b' :: renderMembers members ++ ['\x7d']

def renderItems : List Json → Text
  | [] => []
  | [item] => render item
  | item :: rest => render item ++ ',' :: ' ' :: renderItems rest

def renderMembers : List (Text × Json) → Text
  | [] => []
  | [(key, value)] => stringText key ++ ':' :: ' ' :: render value
  | (key, value) :: rest =>
    stringText key ++ ':' :: ' ' :: render value ++ ',' :: ' ' :: renderMembers rest

end

/-! Over several lines: an item or a member a line, two spaces deeper than what it stands in. -/

def newLine (depth : Nat) : Text := '\n' :: List.replicate (2 * depth) ' '

mutual

def indented (depth : Nat) : Json → Text
  | array [] => "[]".toList
  | array (item :: rest) =>
    '[' :: newLine (depth + 1) ++ indented (depth + 1) item ++ indentedItems depth rest
  | object [] => "\x7b\x7d".toList
  | object ((key, value) :: rest) =>
    '\x7b' :: newLine (depth + 1) ++ stringText key ++ ':' :: ' ' ::
      indented (depth + 1) value ++ indentedMembers depth rest
  | other => render other

/-- The items after the first, and the end of the list. -/
def indentedItems (depth : Nat) : List Json → Text
  | [] => newLine depth ++ [']']
  | item :: rest =>
    ',' :: newLine (depth + 1) ++ indented (depth + 1) item ++ indentedItems depth rest

/-- The members after the first, and the end of the object. -/
def indentedMembers (depth : Nat) : List (Text × Json) → Text
  | [] => newLine depth ++ ['\x7d']
  | (key, value) :: rest =>
    ',' :: newLine (depth + 1) ++ stringText key ++ ':' :: ' ' ::
      indented (depth + 1) value ++ indentedMembers depth rest

end

end CommitMessage.Json
