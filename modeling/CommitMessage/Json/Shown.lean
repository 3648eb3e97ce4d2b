import CommitMessage.Json.Basic
import CommitMessage.Text.Quoted

/-! How a value reads inside a message. Texts stand as they are, but in quotes where they are part
of a list or an object. -/

namespace CommitMessage.Json

def shownNumber : Binary64 → Text
  | .nan => "nan".toList
  | .infinity negative => Decimal.sign negative ++ "inf".toList
  | .finite negative significand exponent => Decimal.shortestText negative significand exponent

mutual

/-- The value with its texts in quotes. -/
def quoted : Json → Text
  | null => "None".toList
  | bool true => "True".toList
  | bool false => "False".toList
  | int n => Decimal.ofInt n
  | number x => shownNumber x
  | string t => t.quoted
  | array items => '[' :: quotedItems items ++ [']']
  | object members => '\x7b' :: quotedMembers members ++ ['\x7d']

def quotedItems : List Json → Text
  | [] => []
  | [item] => quoted item
  | item :: rest => quoted item ++ ',' :: ' ' :: quotedItems rest

def quotedMembers : List (Text × Json) → Text
  | [] => []
  | [(key, value)] => key.quoted ++ ':' :: ' ' :: quoted value
  | (key, value) :: rest =>
    key.quoted ++ ':' :: ' ' :: quoted value ++ ',' :: ' ' :: quotedMembers rest

end

/-- The value itself: a text without quotes. -/
def shown : Json → Text
  | string t => t
  | other => quoted other

/-- A character beyond ASCII as its code point. -/
def asciiChar (c : Char) : Text :=
  if c.toNat < 0x80 then [c]
  else if c.toNat < 0x100 then '\\' :: 'x' :: Text.hexDigits 2 c.toNat
  else if c.toNat < 0x10000 then '\\' :: 'u' :: Text.hexDigits 4 c.toNat
  else '\\' :: 'U' :: Text.hexDigits 8 c.toNat

def asciiQuoted (j : Json) : Text := j.quoted.flatMap asciiChar

/-- What sort of value it is, in the words of a complaint. -/
def sort : Json → Text
  | null => "NoneType".toList
  | bool _ => "bool".toList
  | int _ => "int".toList
  | number _ => "float".toList
  | string _ => "str".toList
  | array _ => "list".toList
  | object _ => "dict".toList

/-- Whether there is nothing in it: no truth, no amount, no text, no member. -/
def isVoid : Json → Bool
  | null => true
  | bool b => !b
  | int n => n = 0
  | number (.finite _ significand _) => significand = 0
  | number _ => false
  | string t => t.isEmpty
  | array items => items.isEmpty
  | object members => members.isEmpty

end CommitMessage.Json
