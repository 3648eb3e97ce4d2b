import CommitMessage.Page.NamedReferences
import CommitMessage.Number.Decimal
import CommitMessage.Text.Digit
import CommitMessage.Text.Lines

/-! Character references such as `&amp;`, `&#39;` and `&#x27;` replaced by what they stand for.
Every text can be read but one: a decimal number with more digits than are read. -/

namespace CommitMessage.Page

inductive Problem where
  /-- A decimal reference of so many digits. -/
  | tooManyDigits (count : Nat)
  deriving DecidableEq, Repr

def maxDigits : Nat := 4300

def Problem.message : Problem → Text
  | tooManyDigits count =>
    "Exceeds the limit (4300 digits) for integer string conversion: value has ".toList ++
      Decimal.digits count ++
      " digits; use sys.set_int_max_str_digits() to increase the limit".toList

/-- What the numbers 128 to 159 stand for. -/
def upperControls : List Nat :=
  [0x20ac, 0x81, 0x201a, 0x192, 0x201e, 0x2026, 0x2020, 0x2021, 0x2c6, 0x2030, 0x160, 0x2039,
   0x152, 0x8d, 0x17d, 0x8f, 0x90, 0x2018, 0x2019, 0x201c, 0x201d, 0x2022, 0x2013, 0x2014, 0x2dc,
   0x2122, 0x161, 0x203a, 0x153, 0x9d, 0x17e, 0x178]

/-- Controls and code points that are no character: a reference to one stands for nothing. -/
def isForbidden (n : Nat) : Bool :=
  (1 ≤ n && n ≤ 8) || n == 0xb || (0xe ≤ n && n ≤ 0x1f) || (0x7f ≤ n && n ≤ 0x9f) ||
    (0xfdd0 ≤ n && n ≤ 0xfdef) || 0xfffe ≤ n % 0x10000

/-- What a numeric reference stands for. -/
def numbered (n : Nat) : Text :=
  if 0x80 ≤ n ∧ n ≤ 0x9f then ((upperControls[n - 0x80]?).map Char.ofNat).toList
  else if n = 0 ∨ (0xd800 ≤ n ∧ n ≤ 0xdfff) ∨ 0x10ffff < n then [Char.ofNat 0xfffd]
  else if isForbidden n then []
  else [Char.ofNat n]

/-- What a name stands for; `ended` says that a semicolon ends it. -/
def named? (name : Text) (ended : Bool) : Option Text :=
  let written := String.ofList name
  if ended || bareNames.contains written then
    ((name.head?.map namedReferences).getD []).lookup written |>.map (·.map Char.ofNat)
  else none

/-- The longest beginning of at least two characters that is a bare name, and what it leaves. -/
def longestName? (name : Text) : Nat → Option (Text × Text)
  | 0 | 1 => none
  | length + 1 =>
    match named? (name.take (length + 1)) false with
    | some value => some (value, name.drop (length + 1))
    | none => longestName? name length

def isNameChar (c : Char) : Bool :=
  !(c == '\t' || c == '\n' || c.toNat == 12 || c == ' ' || c == '<' || c == '&' || c == '#' ||
    c == ';')

def hexNumber (t : Text) : Nat := t.foldl (fun n c => n * 16 + (hexValue? c).getD 0) 0

def dropSemicolon : Text → Text
  | ';' :: rest => rest
  | rest => rest

/-- Names are read up to this length. -/
def maxNameLength : Nat := 32

/-- The value of a name that stands right after an ampersand, with the rest of the text. -/
def readName (t : Text) : Text × Text :=
  let name := (t.takeWhile isNameChar).take maxNameLength
  let after := t.drop name.length
  let ended := after.head? = some ';'
  let rest := dropSemicolon after
  let tail := if ended then [';'] else []
  match named? name ended with
  | some value => (value, rest)
  | none =>
    match longestName? name (if ended then name.length else name.length - 1) with
    | some (value, left) => (value ++ left ++ tail, rest)
    | none => ('&' :: name ++ tail, rest)

/-- The reference that stands right after an ampersand: its value and the rest of the text. -/
def reference (t : Text) : Except Problem (Text × Text) :=
  match t with
  | '#' :: x :: rest =>
    let hex := if x = 'x' ∨ x = 'X' then rest.takeWhile (fun c => (hexValue? c).isSome)
      else []
    let decimal := (x :: rest).takeWhile isAsciiDigit
    if !hex.isEmpty then .ok (numbered (hexNumber hex), dropSemicolon (rest.drop hex.length))
    else if decimal.isEmpty then .ok (['&'], t)
    else if maxDigits < decimal.length then .error (.tooManyDigits decimal.length)
    else .ok (numbered (Decimal.value decimal),
      dropSemicolon ((x :: rest).drop decimal.length))
  | _ => .ok (readName t)

/-- Replaces the references of a text of at most `fuel` characters, from the left. What a
reference stands for is not read again. -/
def decodeUpTo : Nat → Text → Except Problem Text
  | fuel + 1, '&' :: rest => do
    let (value, rest) ← reference rest
    return value ++ (← decodeUpTo fuel rest)
  | fuel + 1, c :: rest => do
    return c :: (← decodeUpTo fuel rest)
  | _, _ => .ok []

def decode (t : Text) : Except Problem Text := decodeUpTo t.length t

end CommitMessage.Page
