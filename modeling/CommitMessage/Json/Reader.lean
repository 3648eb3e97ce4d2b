import CommitMessage.Json.Basic
import CommitMessage.Text.Digit

/-! Reading JSON text. A text that is no JSON is refused with the place where reading it had to
stop, counted in characters. -/

namespace CommitMessage.Json

inductive ReadError where
  /-- The text is not JSON, seen at this character. -/
  | malformed (position : Nat)
  /-- A whole number has more digits than are read. -/
  | tooManyDigits
  deriving DecidableEq, Repr

def maxDigits : Nat := 4300

/-- What is left to read, and where it begins. -/
structure Input where
  position : Nat
  rest : Text

abbrev Reader (α : Type) := Input → Except ReadError (α × Input)

def Input.take (n : Nat) (i : Input) : Input := ⟨i.position + n, i.rest.drop n⟩

def isSpace (c : Char) : Bool := c == ' ' || c == '\t' || c == '\n' || c == '\r'

def skipSpaces (i : Input) : Input :=
  i.take (i.rest.takeWhile isSpace).length

/-- The UTF-16 unit written as four hexadecimal digits, with something after them. -/
def unit? : Text → Option (Nat × Text)
  | a :: b :: c :: d :: e :: rest => do
    let w ← hexValue? a
    let x ← hexValue? b
    let y ← hexValue? c
    let z ← hexValue? d
    return (w * 4096 + x * 256 + y * 16 + z, e :: rest)
  | _ => none

/-- The second half of a character written as two units. -/
def lowUnit? : Text → Option (Nat × Text)
  | '\\' :: 'u' :: rest => do
    let (unit, rest) ← unit? rest
    if 0xdc00 ≤ unit ∧ unit < 0xe000 then some (unit, rest) else none
  | _ => none

/-- The character that a letter after a backslash stands for. -/
def escaped? : Char → Option Char
  | '"' => some '"'
  | '\\' => some '\\'
  | '/' => some '/'
  | 'b' => some '\x08'
  | 'f' => some '\x0c'
  | 'n' => some '\n'
  | 'r' => some '\r'
  | 't' => some '\t'
  | _ => none

/-- A string whose opening quote stands at `start`; `fuel` is at least what is left to read, and
`seen` holds the characters before it, last first. -/
def readString (start : Nat) : Nat → Text → Nat → Text → Except ReadError (Text × Input)
  | 0, _, _, _ => .error (.malformed start)
  | fuel + 1, seen, position, rest =>
    match rest with
    | [] => .error (.malformed start)
    | '"' :: rest => .ok (seen.reverse, ⟨position + 1, rest⟩)
    | '\\' :: 'u' :: rest =>
      match unit? rest with
      | none => .error (.malformed (position + 1))
      | some (unit, after) =>
        if 0xd800 ≤ unit ∧ unit < 0xdc00 then
          match lowUnit? after with
          | some (low, after) =>
            let c := Char.ofNat (0x10000 + (unit - 0xd800) * 1024 + (low - 0xdc00))
            readString start fuel (c :: seen) (position + 12) after
          | none => readString start fuel (Char.ofNat 0xfffd :: seen) (position + 6) after
        else readString start fuel (Char.ofNat unit :: seen) (position + 6) after
    | ['\\'] => .error (.malformed start)
    | '\\' :: c :: rest =>
      match escaped? c with
      | some e => readString start fuel (e :: seen) (position + 2) rest
      | none => .error (.malformed position)
    | c :: rest =>
      if c.toNat < 32 then .error (.malformed position)
      else readString start fuel (c :: seen) (position + 1) rest

/-- The digits after a point, where there is a point with a digit after it. -/
def fractionOf (t : Text) : Text :=
  match t with
  | '.' :: rest => rest.takeWhile isAsciiDigit
  | _ => []

/-- The exponent at the start of a text: how many characters it takes, and its value. -/
def exponentOf (t : Text) : Nat × Int :=
  match t with
  | e :: rest =>
    if e = 'e' ∨ e = 'E' then
      let (signs, negative, body) : Nat × Bool × Text := match rest with
        | '-' :: body => (1, true, body)
        | '+' :: body => (1, false, body)
        | body => (0, false, body)
      let shown := body.takeWhile isAsciiDigit
      if shown.isEmpty then (0, 0)
      else
        let size : Int := Decimal.value shown
        (1 + signs + shown.length, if negative then -size else size)
    else (0, 0)
  | [] => (0, 0)

def readNumber (i : Input) : Except ReadError (Json × Input) :=
  let negative := i.rest.head? = some '-'
  let signs := if negative then 1 else 0
  let body := i.rest.drop signs
  let whole := match body with
    | '0' :: _ => ['0']
    | _ => body.takeWhile isAsciiDigit
  if whole.isEmpty then .error (.malformed i.position)
  else
    let afterWhole := body.drop whole.length
    let fraction := fractionOf afterWhole
    let fractionLength := if fraction.isEmpty then 0 else fraction.length + 1
    let (exponentLength, exponent) := exponentOf (afterWhole.drop fractionLength)
    let length := signs + whole.length + fractionLength + exponentLength
    if fractionLength + exponentLength = 0 then
      if maxDigits < whole.length then .error .tooManyDigits
      else
        let size : Int := Decimal.value whole
        .ok (.int (if negative then -size else size), i.take length)
    else
      .ok (.number (.ofDecimal negative (Decimal.value (whole ++ fraction))
        (exponent - fraction.length)), i.take length)

def words : List (Text × Json) :=
  [("null".toList, .null), ("true".toList, .bool true), ("false".toList, .bool false),
   ("NaN".toList, .number .nan), ("Infinity".toList, .number (.infinity false)),
   ("-Infinity".toList, .number (.infinity true))]

mutual

/-- A value; `fuel` bounds the nesting and the number of items. -/
def readValue : Nat → Input → Except ReadError (Json × Input)
  | 0, i => .error (.malformed i.position)
  | fuel + 1, i =>
    match i.rest with
    | '"' :: rest => do
      let (t, i) ← readString i.position (rest.length + 1) [] (i.position + 1) rest
      return (.string t, i)
    | '\x7b' :: _ =>
      let inner := skipSpaces (i.take 1)
      if inner.rest.head? = some '\x7d' then .ok (.object [], inner.take 1)
      else readMembers fuel [] inner
    | '[' :: _ =>
      let inner := skipSpaces (i.take 1)
      if inner.rest.head? = some ']' then .ok (.array [], inner.take 1)
      else readItems fuel [] inner
    | _ =>
      match words.find? fun word => word.1.isPrefixOf i.rest with
      | some (word, value) => .ok (value, i.take word.length)
      | none => readNumber i

/-- The items up to the closing bracket; `seen` holds those before, last first. -/
def readItems : Nat → List Json → Input → Except ReadError (Json × Input)
  | 0, _, i => .error (.malformed i.position)
  | fuel + 1, seen, i => do
    let (item, i) ← readValue fuel i
    let i := skipSpaces i
    match i.rest.head? with
    | some ']' => .ok (.array (item :: seen).reverse, i.take 1)
    | some ',' => readItems fuel (item :: seen) (skipSpaces (i.take 1))
    | _ => .error (.malformed i.position)

/-- The members up to the closing brace. Of two with one key, the later value counts. -/
def readMembers : Nat → List (Text × Json) → Input → Except ReadError (Json × Input)
  | 0, _, i => .error (.malformed i.position)
  | fuel + 1, seen, i =>
    match i.rest with
    | '"' :: rest => do
      let (key, i) ← readString i.position (rest.length + 1) [] (i.position + 1) rest
      let i := skipSpaces i
      if i.rest.head? = some ':' then
        let (value, i) ← readValue fuel (skipSpaces (i.take 1))
        let i := skipSpaces i
        let seen := insertMember key value seen
        match i.rest.head? with
        | some '\x7d' => .ok (.object seen, i.take 1)
        | some ',' => readMembers fuel seen (skipSpaces (i.take 1))
        | _ => .error (.malformed i.position)
      else .error (.malformed i.position)
    | _ => .error (.malformed i.position)

end

def read (t : Text) : Except ReadError Json := do
  let (value, i) ← readValue (2 * t.length + 2) (skipSpaces ⟨0, t⟩)
  let i := skipSpaces i
  if i.rest.isEmpty then .ok value else .error (.malformed i.position)

end CommitMessage.Json
