import CommitMessage.Number.Decimal
import CommitMessage.Text.Digit

/-! Numbers as people write them: decimal digits of any script, a sign, and single underscores
between digits. -/

namespace CommitMessage.Written

/-- A digit of any script as the ASCII digit of its value; other characters as they are. -/
def plainDigit (c : Char) : Char :=
  match digitValue? c with
  | some value => Nat.digitChar value
  | none => c

/-- Takes out the underscores, if each stands between two digits. -/
def dropUnderscores : Text → Option Text
  | [] => some []
  | ['_'] => none
  | '_' :: _ :: _ => none
  | c :: '_' :: d :: rest =>
    if isAsciiDigit c && isAsciiDigit d then (dropUnderscores (d :: rest)).map (c :: ·) else none
  | c :: rest => (dropUnderscores rest).map (c :: ·)

/-- The text in ASCII digits without underscores. -/
def plain? (t : Text) : Option Text := dropUnderscores (t.map plainDigit)

/-- A sign, and what follows it. -/
def splitSign : Text → Bool × Text
  | '-' :: rest => (true, rest)
  | '+' :: rest => (false, rest)
  | rest => (false, rest)

def maxDigits : Nat := 4300

def int? (t : Text) : Option Int := do
  let (negative, body) := splitSign (← plain? t)
  if body.isEmpty || !body.all isAsciiDigit || maxDigits < body.length then none
  else
    let size : Int := Decimal.value body
    return if negative then -size else size

/-- An exponent mark, a sign and digits, up to the end; no text at all is the exponent zero. -/
def exponent? : Text → Option Int
  | [] => some 0
  | e :: rest =>
    let (negative, body) := splitSign rest
    if (e = 'e' ∨ e = 'E') ∧ !body.isEmpty ∧ body.all isAsciiDigit then
      let size : Int := Decimal.value body
      some (if negative then -size else size)
    else none

/-- Digits with a point among them or without one, and an exponent. -/
def unsigned? (negative : Bool) (t : Text) : Option Binary64 := do
  let whole := t.takeWhile isAsciiDigit
  let rest := t.drop whole.length
  let (fraction, rest) := match rest with
    | '.' :: rest => (rest.takeWhile isAsciiDigit, rest.dropWhile isAsciiDigit)
    | rest => ([], rest)
  if whole.isEmpty && fraction.isEmpty then none
  else
    let exponent ← exponent? rest
    return .ofDecimal negative (Decimal.value (whole ++ fraction)) (exponent - fraction.length)

/-- A decimal, an infinity or not a number. -/
def number? (t : Text) : Option Binary64 := do
  let (negative, body) := splitSign (← plain? t)
  let word := String.ofList (body.map Char.toLower)
  if word = "nan" then return .nan
  else if word = "inf" || word = "infinity" then return .infinity negative
  else unsigned? negative body

end CommitMessage.Written
