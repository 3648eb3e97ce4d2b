import CommitMessage.Number.Binary64
import CommitMessage.Text.Blank

/-! Decimal digits of a binary number: the fewest that read back as it, or as many as are asked
for. All is done on whole numbers, so no digit is lost on the way. -/

namespace CommitMessage.Decimal

-- A power of whole numbers is the same one, whatever else is imported.
attribute [local instance(1100)] instPowNat

def digits (n : Nat) : Text := Nat.toDigits 10 n

def value (t : Text) : Nat := t.foldl (fun n c => n * 10 + (c.toNat - 48)) 0

/-- Digits with zeros before them up to a width. -/
def paddedDigits (width n : Nat) : Text :=
  let shown := digits n
  List.replicate (width - shown.length) '0' ++ shown

def ofInt (n : Int) : Text := if n < 0 then '-' :: digits n.natAbs else digits n.natAbs

/-- `num / den` in units of `10 ^ place`, as a quotient of whole numbers. -/
def inUnits (num den : Nat) (place : Int) : Nat × Nat :=
  if 0 ≤ place then (num, den * 10 ^ place.toNat) else (num * 10 ^ (-place).toNat, den)

/-- The place of the leading digit of a quotient above zero: `10 ^ place ≤ num / den`, and less
than ten times that. The first guess is at most two places too low. -/
def leadingPlace (num den : Nat) : Int :=
  let reaches (place : Int) : Bool := let (n, d) := inUnits num den place; d ≤ n
  let guess : Int := ((num.log2 : Int) - den.log2 - 1) * 30103 / 100000 - 1
  if reaches (guess + 3) then guess + 3
  else if reaches (guess + 2) then guess + 2
  else if reaches (guess + 1) then guess + 1
  else guess

/-- Digits `n`, the last of them at `place`. -/
structure Digits where
  n : Nat
  place : Int
  deriving DecidableEq, Repr

def Digits.leading (d : Digits) : Int := d.place + (digits d.n).length - 1

/-- The quotient rounded to a place, a half going to the even digit. -/
def atPlace (num den : Nat) (place : Int) : Digits :=
  let (n, d) := inUnits num den place
  ⟨roundHalfEven n d, place⟩

/-- The quotient rounded to `count` digits. -/
def toCount (num den count : Nat) : Digits :=
  let place := leadingPlace num den - count + 1
  let rounded := atPlace num den place
  if rounded.n = 10 ^ count then ⟨10 ^ (count - 1), place + 1⟩ else rounded

/-- Whether a decimal reads back as the number: it is no farther than halfway to either
neighbour, and at halfway only if the significand is even. Below a power of two the neighbour
is half as far. -/
def readsBack (significand : Nat) (exponent : Int) (d : Digits) : Bool :=
  let narrow := significand = 2 ^ (52 : Nat) ∧ exponent ≠ Binary64.leastExponent
  -- in quarters of the unit 2 ^ exponent
  let low := 4 * significand - (if narrow then 1 else 2)
  let high := 4 * significand + 2
  let (num, den) := if 0 ≤ d.place then (d.n * 10 ^ d.place.toNat, 1)
    else (d.n, 10 ^ (-d.place).toNat)
  let (num, den) := Binary64.scaled (4 * num) den exponent
  if significand % 2 = 0 then low * den ≤ num && num ≤ high * den
  else low * den < num && num < high * den

/-- The decimal of `count` digits that reads back, the nearer one if there are two. -/
def ofCount? (significand : Nat) (exponent : Int) (count : Nat) : Option Digits :=
  let (num, den) := Binary64.ratio significand exponent
  let place := leadingPlace num den - count + 1
  let (n, d) := inUnits num den place
  let below : Digits := ⟨n / d, place⟩
  let above : Digits := ⟨n / d + 1, place⟩
  let nearest : Digits := ⟨roundHalfEven n d, place⟩
  if readsBack significand exponent nearest then some nearest
  else if readsBack significand exponent below then some below
  else if readsBack significand exponent above then some above
  else none

/-- The fewest digits that read back; seventeen always do. -/
def shortest (significand : Nat) (exponent : Int) : Digits :=
  ((List.range 17).findSome? fun i => ofCount? significand exponent (i + 1)).getD ⟨0, 0⟩

def trimZeros (t : Text) : Text := (t.reverse.dropWhile (· == '0')).reverse

def sign (negative : Bool) : Text := if negative then ['-'] else []

/-- An exponent with its sign and at least two digits. -/
def exponentText (e : Int) : Text :=
  'e' :: (if e < 0 then '-' else '+') :: paddedDigits 2 e.natAbs

/-- Digits with a point after the digit of place zero; `point` asks for a point even where no
digit follows it. -/
def positional (d : Digits) (point : Bool) : Text :=
  if 0 ≤ d.place then
    digits (d.n * 10 ^ d.place.toNat) ++ (if point then ['.'] else [])
  else
    let count := (-d.place).toNat
    let shown := paddedDigits (count + 1) d.n
    shown.take (shown.length - count) ++ '.' :: shown.drop (shown.length - count)

/-- The first digit, a point and the other digits, and the exponent. -/
def scientific (d : Digits) (point : Bool) : Text :=
  match digits d.n with
  | [] => []
  | c :: rest =>
    c :: (if rest.isEmpty && !point then [] else '.' :: rest) ++ exponentText d.leading

/-- The fewest digits that read back, positional from 0.0001 up to 10^16. A whole number keeps a
zero after the point. -/
def shortestText (negative : Bool) (significand : Nat) (exponent : Int) : Text :=
  sign negative ++
  if significand = 0 then "0.0".toList
  else
    let d := shortest significand exponent
    let kept := trimZeros (digits d.n)
    let dropped := (digits d.n).length - kept.length
    let trimmed : Digits := ⟨d.n / 10 ^ dropped, d.place + (dropped : Nat)⟩
    if -4 ≤ d.leading ∧ d.leading < 16 then
      if 0 ≤ trimmed.place then positional trimmed false ++ ".0".toList
      else positional trimmed false
    else scientific trimmed false

def dropPoint (t : Text) : Text := if t.getLast? = some '.' then t.dropLast else t

/-- Takes the zeros off the end of a fraction, and the point where nothing is left after it. -/
def trimFraction (t : Text) : Text := if '.' ∈ t then dropPoint (trimZeros t) else t

/-- So many significant digits: positional for exponents from -4 up to the number of digits,
scientific else. `full` keeps zeros at the end. -/
def general (count : Nat) (full : Bool) (significand : Nat) (exponent : Int) : Text :=
  let count := max count 1
  if significand = 0 then
    if full then '0' :: '.' :: List.replicate (count - 1) '0' else ['0']
  else
    let (num, den) := Binary64.ratio significand exponent
    let d := toCount num den count
    if -4 ≤ d.leading ∧ d.leading < count then
      let shown := positional d full
      if full then shown else trimFraction shown
    else if full then scientific d true
    else
      let kept := trimZeros (digits d.n)
      let dropped := (digits d.n).length - kept.length
      scientific ⟨d.n / 10 ^ dropped, d.place + (dropped : Nat)⟩ false

/-- So many digits after the point. -/
def fixed (count : Nat) (point : Bool) (significand : Nat) (exponent : Int) : Text :=
  let (num, den) := Binary64.ratio significand exponent
  positional (atPlace num den (-(count : Int))) point

/-- One digit, so many after the point, and an exponent. -/
def exponential (count : Nat) (point : Bool) (significand : Nat) (exponent : Int) : Text :=
  if significand = 0 then
    '0' :: (if count = 0 && !point then [] else '.' :: List.replicate count '0') ++ exponentText 0
  else
    let (num, den) := Binary64.ratio significand exponent
    scientific (toCount num den (count + 1)) point

/-- Six significant digits without zeros at the end. -/
def generalText : Binary64 → Text
  | .nan => "nan".toList
  | .infinity negative => sign negative ++ "inf".toList
  | .finite negative significand exponent => sign negative ++ general 6 false significand exponent

end CommitMessage.Decimal
