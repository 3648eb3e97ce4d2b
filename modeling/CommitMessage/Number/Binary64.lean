/-! Binary numbers of 64 bits, held exactly: a significand below 2^53 times a power of two.
A finite number is in normal form when its significand reaches 2^52 or its exponent is the
least one, so equal numbers of one sign are equal terms. -/

namespace CommitMessage

-- A power of whole numbers is the same one, whatever else is imported.
attribute [local instance(1100)] instPowNat

inductive Binary64 where
  | nan
  | infinity (negative : Bool)
  | finite (negative : Bool) (significand : Nat) (exponent : Int)
  deriving DecidableEq, Repr

/-- The nearest whole number to a quotient, an even one where two are as near. -/
def roundHalfEven (num den : Nat) : Nat :=
  let quotient := num / den
  let twice := 2 * (num % den)
  if twice < den then quotient
  else if den < twice then quotient + 1
  else quotient + quotient % 2

namespace Binary64

def leastExponent : Int := -1074

def greatestExponent : Int := 971

/-- The number for a significand that may have grown to 2^53 by rounding. -/
def ofParts (negative : Bool) (significand : Nat) (exponent : Int) : Binary64 :=
  let (significand, exponent) :=
    if significand = 2 ^ (53 : Nat) then (2 ^ (52 : Nat), exponent + 1) else (significand, exponent)
  if greatestExponent < exponent then infinity negative
  else finite negative significand exponent

/-- `num / den` over `2 ^ exponent`, as a quotient of whole numbers. -/
def scaled (num den : Nat) (exponent : Int) : Nat × Nat :=
  if 0 ≤ exponent then (num, den * 2 ^ exponent.toNat) else (num * 2 ^ (-exponent).toNat, den)

/-- The number nearest to a quotient; of two as near, the one with the even significand. -/
def ofRatio (negative : Bool) (num den : Nat) : Binary64 :=
  if num = 0 then finite negative 0 leastExponent
  else
    let low := max ((num.log2 : Int) - den.log2 - 53) leastExponent
    let (n, d) := scaled num den low
    let exponent := if n / d < 2 ^ (53 : Nat) then low else low + 1
    let (n, d) := scaled num den exponent
    ofParts negative (roundHalfEven n d) exponent

/-- The number nearest to `significand · 10 ^ exponent`. Exponents far out of range are answered
without the power. -/
def ofDecimal (negative : Bool) (significand : Nat) (exponent : Int) : Binary64 :=
  let digits : Int := (significand.log2 : Int) * 30103 / 100000 + 1
  if significand = 0 then finite negative 0 leastExponent
  else if 400 < exponent + digits then infinity negative
  else if exponent + digits < -400 then finite negative 0 leastExponent
  else if 0 ≤ exponent then ofRatio negative (significand * 10 ^ exponent.toNat) 1
  else ofRatio negative significand (10 ^ (-exponent).toNat)

def ofNat (n : Nat) : Binary64 := ofRatio false n 1

/-- The size of a finite number as a quotient of whole numbers. -/
def ratio (significand : Nat) (exponent : Int) : Nat × Nat := scaled significand 1 (-exponent)

/-- The sign bit, eleven bits of exponent and 52 bits of significand, as one number. -/
def toBits : Binary64 → Nat
  | nan => 0x7ff8000000000000
  | infinity negative => (if negative then 2 ^ (63 : Nat) else 0) + 0x7ff0000000000000
  | finite negative significand exponent =>
    let size : Nat :=
      if significand < 2 ^ (52 : Nat) then significand
      else (exponent + 1075).toNat * 2 ^ (52 : Nat) + (significand - 2 ^ (52 : Nat))
    (if negative then 2 ^ (63 : Nat) else 0) + size

def ofBits (bits : Nat) : Binary64 :=
  let negative : Bool := bits / 2 ^ (63 : Nat) % 2 = 1
  let field : Nat := bits / 2 ^ (52 : Nat) % 2 ^ (11 : Nat)
  let fraction : Nat := bits % 2 ^ (52 : Nat)
  if field = 2047 then (if fraction = 0 then infinity negative else nan)
  else if field = 0 then finite negative fraction leastExponent
  else finite negative (fraction + 2 ^ (52 : Nat)) ((field : Int) - 1075)

/-- The same number as the machine holds it. -/
def toFloat (x : Binary64) : Float := Float.ofBits (UInt64.ofNat x.toBits)

/-- The value of a finite number in units of `2 ^ leastExponent`. -/
def units : Bool → Nat → Int → Int
  | negative, significand, exponent =>
    let size : Int := (significand * 2 ^ (exponent - leastExponent).toNat : Nat)
    if negative then -size else size

/-- Strictly less; never so where one side is not a number. -/
def less : Binary64 → Binary64 → Bool
  | nan, _ | _, nan => false
  | infinity n, infinity m => n && !m
  | infinity n, finite .. => n
  | finite .., infinity m => !m
  | finite n s e, finite m t f => units n s e < units m t f

end Binary64

end CommitMessage
