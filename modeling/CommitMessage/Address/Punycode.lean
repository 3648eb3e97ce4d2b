import CommitMessage.Text.Blank

/-! Text as ASCII letters, digits and hyphens. The ASCII characters come first. The others follow in
the order of their code points, each as the number of steps from the one before: a step goes to the
next place in the text, and from the last place to the next code point. -/

namespace CommitMessage.Punycode

/-- The digits of base 36. -/
def digit (n : Nat) : Char := Char.ofNat (if n < 26 then 97 + n else 22 + n)

/-- A digit below the threshold of its place is the last one of its number. -/
def threshold (place bias : Nat) : Nat := max 1 (min 26 (place - bias))

/-- A number in digits, the lowest first. Places go up in steps of 36. -/
def digits (bias place n : Nat) : Text :=
  let t := threshold place bias
  if n < t then [digit n]
  else digit (t + (n - t) % (36 - t)) :: digits bias (place + 36) ((n - t) / (36 - t))
termination_by n
decreasing_by
  have low : 1 ≤ threshold place bias := Nat.le_max_left _ _
  exact Nat.lt_of_le_of_lt (Nat.div_le_self _ _) (by omega)

/-- Divides a number by 35 for as long as it is large, and counts 36 for each time. -/
def bound (n places : Nat) : Nat :=
  if 455 < n then bound (n / 35) (places + 36) else places + 36 * n / (n + 38)
termination_by n
decreasing_by exact Nat.div_lt_self (by omega) (by omega)

/-- The bias for the number after `n`, when so many characters are in place. -/
def nextBias (isFirst : Bool) (n characters : Nat) : Nat :=
  let n := n / (if isFirst then 700 else 2)
  bound (n + n / characters) 0

structure State where
  written : Text := []
  /-- Steps since the last character that was put in place. -/
  steps : Nat := 0
  bias : Nat := 72
  /-- Characters that are in place. -/
  placed : Nat

/-- Passes a character of the text while those with the given code point are put in place. -/
def pass (basics code : Nat) (s : State) (c : Char) : State :=
  if c.toNat < code then { s with steps := s.steps + 1 }
  else if c.toNat = code then
    { written := s.written ++ digits s.bias 36 s.steps, steps := 0,
      bias := nextBias (s.placed = basics) s.steps (s.placed + 1), placed := s.placed + 1 }
  else s

/-- Puts the characters with the given code points in place; `next` is the first that may come. -/
def passes (t : Text) (basics : Nat) : List Nat → Nat → State → State
  | [], _, s => s
  | code :: codes, next, s =>
    let s := { s with steps := s.steps + (code - next) * (s.placed + 1) }
    let s := t.foldl (pass basics code) s
    passes t basics codes (code + 1) { s with steps := s.steps + 1 }

def isBasic (c : Char) : Bool := c.toNat < 128

def encode (t : Text) : Text :=
  let basics := t.filter isBasic
  let codes := ((t.filter (!isBasic ·)).map Char.toNat).eraseDups.mergeSort (· ≤ ·)
  let s := passes t basics.length codes 128 { placed := basics.length }
  (if basics.isEmpty then [] else basics ++ ['-']) ++ s.written

end CommitMessage.Punycode
