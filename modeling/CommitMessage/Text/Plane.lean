import CommitMessage.Text.Blank

/-! Planes: characters by their places in rows of one length, and the numbers that a plane leaves
out. Larger sets fill their places with those numbers in order. -/

namespace CommitMessage.Text

/-- Runs of characters, each with the place of its first one. -/
abbrev Plane := List (Nat × String)

namespace Plane

def get? (p : Plane) (place : Nat) : Option Char :=
  match p with
  | [] => none
  | (first, run) :: rest =>
    if place < first then none
    else if place < first + run.length then run.toList[place - first]?
    else get? rest place

def chars (p : Plane) : Text := p.flatMap fun (_, run) => run.toList

end Plane

/-- The numbers from `first` up to `bound`, which is not among them. -/
def range (first bound : Nat) : List (Nat × Nat) :=
  if first < bound then [(first, bound - 1)] else []

/-- The numbers from `first` up to `bound` that a list of ranges leaves out. The list is sorted by
where its ranges begin. -/
def gaps (first bound : Nat) : List (Nat × Nat) → List (Nat × Nat)
  | [] => range first bound
  | (a, b) :: rest =>
    if b < first then gaps first bound rest
    else if bound ≤ a then range first bound
    else range first a ++ gaps (b + 1) bound rest

/-- What ranges and single characters leave out of the numbers from `first` up to `bound`. -/
def leftOut (first bound : Nat) (ranges : List (Nat × Nat)) (chars : Text) : List (Nat × Nat) :=
  gaps first bound
    ((ranges ++ chars.map fun c => (c.toNat, c.toNat)).mergeSort fun a b => a.1 ≤ b.1)

/-- The number at a place among all numbers of some ranges. -/
def numberAt? (place : Nat) : List (Nat × Nat) → Option Nat
  | [] => none
  | (a, b) :: rest =>
    if place ≤ b - a then some (a + place) else numberAt? (place - (b + 1 - a)) rest

end CommitMessage.Text
