/-! Sets of characters given by sorted lists of code point ranges, both ends included. Blank
characters are one of them, and text can have the blanks taken off its ends. -/

namespace CommitMessage

/-- Stops at the first range that begins after `n`, so the list has to be sorted. -/
def inRanges (n : Nat) : List (Nat × Nat) → Bool
  | [] => false
  | (first, last) :: rest => if n < first then false else n ≤ last || inRanges n rest

/-- Ranges with a step: `(first, last, step)` holds `first`, `first + step`, … up to `last`. -/
def inSteps (n : Nat) : List (Nat × Nat × Nat) → Bool
  | [] => false
  | (first, last, step) :: rest =>
    if n < first then false else (n ≤ last && (n - first) % step == 0) || inSteps n rest

abbrev Text := List Char

instance : LawfulBEq Text := inferInstance

/-- Blanks, among them the line breaks and the four information separators. -/
def blankRanges : List (Nat × Nat) :=
  [(9, 0xd), (0x1c, 0x20), (0x85, 0x85), (0xa0, 0xa0), (0x1680, 0x1680), (0x2000, 0x200a),
   (0x2028, 0x2029), (0x202f, 0x202f), (0x205f, 0x205f), (0x3000, 0x3000)]

def isBlank (c : Char) : Bool := inRanges c.toNat blankRanges

namespace Text

def trimStart (t : Text) : Text := t.dropWhile isBlank

def trimEnd (t : Text) : Text := (t.reverse.dropWhile isBlank).reverse

def trim (t : Text) : Text := t.trimStart.trimEnd

/-- A line that shows nothing. -/
def isAllBlank (t : Text) : Bool := t.all isBlank

/-- The order of texts by their characters; a text comes after its beginnings. -/
def precedes : Text → Text → Bool
  | [], _ => true
  | _ :: _, [] => false
  | c :: t, d :: u => c < d || (c == d && precedes t u)

end Text

end CommitMessage
