import CommitMessage.Text.Multibyte

/-! Character sets of seven bits a byte. Marks between the characters tell what the bytes after them
stand for. -/

namespace CommitMessage.Text

/-- What bytes stand for. -/
inductive Area where
  | letters
  /-- Letters with two signs of their own. -/
  | roman
  | kana
  | jis208
  | jis212
  | ksx1001
  deriving DecidableEq, Repr

namespace Area

/-- The plane of characters of two bytes. -/
def plane? : Area → Option Plane
  | letters | roman | kana => none
  | jis208 => some .jis208
  | jis212 => some .jis212
  | ksx1001 => some .ksx1001

/-- The last byte of a mark for an area of one byte a character. -/
def ofSingle? : Char → Option Area
  | 'B' => some letters
  | 'J' => some roman
  | 'I' => some kana
  | _ => none

/-- The last byte of a mark for an area of two bytes a character. -/
def ofDouble? : Char → Option Area
  | '@' | 'B' => some jis208
  | 'D' => some jis212
  | 'C' => some ksx1001
  | _ => none

/-- The high half of a byte that has seven bits. -/
def high (n : Nat) : Nat := if n < 0x80 then n + 0x80 else 0

def front (area : Area) (a : UInt8) (rest : Bytes) : Front :=
  match area.plane? with
  | some p =>
    match rest with
    | [] => .unfinished
    | b :: _ =>
      match Multibyte.char94? p (high a.toNat) (high b.toNat) with
      | some c => .text [c] 2
      | none => .fault 2
  | none =>
    if area = kana then .ofChar? 1 (Multibyte.halfKana? (high a.toNat))
    else if area = roman && a = 0x5c then .text ['¥'] 1
    else if area = roman && a = 0x7e then .text ['‾'] 1
    else .single a

end Area

/-- Which marks a set has. -/
structure Marks where
  areas : List Area
  /-- Whether there is a second area, and bytes that shift between the two. -/
  hasShifts : Bool
  deriving DecidableEq, Repr

namespace Marks

structure State where
  main : Area := .letters
  other : Area := .letters
  isShifted : Bool := false
  /-- Within a mark of another kind, which is text. -/
  isWithin : Bool := false
  deriving DecidableEq, Repr

def isEnd (b : UInt8) : Bool := 0x40 ≤ b && b ≤ 0x5a

/-- The longest mark that is looked for. -/
def maxLength : Nat := 16

/-- What is known when the bytes end within a mark: nothing, or that it is too long. -/
def openLength? (done : Nat) : Option Nat := if done < maxLength then none else some 0

/-- How long a mark is, of which `done` bytes have been seen, or zero if there is no end to it. Some
sets have a long mark with what looks like an end within. -/
def lengthFrom? (hasLong : Bool) (done : Nat) : Bytes → Option Nat
  | [] => openLength? done
  | b :: rest =>
    if maxLength ≤ done then some 0
    else if isEnd b then some (done + 1)
    else if hasLong && b = 0x26 && rest.head? = some 0x40 then
      match rest with
      | _ :: _ :: more => lengthFrom? hasLong (done + 3) more
      | _ => openLength? (done + 3)
    else lengthFrom? hasLong (done + 1) rest

/-- The area of a mark without its first byte, and whether it is the second one. -/
def area? (hasLong : Bool) (mark : Text) : Option (Bool × Area) :=
  match mark with
  | ['(', c] => (Area.ofSingle? c).map (false, ·)
  | [')', c] => (Area.ofSingle? c).map (true, ·)
  | ['$', c] | ['$', '(', c] => (Area.ofDouble? c).map (false, ·)
  | ['$', ')', c] => (Area.ofDouble? c).map (true, ·)
  | [_, _, '\x1b', '$', 'B'] => if hasLong then some (false, .jis208) else none
  | _ => none

/-- What a mark does whose first byte has been read. -/
def marked (m : Marks) (s : State) (rest : Bytes) : Front × State :=
  match lengthFrom? (!m.hasShifts) 1 rest with
  | none => (.unfinished, s)
  | some 0 => (.fault 1, s)
  | some length =>
    match area? (!m.hasShifts) ((rest.take (length - 1)).map fun b => Char.ofNat b.toNat) with
    | none => (.fault length, s)
    | some (isOther, area) =>
      if area = .letters || m.areas.contains area then
        (.text [] length, if isOther then { s with other := area } else { s with main := area })
      else (.fault length, s)

def front (m : Marks) (s : State) (a : UInt8) (rest : Bytes) : Front × State :=
  let plain := Front.single a
  if s.isWithin then (plain, { s with isWithin := !isEnd a })
  else if a = 0x1b then
    match rest with
    | [] => (.unfinished, s)
    | b :: _ =>
      if "()$.&".toList.contains (Char.ofNat b.toNat) then m.marked s rest
      else (plain, { s with isWithin := true })
  else if m.hasShifts && a = 0x0f then (.text [] 1, { s with isShifted := false })
  else if m.hasShifts && a = 0x0e then (.text [] 1, { s with isShifted := true })
  else if a = 0x0a then (plain, { s with isShifted := false })
  else if a < 0x20 then (plain, s)
  else if 0x80 ≤ a then (.fault 1, s)
  else ((if s.isShifted then s.other else s.main).front a rest, s)

end Marks

/-! Tildes as marks -/

/-- A tilde and a brace begin and end a run of characters of two bytes each. Two tildes are one, and
a tilde at the end of a line joins it with the next. -/
def tildeFront (isWithin : Bool) (a : UInt8) (rest : Bytes) : Front × Bool :=
  match rest with
  | b :: _ =>
    if a = 0x7e then
      if !isWithin && b = 0x7e then (.text ['~'] 2, isWithin)
      else if !isWithin && b = 0x7b then (.text [] 2, true)
      else if !isWithin && b = 0x0a then (.text [] 2, isWithin)
      else if isWithin && b = 0x7d then (.text [] 2, false)
      else (.fault 1, isWithin)
    else if 0x80 ≤ a then (.fault 1, isWithin)
    else if isWithin then
      (.ofChar? 2 (Multibyte.char94? .gb2312 (Area.high a.toNat) (Area.high b.toNat)), isWithin)
    else (.single a, isWithin)
  | [] =>
    if a = 0x7e || (isWithin && a < 0x80) then (.unfinished, isWithin)
    else if 0x80 ≤ a then (.fault 1, isWithin)
    else (.single a, isWithin)

end CommitMessage.Text
