import CommitMessage.Text.Plane.BigFive
import CommitMessage.Text.Plane.Chinese
import CommitMessage.Text.Plane.Japanese
import CommitMessage.Text.Plane.Korean
import CommitMessage.Text.Utf8

/-! Character sets of East Asia in which the first byte of a character tells how many there are.
Most characters take two bytes, which are a row and a cell of a plane. -/

namespace CommitMessage.Text

/-- What stands at the front of some bytes. -/
inductive Front where
  /-- Text of so many bytes. -/
  | text (t : Text) (length : Nat)
  /-- As many bytes that stand for nothing. -/
  | fault (length : Nat)
  /-- The first bytes of a character without the last ones. -/
  | unfinished
  deriving DecidableEq, Repr

/-- The text of bytes, given what stands at the front of them after what came before. The first
`skip` bytes have been read already. -/
def ofFronts {σ : Type} (front : σ → UInt8 → Bytes → Front × σ) (s : σ) (skip : Nat) :
    Bytes → Text
  | [] => []
  | b :: rest =>
    match skip with
    | skip + 1 => ofFronts front s skip rest
    | 0 =>
      match front s b rest with
      | (.text t length, s) => t ++ ofFronts front s (length - 1) rest
      | (.fault length, s) => '\ufffd' :: ofFronts front s (length - 1) rest
      | (.unfinished, _) => ['\ufffd']

namespace Front

/-- A byte that stands for the character with its number. -/
def single (b : UInt8) : Front := .text [Char.ofNat b.toNat] 1

def ofChar? (length : Nat) : Option Char → Front
  | some c => .text [c] length
  | none => .fault 1

/-- A character of two bytes. -/
def pair (char? : Nat → Nat → Option Char) (a : UInt8) : Bytes → Front
  | [] => .unfinished
  | b :: _ => ofChar? 2 (char? a.toNat b.toNat)

end Front

namespace Multibyte

/-! Rows of 94, in the high half of the bytes -/

def isHigh (n : Nat) : Bool := 0xa1 ≤ n && n < 0xff

/-- The place of two bytes in a plane with rows of 94. -/
def place? (a b : Nat) : Option Nat :=
  if isHigh a && isHigh b then some ((a - 0xa1) * 94 + (b - 0xa1)) else none

def char94? (p : Plane) (a b : Nat) : Option Char := place? a b >>= p.get?

def gb2312 (a : UInt8) (rest : Bytes) : Front :=
  if a < 0x80 then .single a else .pair (char94? .gb2312) a rest

/-- Japanese letters of half the width. -/
def halfKana? (n : Nat) : Option Char :=
  if 0xa1 ≤ n && n < 0xe0 then some (Char.ofNat (0xfec0 + n)) else none

/-- One plane in two bytes; letters of half the width, and a second plane, with a byte in front. -/
def eucJp (a : UInt8) (rest : Bytes) : Front :=
  if a < 0x80 then .single a
  else if a = 0x8e then .pair (fun _ b => halfKana? b) a rest
  else if a = 0x8f then
    match rest with
    | b :: c :: _ => .ofChar? 3 (char94? .jis212 b.toNat c.toNat)
    | _ => .unfinished
  else .pair (char94? .jis208) a rest

/-! Korean syllables -/

/-- The first sounds of syllables among the letters of a plane. -/
def firstSounds : List Nat :=
  [0xa1, 0xa2, 0xa4, 0xa7, 0xa8, 0xa9, 0xb1, 0xb2, 0xb3, 0xb5, 0xb6, 0xb7, 0xb8, 0xb9, 0xba, 0xbb,
   0xbc, 0xbd, 0xbe]

/-- The last sounds of syllables among the letters of a plane, with the sign for none in front. -/
def lastSounds : List Nat :=
  [0xd4, 0xa1, 0xa2, 0xa3, 0xa4, 0xa5, 0xa6, 0xa7, 0xa9, 0xaa, 0xab, 0xac, 0xad, 0xae, 0xaf, 0xb0,
   0xb1, 0xb2, 0xb4, 0xb5, 0xb6, 0xb7, 0xb8, 0xba, 0xbb, 0xbc, 0xbd, 0xbe]

/-- The syllable of a first sound, a vowel and a last sound. -/
def syllable? (first vowel last : Nat) : Option Char :=
  match firstSounds.idxOf? first, lastSounds.idxOf? last with
  | some first, some last =>
    if 0xbf ≤ vowel && vowel < 0xd4 then
      some (Char.ofNat (0xac00 + first * 588 + (vowel - 0xbf) * 28 + last))
    else none
  | _, _ => none

/-- A syllable that no plane has is spelled with a sign for that and three letters. -/
def eucKr (a : UInt8) (rest : Bytes) : Front :=
  if a < 0x80 then .single a
  else
    match rest with
    | 0xd4 :: more =>
      if a = 0xa4 then
        match more with
        | b :: first :: c :: vowel :: d :: last :: _ =>
          if b = 0xa4 && c = 0xa4 && d = 0xa4 then
            .ofChar? 8 (syllable? first.toNat vowel.toNat last.toNat)
          else .fault 1
        | _ => .unfinished
      else .pair (char94? .ksx1001) a rest
    | _ => .pair (char94? .ksx1001) a rest

/-- The syllables that the plane has not. -/
def moreSyllables : List (Nat × Nat) := leftOut 0xac00 0xd7a4 [] (Plane.chars .ksx1001)

/-- The number of a byte among letters and high bytes. -/
def letterCell? (b : Nat) : Option Nat :=
  if 0x41 ≤ b && b ≤ 0x5a then some (b - 0x41)
  else if 0x61 ≤ b && b ≤ 0x7a then some (b - 0x61 + 26)
  else if 0x81 ≤ b && b ≤ 0xfe then some (b - 0x81 + 52)
  else none

/-- The other syllables fill the places around the plane: 178 in each of the first 32 rows, and 84
in each of the rows after them. -/
def cp949Char? (a b : Nat) : Option Char :=
  char94? .ksx1001 a b <|> do
    let cell ← letterCell? b
    let place ←
      if 0x81 ≤ a && a ≤ 0xa0 then some ((a - 0x81) * 178 + cell)
      else if 0xa1 ≤ a && a ≤ 0xc6 && cell < 84 then some (32 * 178 + (a - 0xa1) * 84 + cell)
      else none
    (numberAt? place moreSyllables).map Char.ofNat

def cp949 (a : UInt8) (rest : Bytes) : Front :=
  if a < 0x80 then .single a else .pair cp949Char? a rest

/-! Rows of 188, which are two of 94 each -/

/-- The number of a byte in a row of 188. -/
def cell188? (b : Nat) : Option Nat :=
  if 0x40 ≤ b && b ≤ 0x7e then some (b - 0x40)
  else if 0x80 ≤ b && b ≤ 0xfc then some (b - 0x41)
  else none

/-- The place of two bytes. The first of them leaves out the letters of half the width. -/
def place188? (a b : Nat) : Option Nat := do
  let cell ← cell188? b
  if 0x81 ≤ a && a ≤ 0x9f then some ((a - 0x81) * 188 + cell)
  else if 0xe0 ≤ a && a ≤ 0xfc then some ((a - 0xc1) * 188 + cell)
  else none

def shiftJis (a : UInt8) (rest : Bytes) : Front :=
  if a < 0x80 then .single a
  else
    match halfKana? a.toNat with
    | some c => .text [c] 1
    | none => .pair (fun a b => place188? a b >>= Plane.get? .jis208) a rest

/-- Ten rows are for private use. -/
def cp932Char? (a b : Nat) : Option Char := do
  let place ← place188? a b
  if 0xf0 ≤ a && a ≤ 0xf9 then some (Char.ofNat (0xe000 + (place - 47 * 188)))
  else Plane.get? .jisMarked place <|> Plane.get? .jis208 place

def cp932 (a : UInt8) (rest : Bytes) : Front :=
  if a ≤ 0x80 then .single a
  else if a = 0xa0 then .text ['\uf8f0'] 1
  else if 0xfd ≤ a then .text [Char.ofNat (0xf8f1 + (a.toNat - 0xfd))] 1
  else
    match halfKana? a.toNat with
    | some c => .text [c] 1
    | none => .pair cp932Char? a rest

/-! Rows of 157 -/

/-- The number of a byte in a row of 157. -/
def cell157? (b : Nat) : Option Nat :=
  if 0x40 ≤ b && b ≤ 0x7e then some (b - 0x40)
  else if isHigh b then some (b - 0xa1 + 63)
  else none

def place157? (a b : Nat) : Option Nat := do
  let cell ← cell157? b
  if isHigh a then some ((a - 0xa1) * 157 + cell) else none

def big5 (a : UInt8) (rest : Bytes) : Front :=
  if a < 0x80 then .single a
  else .pair (fun a b => place157? a b >>= Plane.get? .big5) a rest

def cp950 (a : UInt8) (rest : Bytes) : Front :=
  if a < 0x80 then .single a
  else .pair (fun a b => do
    let place ← place157? a b
    Plane.get? .big5Marked place <|> Plane.get? .big5 place) a rest

/-! Rows of 190, around a plane with rows of 94 -/

/-- The characters of the great block that the plane has not. -/
def moreHan : List (Nat × Nat) := leftOut 0x4e00 0x9fa6 [] (Plane.chars .gb2312)

/-- The number of a byte in a row of 190. -/
def cell190? (b : Nat) : Option Nat :=
  if 0x40 ≤ b && b ≤ 0x7e then some (b - 0x40)
  else if 0x80 ≤ b && b ≤ 0xfe then some (b - 0x41)
  else none

/-- The other characters fill whole rows before the plane, and the 96 cells before each of its later
rows. -/
def gbkChar? (a b : Nat) : Option Char :=
  Plane.get? .gbkSigns (a * 256 + b) <|> char94? .gb2312 a b <|> do
    let cell ← cell190? b
    let place ←
      if 0x81 ≤ a && a ≤ 0xa0 then some ((a - 0x81) * 190 + cell)
      else if 0xaa ≤ a && a ≤ 0xfe && cell < 96 then some (32 * 190 + (a - 0xaa) * 96 + cell)
      else none
    (numberAt? place moreHan).map Char.ofNat

def gbk (a : UInt8) (rest : Bytes) : Front :=
  if a < 0x80 then .single a else .pair gbkChar? a rest

/-- Cells for private use: two blocks of rows in the plane, and the cells before its first rows. -/
def privateChar? (a b : Nat) : Option Char := do
  let cell ← cell190? b
  let n ←
    if 0xaa ≤ a && a ≤ 0xaf && 96 ≤ cell then some ((a - 0xaa) * 94 + (cell - 96))
    else if 0xf8 ≤ a && a ≤ 0xfe && 96 ≤ cell then some (564 + (a - 0xf8) * 94 + (cell - 96))
    else if 0xa1 ≤ a && a ≤ 0xa7 && cell < 96 then some (1222 + (a - 0xa1) * 96 + cell)
    else none
  some (Char.ofNat (0xe000 + n))

def gb18030Char? (a b : Nat) : Option Char :=
  gbkChar? a b <|> Plane.get? .gb18030Rest (a * 256 + b) <|> privateChar? a b

/-- All numbers of 16 bits from 128 on that two bytes do not stand for. -/
def gb18030Others : List (Nat × Nat) :=
  leftOut 0x80 0x10000 [(0x4e00, 0x9fa5), (0xd800, 0xdfff), (0xe000, 0xe765)]
    ((Plane.chars .gb2312).filter (· != '\u30fb') ++ Plane.chars .gbkSigns ++
      Plane.chars .gb18030Rest)

/-- The number of four bytes, of which the second and fourth are digits. -/
def fourPlace (a b c d : Nat) : Nat :=
  (((a - 0x81) * 10 + (b - 0x30)) * 126 + (c - 0x81)) * 10 + (d - 0x30)

def isDigit (b : UInt8) : Bool := 0x30 ≤ b && b ≤ 0x39

/-- Characters of 16 bits that have no two bytes come first, and the ones beyond 16 bits from the
row 15 on. -/
def fourChar? (a : Nat) (place : Nat) : Option Char :=
  if a < 0x85 then (numberAt? place gb18030Others).map Char.ofNat
  else if a < 0x90 then none
  else
    let n := 0x10000 + (place - fourPlace 0x90 0x30 0x81 0x30)
    if n.isValidChar then some (Char.ofNat n) else none

def gb18030 (a : UInt8) (rest : Bytes) : Front :=
  if a < 0x80 then .single a
  else
    match rest with
    | b :: more =>
      if isDigit b then
        match more with
        | c :: d :: _ =>
          if a < 0x81 || c < 0x81 || !isDigit d then .fault 1
          else .ofChar? 4 (fourChar? a.toNat (fourPlace a.toNat b.toNat c.toNat d.toNat))
        | _ => .unfinished
      else .ofChar? 2 (gb18030Char? a.toNat b.toNat)
    | [] => .unfinished

end Multibyte

end CommitMessage.Text
