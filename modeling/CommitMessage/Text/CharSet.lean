import CommitMessage.Text.CodePages
import CommitMessage.Text.Escaped
import CommitMessage.Text.Lines
import CommitMessage.Text.Utf8

/-! Text from bytes in the character set that goes by some name. Bytes that stand for no character
show as replacement characters. -/

namespace CommitMessage.Text

-- A power of whole numbers is the same one, whatever else is imported.
attribute [local instance(1100)] instPowNat

/-- Which of the bytes of a number comes first. -/
inductive ByteOrder where
  | lowFirst
  | highFirst
  deriving DecidableEq, Repr

inductive CharSet where
  | utf7
  | utf8
  /-- A mark in front is no part of the text. -/
  | utf8Marked
  /-- Numbers of two bytes. Without an order there has to be a mark that tells it. -/
  | utf16 (order : Option ByteOrder)
  /-- Numbers of four bytes. -/
  | utf32 (order : Option ByteOrder)
  | ascii
  /-- One byte a character. -/
  | codePage (table : Text)
  | gb2312
  | gbk
  | gb18030
  | big5
  | cp950
  | shiftJis
  | cp932
  | eucJp
  | eucKr
  | cp949
  /-- Seven bits a byte, with marks that tell the area. -/
  | marked (marks : Marks)
  /-- Seven bits a byte, with tildes as marks. -/
  | tildes
  deriving DecidableEq, Repr

namespace CharSet

/-- Letters, digits and points as they are, in small letters, with an underscore for whatever else
stands between them. -/
def plainName (name : Text) : Text :=
  let isKept (c : Char) : Bool := c.isAlphanum || c == '.'
  let (_, kept) := name.foldl (fun (gap, kept) c =>
    if isKept c then (false, c.toLower :: (if gap && !kept.isEmpty then '_' :: kept else kept))
    else (true, kept)) (false, ([] : Text))
  kept.reverse

/-- Sets with a rule of their own, by their names. -/
def ruled : List (String × CharSet) :=
  [("utf_8 u8 utf utf8 utf8_ucs2 utf8_ucs4 cp65001", .utf8),
   ("utf_8_sig", .utf8Marked),
   ("ascii 646 ansi_x3.4_1968 ansi_x3_4_1968 ansi_x3.4_1986 cp367 csascii ibm367 iso646_us " ++
    "iso_646.irv_1991 iso_ir_6 us us_ascii", .ascii),
   ("latin_1 8859 cp819 csisolatin1 ibm819 iso8859 iso8859_1 iso_8859_1 iso_8859_1_1987 " ++
    "iso_ir_100 l1 latin latin1", .codePage []),
   ("charmap", .codePage []),
   ("utf_7 u7 utf7 unicode_1_1_utf_7", .utf7),
   ("utf_16 u16 utf16", .utf16 none),
   ("utf_16_le unicodelittleunmarked utf_16le", .utf16 (some .lowFirst)),
   ("utf_16_be unicodebigunmarked utf_16be", .utf16 (some .highFirst)),
   ("utf_32 u32 utf32", .utf32 none),
   ("utf_32_le utf_32le", .utf32 (some .lowFirst)),
   ("utf_32_be utf_32be", .utf32 (some .highFirst)),
   ("gb2312 chinese csiso58gb231280 euc_cn euccn eucgb2312_cn gb2312_1980 gb2312_80 iso_ir_58 " ++
    "x_mac_simp_chinese", .gb2312),
   ("gbk 936 cp936 ms936", .gbk),
   ("gb18030 gb18030_2000", .gb18030),
   ("hz hzgb hz_gb hz_gb_2312", .tildes),
   ("big5 big5_tw csbig5 x_mac_trad_chinese", .big5),
   ("cp950 950 ms950", .cp950),
   ("shift_jis csshiftjis shiftjis sjis s_jis x_mac_japanese", .shiftJis),
   ("cp932 932 ms932 mskanji ms_kanji", .cp932),
   ("euc_jp eucjp ujis u_jis", .eucJp),
   ("iso2022_jp csiso2022jp iso2022jp iso_2022_jp", .marked ⟨[.roman, .jis208], false⟩),
   ("iso2022_jp_1 iso2022jp_1 iso_2022_jp_1", .marked ⟨[.roman, .jis208, .jis212], false⟩),
   ("iso2022_jp_ext iso2022jp_ext iso_2022_jp_ext",
    .marked ⟨[.roman, .kana, .jis208, .jis212], false⟩),
   ("euc_kr euckr korean ksc5601 ks_c_5601 ks_c_5601_1987 ksx1001 ks_x_1001 x_mac_korean", .eucKr),
   ("cp949 949 ms949 uhc", .cp949),
   ("iso2022_kr csiso2022kr iso2022kr iso_2022_kr", .marked ⟨[.ksx1001], true⟩)]

/-- All sets by their names. The first name of each holds no points. -/
def named : List (List Text × CharSet) :=
  let tables : List (String × CharSet) := codePages.map fun entry =>
    (entry.1, .codePage entry.2.toList)
  (ruled ++ tables).map fun entry => (Text.pieces ' ' entry.1.toList, entry.2)

/-- The set with a name. Points in a name are as good as underscores, but for the first names. -/
def ofName? (name : Text) : Option CharSet :=
  let name := plainName name
  let pointless := name.map fun c => if c = '.' then '_' else c
  (named.find? fun (names, _) =>
    names.contains name || (names.drop 1).contains pointless).map (·.2)

/-! One byte a character -/

/-- The table says what the last bytes stand for. -/
def ofCodePage (table : Text) (bytes : Bytes) : Text :=
  let table := table.toArray
  bytes.map fun b =>
    if b.toNat + table.size < 256 then Char.ofNat b.toNat
    else table[b.toNat + table.size - 256]?.getD (Char.ofNat b.toNat)

def ofAscii (bytes : Bytes) : Text :=
  bytes.map fun b => if b.toNat < 128 then Char.ofNat b.toNat else '\ufffd'

/-! More bytes a character -/

def ofPair (order : ByteOrder) (a b : UInt8) : Nat :=
  match order with
  | .lowFirst => b.toNat * 256 + a.toNat
  | .highFirst => a.toNat * 256 + b.toNat

def isHighHalf (n : Nat) : Bool := 0xd800 ≤ n && n < 0xdc00

def isLowHalf (n : Nat) : Bool := 0xdc00 ≤ n && n < 0xe000

/-- The character whose halves these are. -/
def ofHalves (high low : Nat) : Char :=
  Char.ofNat (0x10000 + (high - 0xd800) * 1024 + (low - 0xdc00))

/-- Two bytes, or two halves of a character in four. What is left at the end is one fault. -/
def ofPairs (order : ByteOrder) : Bytes → Text
  | a :: b :: c :: d :: rest =>
    let first := ofPair order a b
    let second := ofPair order c d
    if isHighHalf first then
      if isLowHalf second then ofHalves first second :: ofPairs order rest
      else '\ufffd' :: ofPairs order (c :: d :: rest)
    else (if isLowHalf first then '\ufffd' else Char.ofNat first) :: ofPairs order (c :: d :: rest)
  | a :: b :: rest =>
    let first := ofPair order a b
    if isHighHalf first then ['\ufffd']
    else (if isLowHalf first then '\ufffd' else Char.ofNat first) ::
      (if rest.isEmpty then [] else ['\ufffd'])
  | [_] => ['\ufffd']
  | [] => []

def ofFours (order : ByteOrder) : Bytes → Text
  | a :: b :: c :: d :: rest =>
    let n := match order with
      | .lowFirst => ofPair order c d * 65536 + ofPair order a b
      | .highFirst => ofPair order a b * 65536 + ofPair order c d
    (if n.isValidChar then Char.ofNat n else '\ufffd') :: ofFours order rest
  | [] => []
  | _ => ['\ufffd']

/-- The byte order that a mark in front tells, and what follows the mark. -/
def markedOrder? (width : Nat) (bytes : Bytes) : Option (ByteOrder × Bytes) :=
  let blanks : Bytes := List.replicate (width - 2) 0
  if bytes.take width = [0xff, 0xfe] ++ blanks then some (.lowFirst, bytes.drop width)
  else if bytes.take width = blanks ++ [0xfe, 0xff] then some (.highFirst, bytes.drop width)
  else none

/-! Seven bits a byte -/

/-- The value of a digit of base 64. -/
def sixBits? (b : UInt8) : Option Nat :=
  let n := b.toNat
  if 65 ≤ n ∧ n ≤ 90 then some (n - 65)
  else if 97 ≤ n ∧ n ≤ 122 then some (n - 71)
  else if 48 ≤ n ∧ n ≤ 57 then some (n + 4)
  else if n = 43 then some 62
  else if n = 47 then some 63
  else none

/-- A run of digits between a plus sign and whatever else ends it. -/
structure Run where
  /-- Bits that do not make a number yet, and how many there are. -/
  bits : Nat := 0
  count : Nat := 0
  /-- The first half of a character. -/
  half : Option Nat := none
  deriving DecidableEq, Repr

/-- Takes one more digit, and gives the characters that are complete. -/
def Run.add (r : Run) (digit : Nat) : Text × Run :=
  let bits := r.bits * 64 + digit
  let count := r.count + 6
  if count < 16 then ([], { r with bits, count })
  else
    let n := bits / 2 ^ (count - 16)
    let next : Run := { bits := bits % 2 ^ (count - 16), count := count - 16 }
    match r.half with
    | some high =>
      if isLowHalf n then ([ofHalves high n], next)
      else if isHighHalf n then (['\ufffd'], { next with half := some n })
      else (['\ufffd', Char.ofNat n], next)
    | none =>
      if isHighHalf n then ([], { next with half := some n })
      else ([if isLowHalf n then '\ufffd' else Char.ofNat n], next)

/-- A run must not end within a number. -/
def Run.isBroken (r : Run) : Bool := 6 ≤ r.count || (r.count ≠ 0 && r.bits ≠ 0)

/-- Bytes that stand for themselves outside of runs. -/
def isPlain (b : UInt8) : Bool := b.toNat < 128 && b.toNat ≠ 43

/-- The text of bytes, within a run or without one. -/
def ofSevenBits : Option Run → Bytes → Text
  | none, [] => []
  | some r, [] => if r.half.isSome || r.isBroken then ['\ufffd'] else []
  | none, b :: rest =>
    if b.toNat = 43 then
      match rest with
      | c :: rest =>
        if (sixBits? c).isSome then ofSevenBits (some {}) (c :: rest)
        else (if c.toNat = 45 then '+' else '\ufffd') :: ofSevenBits none rest
      | [] => []
    else (if isPlain b then Char.ofNat b.toNat else '\ufffd') :: ofSevenBits none rest
  | some r, b :: rest =>
    match sixBits? b with
    | some digit =>
      let (t, r) := r.add digit
      t ++ ofSevenBits (some r) rest
    | none =>
      if r.isBroken then '\ufffd' :: ofSevenBits none rest
      else
        (if r.half.isSome && isPlain b then ['\ufffd'] else []) ++
          (if b.toNat = 45 then ofSevenBits none rest
           else (if isPlain b then Char.ofNat b.toNat else '\ufffd') :: ofSevenBits none rest)
termination_by _ bytes => bytes.length

inductive Problem where
  /-- Nothing tells the byte order of numbers so many bits wide. -/
  | unmarked (bits : Nat)
  deriving DecidableEq, Repr

def Problem.message : Problem → Text
  | unmarked bits => (s!"UTF-{bits} stream does not start with BOM").toList

/-- The text of bytes, given what stands at the front of them. -/
def ofMultibyte (front : UInt8 → Bytes → Front) (bytes : Bytes) : Text :=
  ofFronts (fun _ b rest => (front b rest, ())) () 0 bytes

def decode (set : CharSet) (bytes : Bytes) : Except Problem Text :=
  match set with
  | utf7 => .ok (ofSevenBits none bytes)
  | utf8 => .ok (ofBytesLeniently bytes)
  | utf8Marked =>
    .ok (ofBytesLeniently (if [0xef, 0xbb, 0xbf].isPrefixOf bytes then bytes.drop 3 else bytes))
  | utf16 (some order) => .ok (ofPairs order bytes)
  | utf16 none =>
    match markedOrder? 2 bytes with
    | some (order, rest) => .ok (ofPairs order rest)
    | none => if bytes.length < 2 then .ok (ofPairs .lowFirst bytes) else .error (.unmarked 16)
  | utf32 (some order) => .ok (ofFours order bytes)
  | utf32 none =>
    match markedOrder? 4 bytes with
    | some (order, rest) => .ok (ofFours order rest)
    | none => if bytes.length < 4 then .ok (ofFours .lowFirst bytes) else .error (.unmarked 32)
  | ascii => .ok (ofAscii bytes)
  | codePage table => .ok (ofCodePage table bytes)
  | gb2312 => .ok (ofMultibyte Multibyte.gb2312 bytes)
  | gbk => .ok (ofMultibyte Multibyte.gbk bytes)
  | gb18030 => .ok (ofMultibyte Multibyte.gb18030 bytes)
  | big5 => .ok (ofMultibyte Multibyte.big5 bytes)
  | cp950 => .ok (ofMultibyte Multibyte.cp950 bytes)
  | shiftJis => .ok (ofMultibyte Multibyte.shiftJis bytes)
  | cp932 => .ok (ofMultibyte Multibyte.cp932 bytes)
  | eucJp => .ok (ofMultibyte Multibyte.eucJp bytes)
  | eucKr => .ok (ofMultibyte Multibyte.eucKr bytes)
  | cp949 => .ok (ofMultibyte Multibyte.cp949 bytes)
  | marked marks => .ok (ofFronts marks.front {} 0 bytes)
  | tildes => .ok (ofFronts tildeFront false 0 bytes)

end CharSet

end CommitMessage.Text
