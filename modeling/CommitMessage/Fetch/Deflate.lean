import CommitMessage.Text.Utf8

/-! Bytes from packed bits. Packed bytes come in blocks: as they are, or in codes of as many bits as
suit how often they occur, with references to what came before. Bits that break off give the bytes
that they were enough for. -/

namespace CommitMessage.Deflate

-- Powers and sums of whole numbers are the same, whatever else is imported.
attribute [local instance(1100)] instPowNat Zero.ofOfNat0

open Text (Bytes)

/-- Bits in the order in which they are read. -/
abbrev Bits := List Bool

def bitsOfByte (b : UInt8) : Bits := (List.range 8).map fun i => b.toNat.testBit i

def bitsOf (bytes : Bytes) : Bits := bytes.flatMap bitsOfByte

inductive Stop where
  /-- The bits break off. -/
  | short
  /-- The bits are no packed bytes. -/
  | faulty
  deriving DecidableEq, Repr

/-- A number of so many bits, the lowest first. -/
def number : Nat → Bits → Except Stop (Nat × Bits)
  | 0, bits => .ok (0, bits)
  | _ + 1, [] => .error .short
  | width + 1, b :: bits => do
    let (n, rest) ← number width bits
    return (2 * n + b.toNat, rest)

/-! Codes -/

/-- The code of a symbol: so many bits, the highest first, and their value. -/
structure Code where
  length : Nat
  value : Nat
  symbol : Nat
  deriving DecidableEq, Repr

/-- The first value for codes of each length: codes follow each other, and a longer code begins
with what comes after the last shorter one. -/
def firstValues (lengths : List Nat) : List Nat :=
  ((List.range 15).foldl (fun (values, value) i =>
    let value := 2 * (value + if i = 0 then 0 else lengths.count i)
    (values ++ [value], value)) (([0], 0) : List Nat × Nat)).1

/-- The codes of symbols by their lengths; symbols of length zero have none. -/
def codesOf (lengths : List Nat) : List Code :=
  let first := firstValues lengths
  let start : List Code × List Nat := ([], [])
  (lengths.zipIdx.foldl (fun (codes, taken) (length, symbol) =>
    if length = 0 then (codes, taken)
    else
      let value := first[length]?.getD 0 + taken.count length
      (⟨length, value, symbol⟩ :: codes, length :: taken)) start).1.reverse

/-- How much of all codes of 15 bits is taken, of 32768. -/
def taken (lengths : List Nat) : Nat :=
  (lengths.map fun n => if n = 0 then 0 else 2 ^ (15 - n)).sum

/-- Codes have to take all there is. Where `allowsOne`, none at all or one of one bit will do. -/
def areComplete (allowsOne : Bool) (lengths : List Nat) : Bool :=
  let longest := lengths.foldl max 0
  taken lengths = 32768 || longest = 0 || (allowsOne && longest = 1 && taken lengths < 32768)

/-- Reads the bits of one code on top of those that are read. -/
def symbolFrom (codes : List Code) (length value : Nat) : Nat → Bits → Except Stop (Nat × Bits)
  | 0, _ => .error .faulty
  | _ + 1, [] => .error .short
  | fuel + 1, b :: bits =>
    let value := 2 * value + b.toNat
    match codes.find? fun c => c.length = length + 1 && c.value = value with
    | some c => .ok (c.symbol, bits)
    | none => symbolFrom codes (length + 1) value fuel bits

def longestOf (codes : List Code) : Nat := codes.foldl (fun n c => max n c.length) 1

def symbol (codes : List Code) (bits : Bits) : Except Stop (Nat × Bits) :=
  symbolFrom codes 0 0 (longestOf codes) bits

/-! Blocks -/

/-- The codes of a block: bytes, its end and lengths in one set, distances in the other. -/
structure Alphabet where
  literals : List Code
  distances : List Code

def fixedAlphabet : Alphabet :=
  { literals := codesOf (List.replicate 144 8 ++ List.replicate 112 9 ++ List.replicate 24 7 ++
      List.replicate 8 8)
    distances := codesOf (List.replicate 32 5) }

/-- The order in which the lengths of the codes for lengths come. -/
def lengthOrder : List Nat := [16, 17, 18, 0, 8, 7, 9, 6, 10, 5, 11, 4, 12, 3, 13, 2, 14, 1, 15]

def numbers (width : Nat) : Nat → Bits → Except Stop (List Nat × Bits)
  | 0, bits => .ok ([], bits)
  | count + 1, bits => do
    let (n, bits) ← number width bits
    let (rest, bits) ← numbers width count bits
    return (n :: rest, bits)

/-- Reads lengths until there are enough. Some codes repeat the last length, or zero. -/
def codeLengths (codes : List Code) (enough : Nat) :
    Nat → List Nat → Bits → Except Stop (List Nat × Bits)
  | 0, _, _ => .error .faulty
  | fuel + 1, done, bits =>
    if enough ≤ done.length then .ok (done, bits)
    else do
      let (s, bits) ← symbol codes bits
      if s < 16 then codeLengths codes enough fuel (done ++ [s]) bits
      else
        if s = 16 && done.isEmpty then throw .faulty
        let again := if s = 16 then done.getLast?.getD 0 else 0
        let (width, least) := if s = 16 then (2, 3) else if s = 17 then (3, 3) else (7, 11)
        let (n, bits) ← number width bits
        let done := done ++ List.replicate (least + n) again
        if enough < done.length then throw .faulty
        codeLengths codes enough fuel done bits

/-- The codes of a block that brings its own. -/
def ownAlphabet (bits : Bits) : Except Stop (Alphabet × Bits) := do
  let (literals, bits) ← number 5 bits
  let (distances, bits) ← number 5 bits
  let (orders, bits) ← number 4 bits
  let literals := literals + 257
  let distances := distances + 1
  if 286 < literals || 30 < distances then throw .faulty
  let (given, bits) ← numbers 3 (orders + 4) bits
  let orderOf := lengthOrder.zip given
  let lengths := (List.range 19).map fun i => (orderOf.lookup i).getD 0
  if !areComplete false lengths then throw .faulty
  let (all, bits) ← codeLengths (codesOf lengths) (literals + distances)
    (literals + distances + 1) [] bits
  let first := all.take literals
  let second := all.drop literals
  if first[256]?.getD 0 = 0 then throw .faulty
  if !areComplete true first || !areComplete true second then throw .faulty
  return ({ literals := codesOf first, distances := codesOf second }, bits)

/-- The least length for a symbol beyond the end of the block, and how many bits are added. -/
def lengthOf? (s : Nat) : Option (Nat × Nat) :=
  if s < 257 then none
  else if s < 265 then some (s - 254, 0)
  else if s < 285 then
    let n := (s - 261) / 4
    some (3 + (4 + (s - 261) % 4) * 2 ^ n, n)
  else if s = 285 then some (258, 0)
  else none

/-- The least distance for a symbol, and how many bits are added. -/
def distanceOf? (s : Nat) : Option (Nat × Nat) :=
  if s < 4 then some (s + 1, 0)
  else if s < 30 then
    let n := (s - 2) / 2
    some (1 + (2 + s % 2) * 2 ^ n, n)
  else none

/-- Puts bytes from some way back at the end, one by one. The bytes are backwards. -/
def repeatBytes (distance : Nat) : Nat → Bytes → Bytes
  | 0, done => done
  | n + 1, done =>
    match done[distance - 1]? with
    | some b => repeatBytes distance n (b :: done)
    | none => done

/-- What has been unpacked, backwards, and how it goes on. -/
structure Unpacked where
  done : Bytes
  next : Except Stop Bits

def codedBlock (a : Alphabet) : Nat → Bytes → Bits → Unpacked
  | 0, done, _ => ⟨done, .error .faulty⟩
  | fuel + 1, done, bits =>
    match symbol a.literals bits with
    | .error stop => ⟨done, .error stop⟩
    | .ok (s, bits) =>
      if s < 256 then codedBlock a fuel (UInt8.ofNat s :: done) bits
      else if s = 256 then ⟨done, .ok bits⟩
      else
        let reference : Except Stop (Nat × Nat × Bits) := do
          let some (least, extra) := lengthOf? s | throw .faulty
          let (n, bits) ← number extra bits
          let (d, bits) ← symbol a.distances bits
          let some (leastDistance, extra) := distanceOf? d | throw .faulty
          let (m, bits) ← number extra bits
          if done.length < leastDistance + m then throw .faulty
          return (least + n, leastDistance + m, bits)
        match reference with
        | .error stop => ⟨done, .error stop⟩
        | .ok (length, distance, bits) =>
          codedBlock a fuel (repeatBytes distance length done) bits

def plainBytes : Nat → Bytes → Bits → Unpacked
  | 0, done, bits => ⟨done, .ok bits⟩
  | count + 1, done, bits =>
    match number 8 bits with
    | .error stop => ⟨done, .error stop⟩
    | .ok (n, bits) => plainBytes count (UInt8.ofNat n :: done) bits

/-- The bits from the next whole byte on. All bits together are whole bytes. -/
def fromByte (bits : Bits) : Bits := bits.drop (bits.length % 8)

/-- Bytes as they are, after their number, which comes twice. -/
def plainBlock (done : Bytes) (bits : Bits) : Unpacked :=
  let size : Except Stop (Nat × Bits) := do
    let (size, bits) ← number 16 (fromByte bits)
    let (check, bits) ← number 16 bits
    if size + check ≠ 65535 then throw .faulty
    return (size, bits)
  match size with
  | .error stop => ⟨done, .error stop⟩
  | .ok (size, bits) => plainBytes size done bits

def block (kind : Nat) (done : Bytes) (bits : Bits) : Unpacked :=
  match kind with
  | 0 => plainBlock done bits
  | 1 => codedBlock fixedAlphabet (bits.length + 1) done bits
  | 2 =>
    match ownAlphabet bits with
    | .error stop => ⟨done, .error stop⟩
    | .ok (a, bits) => codedBlock a (bits.length + 1) done bits
  | _ => ⟨done, .error .faulty⟩

def blocks : Nat → Bytes → Bits → Unpacked
  | 0, done, _ => ⟨done, .error .faulty⟩
  | fuel + 1, done, bits =>
    let head : Except Stop (Nat × Nat × Bits) := do
      let (last, bits) ← number 1 bits
      let (kind, bits) ← number 2 bits
      return (last, kind, bits)
    match head with
    | .error stop => ⟨done, .error stop⟩
    | .ok (last, kind, bits) =>
      match block kind done bits with
      | ⟨done, .ok bits⟩ => if last = 1 then ⟨done, .ok bits⟩ else blocks fuel done bits
      | broken => broken

/-- The bytes that the bits stand for, or those that they are enough for. -/
def unpackBits (bits : Bits) : Unpacked := blocks (bits.length + 1) [] bits

/-- No bytes at all if the bits are faulty. -/
def Unpacked.bytes? (u : Unpacked) : Option Bytes :=
  match u.next with
  | .error .faulty => none
  | _ => some u.done.reverse

/-- Packed bytes without anything around them. -/
def unpack? (bytes : Bytes) : Option Bytes := (unpackBits (bitsOf bytes)).bytes?

def checkSum (bytes : Bytes) : Nat :=
  let (a, b) := bytes.foldl (fun (a, b) byte =>
    let a := (a + byte.toNat) % 65521
    (a, (b + a) % 65521)) (1, 0)
  b * 65536 + a

/-- Packed bytes after a head of two bytes, and before their check sum. -/
def unpackWrapped? (bytes : Bytes) : Option Bytes :=
  match bytes with
  | a :: b :: rest =>
    if (a.toNat * 256 + b.toNat) % 31 ≠ 0 || a.toNat % 16 ≠ 8 || 7 < a.toNat / 16 then none
    else if b.toNat.testBit 5 then (if rest.length < 4 then some [] else none)
    else
      let u := unpackBits (bitsOf rest)
      match u.next with
      | .ok bits =>
        let check := (fromByte bits).take 32
        let expected := checkSum u.done.reverse
        let given := (List.range 4).foldl (fun n i =>
          n * 256 + (((number 8 (check.drop (8 * i))).toOption.map (·.1)).getD 0)) 0
        if check.length = 32 && given ≠ expected then none else some u.done.reverse
      | .error .short => some u.done.reverse
      | .error .faulty => none
  | _ => some []

/-- Packed bytes with a head or without one. -/
def unpackAny? (bytes : Bytes) : Option Bytes :=
  (unpackWrapped? bytes).orElse fun _ => unpack? bytes

end CommitMessage.Deflate
