import CommitMessage.Text.Blank

/-! Text from bytes. A character is a lead byte and up to three continuation bytes; forms that are
longer than needed, halves of pairs and numbers beyond the last character are not read. -/

namespace CommitMessage.Text

abbrev Bytes := List UInt8

inductive Utf8Problem.Reason where
  | badStart
  | badContinuation
  | endOfData
  deriving DecidableEq, Repr

/-- What is wrong with bytes that are no text, and the place where the faulty character begins. -/
structure Utf8Problem where
  reason : Utf8Problem.Reason
  place : Nat
  deriving DecidableEq, Repr

def Utf8Problem.Reason.text : Reason → Text
  | badStart => "invalid start byte".toList
  | badContinuation => "invalid continuation byte".toList
  | endOfData => "unexpected end of data".toList

/-- How many continuation bytes follow a lead byte, and the bounds of the first of them. -/
def continuation? (lead : Nat) : Option (Nat × Nat × Nat) :=
  if 0xc2 ≤ lead ∧ lead < 0xe0 then some (1, 0x80, 0xbf)
  else if lead = 0xe0 then some (2, 0xa0, 0xbf)
  else if lead = 0xed then some (2, 0x80, 0x9f)
  else if 0xe1 ≤ lead ∧ lead < 0xf0 then some (2, 0x80, 0xbf)
  else if lead = 0xf0 then some (3, 0x90, 0xbf)
  else if lead = 0xf4 then some (3, 0x80, 0x8f)
  else if 0xf1 ≤ lead ∧ lead < 0xf4 then some (3, 0x80, 0xbf)
  else none

/-- Reads `count` continuation bytes on top of what has been read of a character. -/
def continued : Nat → Nat → Nat → Nat → Bytes → Except Utf8Problem.Reason Nat
  | 0, _, _, value, _ => .ok value
  | _ + 1, _, _, _, [] => .error .endOfData
  | count + 1, low, high, value, b :: rest =>
    if low ≤ b.toNat ∧ b.toNat ≤ high then
      continued count 0x80 0xbf (value * 64 + (b.toNat - 0x80)) rest
    else .error .badContinuation

/-- The bits of the character in its lead byte. -/
def leadBits (count lead : Nat) : Nat :=
  if count = 1 then lead - 0xc0 else if count = 2 then lead - 0xe0 else lead - 0xf0

/-- The text that begins at a place; the first `skip` bytes belong to the character before. -/
def ofBytesFrom (place skip : Nat) : Bytes → Except Utf8Problem Text
  | [] => .ok []
  | b :: rest =>
    match skip with
    | skip + 1 => ofBytesFrom (place + 1) skip rest
    | 0 =>
      if b.toNat < 0x80 then (ofBytesFrom (place + 1) 0 rest).map (Char.ofNat b.toNat :: ·)
      else
        match continuation? b.toNat with
        | none => .error ⟨.badStart, place⟩
        | some (count, low, high) =>
          match continued count low high (leadBits count b.toNat) rest with
          | .error reason => .error ⟨reason, place⟩
          | .ok value => (ofBytesFrom (place + 1) count rest).map (Char.ofNat value :: ·)

def ofBytes (bytes : Bytes) : Except Utf8Problem Text := ofBytesFrom 0 0 bytes

/-- The continuation bytes that fit, at most `count` of them. -/
def fitting : Nat → Nat → Nat → Bytes → Bytes
  | count + 1, low, high, b :: rest =>
    if low ≤ b.toNat ∧ b.toNat ≤ high then b :: fitting count 0x80 0xbf rest else []
  | _, _, _, _ => []

/-- Like `ofBytesFrom`, with a replacement character for the bytes of a faulty one that fit. -/
def ofBytesLenientlyFrom (skip : Nat) : Bytes → Text
  | [] => []
  | b :: rest =>
    match skip with
    | skip + 1 => ofBytesLenientlyFrom skip rest
    | 0 =>
      if b.toNat < 0x80 then Char.ofNat b.toNat :: ofBytesLenientlyFrom 0 rest
      else
        match continuation? b.toNat with
        | none => '\ufffd' :: ofBytesLenientlyFrom 0 rest
        | some (count, low, high) =>
          let fit := fitting count low high rest
          let value := fit.foldl (fun value b => value * 64 + (b.toNat - 0x80))
            (leadBits count b.toNat)
          (if fit.length = count then Char.ofNat value else '\ufffd') ::
            ofBytesLenientlyFrom fit.length rest

/-- The text of any bytes, with a replacement character for every fault. -/
def ofBytesLeniently (bytes : Bytes) : Text := ofBytesLenientlyFrom 0 bytes

def toBytes (t : Text) : Bytes := t.flatMap String.utf8EncodeChar

/-- Every way to end a line as a line feed. -/
def lineFeeds : Text → Text
  | '\r' :: '\n' :: rest => '\n' :: lineFeeds rest
  | '\r' :: rest => '\n' :: lineFeeds rest
  | c :: rest => c :: lineFeeds rest
  | [] => []

end CommitMessage.Text
