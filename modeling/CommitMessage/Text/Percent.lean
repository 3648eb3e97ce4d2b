import CommitMessage.Text.Digit
import CommitMessage.Text.Utf8

/-! Text with a percent sign and two hexadecimal digits for every byte that must not stand as it
is. -/

namespace CommitMessage

/-- Characters that stand for themselves in every part of an address. -/
def isUnreserved (c : Char) : Bool :=
  c.isAlphanum || c == '_' || c == '.' || c == '-' || c == '~'

def percentByte (b : UInt8) : Text :=
  ['%', (Nat.digitChar (b.toNat / 16)).toUpper, (Nat.digitChar (b.toNat % 16)).toUpper]

namespace Text

/-- Escapes the bytes of every character that is not safe. -/
def escape (isSafe : Char → Bool) (t : Text) : Text :=
  t.flatMap fun c => if isSafe c then [c] else (String.utf8EncodeChar c).flatMap percentByte

/-- The bytes of a text, with those that its escapes stand for. -/
def unescapedBytes : Text → Bytes
  | '%' :: a :: b :: rest =>
    match hexValue? a, hexValue? b with
    | some high, some low => UInt8.ofNat (high * 16 + low) :: unescapedBytes rest
    | _, _ => toBytes ['%'] ++ unescapedBytes (a :: b :: rest)
  | c :: rest => toBytes [c] ++ unescapedBytes rest
  | [] => []

/-- The text without its escapes. Bytes that are no character show as replacement characters. -/
def unescape (t : Text) : Text := ofBytesLeniently (unescapedBytes t)

end Text

/-- Text as one path segment. -/
def percentEncode (t : Text) : Text := t.escape isUnreserved

end CommitMessage
