import CommitMessage.Number.Decimal
import CommitMessage.Text.Digit
import CommitMessage.Text.Lines

/-! Hosts given by numbers: the short form of four octets, and the long form of eight parts. -/

namespace CommitMessage.Address

/-- A number up to 255 in decimal, without needless zeros. -/
def isOctet (t : Text) : Bool :=
  !t.isEmpty && t.length ≤ 3 && t.all isAsciiDigit && (t.length = 1 || t.head? != some '0') &&
    Decimal.value t ≤ 255

/-- Four octets with points between them. -/
def isShort (t : Text) : Bool :=
  let octets := t.pieces '.'
  octets.length = 4 && octets.all isOctet

def isHextet (t : Text) : Bool :=
  !t.isEmpty && t.length ≤ 4 && t.all fun c => (hexValue? c).isSome

/-- The parts between the colons, with a short address at the end as the two parts it stands
for. -/
def longParts? (t : Text) : Option (List Text) :=
  let parts := t.pieces ':'
  if parts.length < 3 then none
  else match parts.getLast? with
    | some last =>
      if last.contains '.' then
        if isShort last then some (parts.dropLast ++ [['0'], ['0']]) else none
      else some parts
    | none => none

/-- Eight hextets, or fewer with one double colon for the missing ones. -/
def areLongParts (parts : List Text) : Bool :=
  let inner := (parts.drop 1).dropLast
  if 9 < parts.length || 1 < inner.count [] then false
  else if inner.contains [] then
    let skip := 1 + (inner.takeWhile (· != [])).length
    let before := parts.take skip
    let after := parts.drop (skip + 1)
    let before := if before.head? = some [] then before.drop 1 else before
    let openStart := parts.head? = some [] && !before.isEmpty
    let after := if parts.getLast? = some [] then after.dropLast else after
    let openEnd := parts.getLast? = some [] && !after.isEmpty
    !openStart && !openEnd && before.length + after.length < 8 && (before ++ after).all isHextet
  else parts.length = 8 && parts.all isHextet

/-- A long address, with or without a zone after a percent sign. -/
def isLong (t : Text) : Bool :=
  let zone := (t.dropWhile (· != '%')).drop 1
  let address := t.takeWhile (· != '%')
  !t.contains '/' && (!t.contains '%' || (!zone.isEmpty && !zone.contains '%')) &&
    (longParts? address).any areLongParts

end CommitMessage.Address
