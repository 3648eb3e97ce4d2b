import CommitMessage.Address.Cut
import CommitMessage.Address.Numeric
import CommitMessage.Text.Quoted

/-! Addresses split into scheme and host. Brackets have to enclose a numeric host of the long kind,
with nothing but a port behind them; a host must not hold characters that could pass for a
delimiter. -/

namespace CommitMessage

/-- What is wrong with an address that cannot be split. -/
inductive AddressProblem where
  | strayBrackets
  | futureAddress
  | shortInBrackets
  | noAddress (host : Text)
  | disguisedDelimiter (host : Text)
  deriving DecidableEq, Repr

def AddressProblem.message : AddressProblem → Text
  | strayBrackets => "Invalid IPv6 URL".toList
  | futureAddress => "IPvFuture address is invalid".toList
  | shortInBrackets => "An IPv4 address cannot be in brackets".toList
  | noAddress host => host.quoted ++ " does not appear to be an IPv4 or IPv6 address".toList
  | disguisedDelimiter host =>
    "netloc '".toList ++ host ++ "' contains invalid characters under NFKC normalization".toList

namespace Address

/-- An address of a kind yet to come: a letter, a version, a point and some text. -/
def isFuture (t : Text) : Bool :=
  let body := t.drop 1
  let version := body.takeWhile fun c => (hexValue? c).isSome
  match body.drop version.length with
  | '.' :: rest => !version.isEmpty && !rest.isEmpty && !rest.contains '\n'
  | _ => false

def checkBracketed (host : Text) : Except AddressProblem Unit :=
  if host.head? = some 'v' then if isFuture host then .ok () else .error .futureAddress
  else if isShort host then .error .shortInBrackets
  else if isLong host then .ok ()
  else .error (.noAddress host)

/-- Characters that stand for a slash, a question mark, a number sign, an at sign or a colon. -/
def disguises : List Nat :=
  [0x2047, 0x2048, 0x2049, 0x2100, 0x2101, 0x2105, 0x2106, 0x2a74, 0xfe13, 0xfe16, 0xfe55, 0xfe56,
   0xfe5f, 0xfe6b, 0xff03, 0xff0f, 0xff1a, 0xff1f, 0xff20]

/-- What stands after the last at sign is a host in brackets, with a port or without one. Where
there are brackets before it only, it has to be a host of the kind that brackets enclose. -/
def checkBrackets (host : Text) : Except AddressProblem Unit :=
  let place := host.afterLast '@'
  match place.cutAt '[' with
  | (_, none) => checkBracketed (place.takeWhile (· != ':'))
  | (before, some rest) =>
    let (inner, port) := rest.cutAt ']'
    let port := port.getD []
    if !before.isEmpty || (!port.isEmpty && port.head? != some ':') then .error .strayBrackets
    else checkBracketed inner

def checkHost (host : Text) : Except AddressProblem Unit := do
  let opens := host.contains '['
  let closes := host.contains ']'
  if opens != closes then throw .strayBrackets
  if opens then checkBrackets host
  if host.any fun c => disguises.contains c.toNat then throw (.disguisedDelimiter host)

/-- The scheme and the host of an address. Controls and spaces in front do not count, nor do
tabs and line breaks anywhere. -/
def split (t : Text) : Except AddressProblem (Text × Text) := do
  let t := (t.dropWhile fun c => c.toNat ≤ 32).filter fun c => c ≠ '\t' ∧ c ≠ '\r' ∧ c ≠ '\n'
  let (scheme, rest) := cutScheme t
  let (host, _) := cutHost rest
  checkHost host
  return (scheme.map Char.toLower, host)

end Address

end CommitMessage
