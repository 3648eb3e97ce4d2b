import CommitMessage.Address.Cut
import CommitMessage.Fetch.Deflate
import CommitMessage.Text.CharSet

/-! The content of a page: its bytes as they were sent, unpacked, and read as text in the character
set that its head names. -/

namespace CommitMessage.Fetch

/-- The head of a page: names and values. -/
abbrev Head := List (Text × Text)

namespace Head

/-- The values under a name, in capital letters or small ones, put together. -/
def value? (h : Head) (name : String) : Option Text :=
  let values := h.filter fun entry => entry.1.map Char.toLower = name.toList
  if values.isEmpty then none else some (Text.joinWith ", ".toList (values.map (·.2)))

/-! Parameters of a value -/

/-- The place of the semicolon that ends a parameter. One between quotes does not. -/
def parameterEnd (quoted : Bool) (before : Option Char) : Text → Nat
  | [] => 0
  | c :: rest =>
    if c = ';' && !quoted then 0
    else parameterEnd (if c = '"' && before ≠ some '\\' then !quoted else quoted) (some c) rest + 1

/-- The parts of a value between semicolons. -/
def parameters : Nat → Text → List Text
  | 0, _ => []
  | fuel + 1, t =>
    let here := parameterEnd false none t
    t.take here :: (if here < t.length then parameters fuel (t.drop (here + 1)) else [])

/-- A text with two characters in place of one another. -/
def replaced (pair : Char × Char) (one : Char) : Text → Text
  | a :: b :: rest =>
    if (a, b) = pair then one :: replaced pair one rest else a :: replaced pair one (b :: rest)
  | t => t

/-- A text without the quotes or brackets around it. -/
def unquoted (t : Text) : Text :=
  if t.length < 2 then t
  else if t.head? = some '"' && t.getLast? = some '"' then
    replaced ('\\', '"') '"' (replaced ('\\', '\\') '\\' (t.drop 1).dropLast)
  else if t.head? = some '<' && t.getLast? = some '>' then (t.drop 1).dropLast
  else t

def parameter (t : Text) : Text × Text :=
  let (name, value) := t.cutAt '='
  (name.trim.map Char.toLower, unquoted (value.getD []).trim)

def parameter? (value : Text) (name : String) : Option Text :=
  ((parameters (value.length + 1) value).map parameter).lookup name.toList

end Head

/-- Undoes one way of packing; none if the bytes are not packed so. Bytes of texts never begin like
those of the first two ways. -/
def unpackedBy? (way : Text) (bytes : Text.Bytes) : Option Text.Bytes :=
  if way = "gzip".toList then (if bytes.length < 2 then some [] else none)
  else if way = "deflate".toList then Deflate.unpackAny? bytes
  else some bytes

/-- Undoes the packing that the head names, the last first. -/
def unpacked? (h : Head) (bytes : Text.Bytes) : Option Text.Bytes :=
  let ways := ((h.value? "content-encoding").getD []).pieces ','
  (ways.map fun way => way.trim.map Char.toLower).reverse.foldlM (fun bytes way =>
    unpackedBy? way bytes) bytes

def charSet (h : Head) : Text.CharSet :=
  (do Text.CharSet.ofName? (← Head.parameter? (← h.value? "content-type") "charset")).getD .utf8

def textOf (h : Head) (bytes : Text.Bytes) : Except Text.CharSet.Problem Text :=
  if bytes.isEmpty then .ok [] else (charSet h).decode bytes

end CommitMessage.Fetch
