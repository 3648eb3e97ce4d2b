import CommitMessage.Json.Shown
import CommitMessage.Text.Digit

/-! Message templates. A directive takes an argument and says how it is written: a percent sign,
the key of the argument in brackets, flags, a width, a precision, a length that counts for
nothing, and a letter. A template is read into pieces, and the pieces are filled from left to
right, so the first fault in the text is the one that is reported. -/

namespace CommitMessage.Log

-- A power of whole numbers is the same one, whatever else is imported.
attribute [local instance(1100)] instPowNat

inductive Template.Problem where
  | tooFewArguments
  | tooManyArguments
  | noKeys
  | unclosedKey
  | missingKey (key : Text)
  /-- A key, but the argument is a list. -/
  | keyOfList
  | incomplete
  | amountNotWhole
  | widthTooGreat
  | precisionTooGreat
  | askedWidthTooGreat
  | askedPrecisionTooGreat
  | unknownLetter (letter : Char) (index : Nat)
  | notWhole (letter : Char) (sort : Text)
  | notReal (letter : Char) (sort : Text)
  | notReadAsNumber (sort : Text)
  | wholeOfNothing
  | wholeOfInfinity
  | tooLarge
  | notACharacter
  | noSuchCharacter
  deriving DecidableEq, Repr

namespace Template

def Problem.message : Problem → Text
  | tooFewArguments => "not enough arguments for format string".toList
  | tooManyArguments => "not all arguments converted during string formatting".toList
  | noKeys => "format requires a mapping".toList
  | unclosedKey => "incomplete format key".toList
  | missingKey key => key.quoted
  | keyOfList => "list indices must be integers or slices, not str".toList
  | incomplete => "incomplete format".toList
  | amountNotWhole => "* wants int".toList
  | widthTooGreat => "width too big".toList
  | precisionTooGreat => "precision too big".toList
  | askedWidthTooGreat => "Python int too large to convert to C ssize_t".toList
  | askedPrecisionTooGreat => "Python int too large to convert to C int".toList
  | unknownLetter letter index =>
    let shown := if 31 ≤ letter.toNat ∧ letter.toNat < 127 then letter else '?'
    "unsupported format character '".toList ++ shown :: "' (0x".toList ++
      Nat.toDigits 16 letter.toNat ++ ") at index ".toList ++ Decimal.digits index
  | notWhole letter sort =>
    '%' :: letter :: " format: an integer is required, not ".toList ++ sort
  | notReal letter sort =>
    '%' :: letter :: " format: a real number is required, not ".toList ++ sort
  | notReadAsNumber sort => "must be real number, not ".toList ++ sort
  | wholeOfNothing => "cannot convert float NaN to integer".toList
  | wholeOfInfinity => "cannot convert float infinity to integer".toList
  | tooLarge => "int too large to convert to float".toList
  | notACharacter => "%c requires int or char".toList
  | noSuchCharacter => "%c arg not in range(0x110000)".toList

/-- A width or a precision. -/
inductive Amount where
  | absent
  | given (n : Nat)
  /-- Taken from the arguments. -/
  | asked
  deriving DecidableEq, Repr

inductive Key where
  | absent
  | closed (key : Text)
  | unclosed
  deriving DecidableEq, Repr

structure Flags where
  leftAligned : Bool := false
  signed : Bool := false
  blank : Bool := false
  marked : Bool := false
  zeros : Bool := false
  deriving DecidableEq, Repr

structure Directive where
  key : Key
  flags : Flags
  width : Amount
  precision : Amount
  /-- The letter and its place in the template; none if the template ends before it. -/
  letter : Option (Char × Nat)
  deriving DecidableEq, Repr

inductive Piece where
  | text (c : Char)
  | directive (d : Directive)
  deriving DecidableEq, Repr

/-! Reading -/

/-- Text that is still to be read, and the place where it begins. -/
structure Input where
  place : Nat
  rest : Text

def Input.drop (n : Nat) (i : Input) : Input := ⟨i.place + n, i.rest.drop n⟩

/-- How many characters there are before the bracket that closes `depth` open ones. -/
def keyLength? : Nat → Text → Option Nat
  | _, [] => none
  | depth, c :: rest =>
    if c = ')' then
      match depth with
      | 0 => some 0
      | depth + 1 => (keyLength? depth rest).map (· + 1)
    else if c = '(' then (keyLength? (depth + 1) rest).map (· + 1)
    else (keyLength? depth rest).map (· + 1)

def readKey (i : Input) : Key × Input :=
  match i.rest with
  | '(' :: rest =>
    match keyLength? 0 rest with
    | some length => (.closed (rest.take length), i.drop (length + 2))
    | none => (.unclosed, i.drop i.rest.length)
  | _ => (.absent, i)

def Flags.isFlag (c : Char) : Bool := c ∈ ['-', '+', ' ', '#', '0']

def Flags.ofText (t : Text) : Flags :=
  { leftAligned := t.contains '-', signed := t.contains '+', blank := t.contains ' ',
    marked := t.contains '#', zeros := t.contains '0' }

/-- An asterisk, or digits; without either, what is said of no digits. -/
def readAmount (fallback : Amount) (i : Input) : Amount × Input :=
  match i.rest with
  | '*' :: _ => (.asked, i.drop 1)
  | rest =>
    let shown := rest.takeWhile isAsciiDigit
    (if shown.isEmpty then fallback else .given (Decimal.value shown), i.drop shown.length)

/-- A point and an amount; a point alone is a precision of zero. -/
def readPrecision (i : Input) : Amount × Input :=
  match i.rest with
  | '.' :: _ => readAmount (.given 0) (i.drop 1)
  | _ => (.absent, i)

def dropLength (i : Input) : Input :=
  match i.rest with
  | c :: _ => if c = 'h' ∨ c = 'l' ∨ c = 'L' then i.drop 1 else i
  | [] => i

/-- The directive after a percent sign. -/
def readDirective (i : Input) : Directive × Input :=
  let (key, i) := readKey i
  let flags := i.rest.takeWhile Flags.isFlag
  let (width, i) := readAmount .absent (i.drop flags.length)
  let (precision, i) := readPrecision i
  let i := dropLength i
  ({ key, flags := .ofText flags, width, precision,
     letter := i.rest.head?.map fun c => (c, i.place) }, i.drop 1)

/-- The pieces of a template; `fuel` is at least the number of characters left. -/
def readPieces : Nat → Input → List Piece
  | 0, _ => []
  | fuel + 1, i =>
    match i.rest with
    | [] => []
    | '%' :: '%' :: _ => .text '%' :: readPieces fuel (i.drop 2)
    | '%' :: _ =>
      let (d, i) := readDirective (i.drop 1)
      .directive d :: readPieces fuel i
    | c :: _ => .text c :: readPieces fuel (i.drop 1)

def read (t : Text) : List Piece := readPieces t.length ⟨0, t⟩

/-! Arguments -/

end Template

/-- What a template is filled from. -/
inductive Arguments where
  | several (items : List Json)
  /-- One value, whose members can be taken by key. -/
  | one (value : Json)

namespace Arguments

/-- A single object that is not empty is taken for its members. -/
def ofList : List Json → Arguments
  | [.object (m :: rest)] => .one (.object (m :: rest))
  | items => .several items

def isEmpty : Arguments → Bool
  | several items => items.isEmpty
  | one value => value.isVoid

end Arguments

namespace Template

/-- The arguments that remain. -/
structure Supply where
  rest : List Json
  /-- Where keys are looked up. -/
  keyed : Option Json

def Supply.ofArguments : Arguments → Supply
  | .several items => ⟨items, none⟩
  | .one value =>
    match value with
    | .object _ | .array _ => ⟨[value], some value⟩
    | _ => ⟨[value], none⟩

def Supply.next (s : Supply) : Except Problem (Json × Supply) :=
  match s.rest with
  | [] => .error .tooFewArguments
  | v :: rest => .ok (v, { s with rest })

/-- With a key, the member it names is the only argument. -/
def Supply.select (s : Supply) : Key → Except Problem Supply
  | .absent => .ok s
  | key =>
    match s.keyed, key with
    | none, _ => .error .noKeys
    | some _, .unclosed => .error .unclosedKey
    | some (.object members), .closed k =>
      match (Json.object members).get? k with
      | some v => .ok { s with rest := [v] }
      | none => .error (.missingKey k)
    | some _, _ => .error .keyOfList

def wholeAmount? : Json → Option Int
  | .int n => some n
  | .bool b => some (if b then 1 else 0)
  | _ => none

/-- The width and whether it asks for alignment to the left, as a negative one does. -/
def Supply.width (s : Supply) : Amount → Except Problem (Option Nat × Bool × Supply)
  | .absent => .ok (none, false, s)
  | .given n => if n < 2 ^ (63 : Nat) then .ok (some n, false, s) else .error .widthTooGreat
  | .asked => do
    let (v, s) ← s.next
    match wholeAmount? v with
    | none => .error .amountNotWhole
    | some n =>
      if n < -(2 ^ (63 : Nat)) ∨ 2 ^ (63 : Nat) ≤ n then .error .askedWidthTooGreat
      else .ok (some n.natAbs, n < 0, s)

/-- The precision; a negative one counts as zero. -/
def Supply.precision (s : Supply) : Amount → Except Problem (Option Nat × Supply)
  | .absent => .ok (none, s)
  | .given n => if n < 2 ^ (31 : Nat) then .ok (some n, s) else .error .precisionTooGreat
  | .asked => do
    let (v, s) ← s.next
    match wholeAmount? v with
    | none => .error .amountNotWhole
    | some n =>
      if n < -(2 ^ (31 : Nat)) ∨ 2 ^ (31 : Nat) ≤ n then .error .askedPrecisionTooGreat
      else .ok (some n.toNat, s)

/-! Writing -/

/-- A written argument: its sign, the mark of its base, and the rest. -/
structure Written where
  sign : Text := []
  mark : Text := []
  body : Text
  isNumber : Bool := false

/-- The sign of a number, where it has one or the flags ask for one. -/
def signText (flags : Flags) (negative : Bool) : Text :=
  if negative then ['-'] else if flags.signed then ['+'] else if flags.blank then [' '] else []

def cut (precision : Option Nat) (t : Text) : Text :=
  match precision with
  | some n => t.take n
  | none => t

def writeWhole (letter : Char) (flags : Flags) (precision : Option Nat) (n : Int) : Written :=
  let base := if letter = 'o' then 8 else if letter = 'x' ∨ letter = 'X' then 16 else 10
  let shown := Nat.toDigits base n.natAbs
  let shown := if letter = 'X' then shown.map Char.toUpper else shown
  { sign := signText flags (n < 0)
    mark := if flags.marked && base ≠ 10 then ['0', letter] else []
    body := List.replicate (precision.getD 0 - shown.length) '0' ++ shown
    isNumber := true }

/-- The whole number that an argument stands for; a fraction is dropped, but not where digits of
another base are asked for. -/
def wholeOf (letter : Char) (v : Json) : Except Problem Int :=
  let plain := letter ∉ ['o', 'x', 'X']
  match v with
  | .int n => .ok n
  | .bool b => .ok (if b then 1 else 0)
  | .number x =>
    if plain then
      match x with
      | .nan => .error .wholeOfNothing
      | .infinity _ => .error .wholeOfInfinity
      | .finite negative significand exponent =>
        let (num, den) := Binary64.ratio significand exponent
        let size : Int := (num / den : Nat)
        .ok (if negative then -size else size)
    else .error (.notWhole letter v.sort)
  | v => .error (if plain then .notReal letter v.sort else .notWhole letter v.sort)

def realOf : Json → Except Problem Binary64
  | .number x => .ok x
  | .bool b => .ok (.ofNat (if b then 1 else 0))
  | .int n =>
    match Binary64.ofRatio (n < 0) n.natAbs 1 with
    | .infinity _ => .error .tooLarge
    | x => .ok x
  | v => .error (.notReadAsNumber v.sort)

def writeReal (letter : Char) (flags : Flags) (precision : Option Nat) (x : Binary64) : Written :=
  let count := precision.getD 6
  let (negative, body) : Bool × Text := match x with
    | .nan => (false, "nan".toList)
    | .infinity negative => (negative, "inf".toList)
    | .finite negative significand exponent =>
      (negative,
        if letter.toLower = 'e' then Decimal.exponential count flags.marked significand exponent
        else if letter.toLower = 'f' then Decimal.fixed count flags.marked significand exponent
        else Decimal.general count flags.marked significand exponent)
  { sign := signText flags negative
    body := if letter.isUpper then body.map Char.toUpper else body
    isNumber := true }

/-- The character that an argument is or numbers. -/
def characterOf : Json → Except Problem Char
  | .string [c] => .ok c
  | .int n =>
    if n < 0 ∨ 0x110000 ≤ n then .error .noSuchCharacter
    else .ok (if h : n.toNat.isValidChar then Char.ofNatAux n.toNat h else Char.ofNat 0xfffd)
  | .bool b => .ok (Char.ofNat (if b then 1 else 0))
  | _ => .error .notACharacter

def write (letter : Char) (index : Nat) (flags : Flags) (precision : Option Nat) (v : Json) :
    Except Problem Written :=
  if letter = 's' then .ok { body := cut precision v.shown }
  else if letter = 'r' then .ok { body := cut precision v.quoted }
  else if letter = 'a' then .ok { body := cut precision v.asciiQuoted }
  else if letter ∈ ['d', 'i', 'u', 'o', 'x', 'X'] then do
    return writeWhole letter flags precision (← wholeOf letter v)
  else if letter ∈ ['e', 'E', 'f', 'F', 'g', 'G'] then do
    return writeReal letter flags precision (← realOf v)
  else if letter = 'c' then do return { body := [← characterOf v] }
  else .error (.unknownLetter letter index)

/-- Fills up to a width: blanks after what is aligned to the left, zeros between sign and digits
where the flags ask for them, else blanks before. -/
def padded (flags : Flags) (width : Option Nat) (w : Written) : Text :=
  let whole := w.sign ++ w.mark ++ w.body
  let missing := width.getD 0 - whole.length
  if flags.leftAligned then whole ++ List.replicate missing ' '
  else if flags.zeros && w.isNumber then w.sign ++ w.mark ++ List.replicate missing '0' ++ w.body
  else List.replicate missing ' ' ++ whole

def Directive.fill (d : Directive) (s : Supply) : Except Problem (Text × Supply) := do
  let s ← s.select d.key
  let (width, toTheLeft, s) ← s.width d.width
  let (precision, s) ← s.precision d.precision
  match d.letter with
  | none => .error .incomplete
  | some (letter, index) =>
    let (v, s) ← s.next
    let w ← write letter index d.flags precision v
    return (padded { d.flags with leftAligned := d.flags.leftAligned || toTheLeft } width w, s)

def fillPieces : List Piece → Supply → Except Problem (Text × Supply)
  | [], s => .ok ([], s)
  | .text c :: rest, s => do
    let (t, s) ← fillPieces rest s
    return (c :: t, s)
  | .directive d :: rest, s => do
    let (shown, s) ← d.fill s
    let (t, s) ← fillPieces rest s
    return (shown ++ t, s)

/-- Fills a template. All arguments have to be used, unless they can be taken by key. -/
def fill (t : Text) (arguments : Arguments) : Except Problem Text := do
  let (shown, s) ← fillPieces (read t) (.ofArguments arguments)
  if s.keyed.isNone && !s.rest.isEmpty then .error .tooManyArguments
  else return shown

end Template

end CommitMessage.Log
