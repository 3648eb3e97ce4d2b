import CommitMessage.Address.LabelLetters
import CommitMessage.Address.Punycode
import CommitMessage.Text.Lines
import CommitMessage.Text.LowerCase

/-! Host names with characters of any script, in their ASCII form. A name is made of labels with
dots between them; a label with characters beyond ASCII becomes a mark and its code. -/

namespace CommitMessage.HostName

/-- The dots of all scripts. -/
def isDot (c : Char) : Bool := ".。．｡".toList.contains c

def within (first last : Nat) (c : Char) : Bool := first ≤ c.toNat && c.toNat ≤ last

/-- Japanese letters, and the characters they share with Chinese. -/
def isKanaOrHan (c : Char) : Bool :=
  within 0x3005 0x3007 c || within 0x3041 0x309f c || within 0x30a1 0x30fa c ||
    within 0x30fc 0x30ff c || within 0x3400 0x9fff c || within 0xf900 0xfad9 c ||
    within 0x20000 0x323af c

/-- Signs that leave out the vowel of the letter before them. -/
def vowelKillers : List Nat :=
  [0x94d, 0x9cd, 0xa4d, 0xacd, 0xb4d, 0xbcd, 0xc4d, 0xccd, 0xd3b, 0xd3c, 0xd4d, 0xdca, 0xe3a, 0xeba,
   0xf84, 0x1039, 0x103a, 0x1714, 0x1734, 0x17d2, 0x1a60, 0x1b44, 0x1baa, 0x1bab, 0x1bf2, 0x1bf3]

/-- Characters that may stand only beside some others. -/
def fitsContext (label : Text) (before : Option Char) (c : Char) (after : Option Char) : Bool :=
  if c = '·' then before = some 'l' && after = some 'l'
  else if c = '\u0375' then after.any fun c => within 0x370 0x3ff c || within 0x1f00 0x1fff c
  else if c = '\u05f3' || c = '\u05f4' then before.any (within 0x591 0x5f4)
  else if c = '\u30fb' then label.any isKanaOrHan
  else if within 0x660 0x669 c then !label.any (within 0x6f0 0x6f9)
  else if within 0x6f0 0x6f9 c then !label.any (within 0x660 0x669)
  else if c = '\u200c' || c = '\u200d' then before.any fun c => vowelKillers.contains c.toNat
  else false

def areLetters (label : Text) (before : Option Char) : Text → Bool
  | [] => true
  | c :: rest =>
    (inSteps c.toNat labelSteps || fitsContext label before c rest.head?) &&
      areLetters label (some c) rest

/-- Hyphens stand neither at an end of a label nor where those of the mark of a code stand. -/
def hasGoodHyphens (label : Text) : Bool :=
  label.head? != some '-' && label.getLast? != some '-' && (label.drop 2).take 2 != ['-', '-']

def codeMark : Text := "xn--".toList

def maxLabel : Nat := 63

/-- The ASCII form of a label. -/
def labelOf? (label : Text) : Option Text :=
  let isCode := label.all Punycode.isBasic && codeMark.isPrefixOf label
  let good := if isCode then label.length > 4 && label.getLast? != some '-'
    else !label.isEmpty && hasGoodHyphens label && areLetters label none label
  let ascii := if label.all Punycode.isBasic then label
    else codeMark ++ Punycode.encode label
  if good && ascii.length ≤ maxLabel then some ascii else none

def labels (name : Text) : List Text :=
  Text.pieces '.' (name.map fun c => if isDot c then '.' else c)

/-- The ASCII form of a name. A dot may stand at its end. -/
def ofText? (name : Text) : Option Text := do
  let all := labels name.lowered
  let isDotted := all.getLast? = some []
  let ascii ← (if isDotted then all.dropLast else all).mapM labelOf?
  let name := Text.joinWith ['.'] (if isDotted then ascii ++ [[]] else ascii)
  if ascii.isEmpty || (if isDotted then 254 else 253) < name.length then none else some name

end CommitMessage.HostName
