import CommitMessage.Number.Written
import CommitMessage.Text.Lines

/-! The two commands: to lint the message in a file, and to serve requests. Of the words after the
name of a command, those that begin with a hyphen are options; a long name may be cut short as long
as it fits one option only, and its value follows it or is attached to it with an equals sign.
After two hyphens every word counts as it stands. -/

namespace CommitMessage.CommandLine

inductive Stop where
  | help
  | misuse
  deriving DecidableEq, Repr

structure Choice where
  name : Text
  /-- Whether the option takes a value, and which values it takes. -/
  accepts : Option (Text → Bool) := none

structure Grammar where
  choices : List Choice
  /-- Whether there is a place for a word that is no option. -/
  hasPlace : Bool

inductive Word where
  | plain (t : Text)
  | option (name : Text) (attached : Option Text)
  /-- The short name of help and letters after it. -/
  | bundle (letters : Text)
  | unknown
  /-- Two hyphens. -/
  | divider
  deriving DecidableEq, Repr

def shortHelp : Text := "-h".toList

def longHelp : Text := "--help".toList

def divider : Text := "--".toList

namespace Grammar

def names (g : Grammar) : List Text := shortHelp :: longHelp :: g.choices.map (·.name)

/-- The text before the first equals sign, and the text after it. -/
def splitAttached (t : Text) : Text × Option Text :=
  match t.dropWhile (· != '=') with
  | [] => (t, none)
  | _ :: value => (t.takeWhile (· != '='), some value)

/-- A hyphen and a number, with or without a point. -/
def isNegativeNumber (t : Text) : Bool :=
  match Text.dropFinal '\n' t with
  | '-' :: body =>
    match body.dropWhile (· != '.') with
    | [] => !body.isEmpty && body.all isDigit
    | _ :: fraction =>
      (body.takeWhile (· != '.')).all isDigit && !fraction.isEmpty && fraction.all isDigit
  | _ => false

/-- What a word stands for, if it stands for only one thing. -/
def read (g : Grammar) (t : Text) : Except Stop Word :=
  let (name, attached) := splitAttached t
  if t.head? ≠ some '-' ∨ t = ['-'] then .ok (.plain t)
  else if t ∈ g.names then .ok (.option t none)
  else if attached.isSome ∧ name ∈ g.names then .ok (.option name attached)
  else if divider.isPrefixOf t then
    match g.names.filter name.isPrefixOf with
    | [full] => .ok (.option full attached)
    | [] => .ok (if isNegativeNumber t || t.contains ' ' then .plain t else .unknown)
    | _ => .error .misuse
  else if shortHelp.isPrefixOf t then .ok (.bundle (t.drop 2))
  else .ok (if isNegativeNumber t || t.contains ' ' then .plain t else .unknown)

def readAll (g : Grammar) : List Text → Except Stop (List Word)
  | [] => .ok []
  | t :: rest =>
    if t = divider then .ok (.divider :: rest.map .plain)
    else do
      let word ← g.read t
      let words ← g.readAll rest
      return word :: words

end Grammar

/-- What follows from letters bundled with the short name of help. Only another of that name, or a
letter that no option has, may come next. -/
def ofBundle : Text → Stop
  | 'h' :: '=' :: _ => .misuse
  | 'h' :: rest => ofBundle rest
  | '-' :: _ => .misuse
  | _ => .help

structure Found where
  switches : List Text := []
  /-- The latest value of an option first. -/
  values : List (Text × Text) := []
  place : Option Text := none
  /-- Whether there was a word that has no place. -/
  stray : Bool := false

namespace Found

def value? (f : Found) (name : Text) : Option Text := (f.values.find? (·.1 = name)).map (·.2)

end Found

namespace Grammar

/-- Takes a word that is no option. -/
def takePlain (g : Grammar) (f : Found) (t : Text) : Found :=
  if g.hasPlace && f.place.isNone then { f with place := some t } else { f with stray := true }

def takeValue (accepts : Text → Bool) (f : Found) (name value : Text) : Except Stop Found :=
  if accepts value then .ok { f with values := (name, value) :: f.values } else .error .misuse

/-- Goes through the words. Two hyphens count as no word next to the one that has a place. -/
def collect (g : Grammar) (f : Found) : List Word → Except Stop Found
  | [] => .ok f
  | .plain t :: .divider :: rest => g.collect (g.takePlain f t) rest
  | .plain t :: rest => g.collect (g.takePlain f t) rest
  | .divider :: .plain t :: rest => g.collect (g.takePlain f t) rest
  | .divider :: rest => g.collect { f with stray := true } rest
  | .unknown :: rest => g.collect { f with stray := true } rest
  | .bundle letters :: _ => .error (ofBundle letters)
  | .option name attached :: rest =>
    if name = shortHelp ∨ name = longHelp then
      .error (if attached.isSome then .misuse else .help)
    else
      match (g.choices.find? (·.name = name)).bind (·.accepts), attached with
      | none, some _ => .error .misuse
      | none, none => g.collect { f with switches := name :: f.switches } rest
      | some accepts, some value => do
        let f ← takeValue accepts f name value
        g.collect f rest
      | some accepts, none =>
        match rest with
        | .plain value :: rest => do
          let f ← takeValue accepts f name value
          g.collect f rest
        | _ => .error .misuse

/-- Reads all words. Words that have no place do not stop the reading, only what comes of it. -/
def found (g : Grammar) (words : List Text) : Except Stop Found := do
  let words ← g.readAll words
  g.collect {} words

end Grammar

structure LintRequest where
  path : Text
  /-- Looks nothing up. -/
  offline : Bool
  json : Bool
  /-- Lints the file whatever its name is. -/
  force : Bool
  deriving DecidableEq, Repr

structure ServeRequest where
  host : Text := "127.0.0.1".toList
  port : Int := 8787
  deriving DecidableEq, Repr

inductive Request where
  | lint (r : LintRequest)
  | serve (r : ServeRequest)
  deriving DecidableEq, Repr

def offlineName : Text := "--offline".toList

def jsonName : Text := "--json".toList

def forceName : Text := "--force".toList

def hostName : Text := "--host".toList

def portName : Text := "--port".toList

def portOf? (t : Text) : Option Int := Written.int? t.trim

def lintGrammar : Grammar :=
  { choices := [{ name := offlineName }, { name := jsonName }, { name := forceName }]
    hasPlace := true }

def serveGrammar : Grammar :=
  { choices := [{ name := hostName, accepts := some fun _ => true },
      { name := portName, accepts := some fun t => (portOf? t).isSome }]
    hasPlace := false }

/-- What a command makes of its words, unless one of them has no place. -/
def ofFound (f : Found) (request : Option Request) : Except Stop Request :=
  match f.stray, request with
  | false, some r => .ok r
  | _, _ => .error .misuse

def lintWords (words : List Text) : Except Stop Request := do
  let f ← lintGrammar.found words
  ofFound f <| f.place.map fun path => .lint
    { path
      offline := f.switches.contains offlineName
      json := f.switches.contains jsonName
      force := f.switches.contains forceName }

def serveWords (words : List Text) : Except Stop Request := do
  let f ← serveGrammar.found words
  let standard : ServeRequest := {}
  ofFound f <| some <| .serve
    { host := (f.value? hostName).getD standard.host
      port := ((f.value? portName).bind portOf?).getD standard.port }

def commandWords (name : Text) (words : List Text) : Except Stop Request :=
  if name = "lint".toList then lintWords words
  else if name = "serve".toList then serveWords words
  else .error .misuse

/-- Only help may be asked for in front of the name of a command. -/
def outerGrammar : Grammar := { choices := [], hasPlace := true }

/-- The request that words make. An unknown option in front of the command is a misuse, but help
that is asked for later is given all the same. -/
def Request.ofWords : List Text → Except Stop Request
  | [] => .error .misuse
  | t :: rest =>
    if t = divider then .error .misuse
    else do
      match ← outerGrammar.read t with
      | .plain name => commandWords name rest
      | .option _ attached => .error (if attached.isSome then .misuse else .help)
      | .bundle letters => .error (ofBundle letters)
      | _ =>
        match Request.ofWords rest with
        | .error .help => .error .help
        | _ => .error .misuse

end CommitMessage.CommandLine
