import CommitMessage.Glob
import CommitMessage.Lookup.Address
import CommitMessage.Notice
import CommitMessage.Number.Written
import CommitMessage.Register
import CommitMessage.Settings.Address

/-! Settings read from environment variables. A variable that is not set has a default; one that
is set to something unusable is a problem, and the first problem is reported. -/

namespace CommitMessage

inductive Settings.Variable where
  | trac
  | profiles
  | logLevel
  | timeout
  | interval
  | debounce
  | cacheMax
  | enabled
  | patterns
  deriving DecidableEq, Repr

def Settings.Variable.name : Variable → Text
  | trac => "WPCOMMIT_TRAC_BASE_URL".toList
  | profiles => "WPCOMMIT_PROFILES_BASE_URL".toList
  | logLevel => "WPCOMMIT_LOG_LEVEL".toList
  | timeout => "WPCOMMIT_HTTP_TIMEOUT_SECONDS".toList
  | interval => "WPCOMMIT_MIN_REQUEST_INTERVAL_MS".toList
  | debounce => "WPCOMMIT_DEBOUNCE_MS".toList
  | cacheMax => "WPCOMMIT_CACHE_MAX_ENTRIES".toList
  | enabled => "WPCOMMIT_ENABLED".toList
  | patterns => "WPCOMMIT_ADDITIONAL_PATTERNS".toList

def Settings.Variable.all : List Variable :=
  [trac, profiles, logLevel, timeout, interval, debounce, cacheMax, enabled, patterns]

structure Settings where
  hosts : Hosts := ⟨"https://core.trac.wordpress.org".toList,
    "https://profiles.wordpress.org".toList⟩
  logLevel : Level := .info
  /-- How long a page may take, in seconds. -/
  timeout : Binary64 := .ofNat 10
  /-- The least time between two requests, in milliseconds. -/
  intervalMs : Nat := 100
  /-- How long changes have to pause, in milliseconds. -/
  debounceMs : Nat := 100
  cacheMax : Nat := 1000
  enabled : Bool := true
  patterns : List Text := standardPatterns
  deriving DecidableEq, Repr

inductive Settings.Problem where
  | emptyValue (v : Settings.Variable)
  | notAllowed (v : Settings.Variable) (value : Text)
  | notANumber (v : Settings.Variable) (value : Text)
  | notAnAddress (v : Settings.Variable) (value : Text)
  /-- An address that cannot even be split. -/
  | brokenAddress (problem : AddressProblem)
  deriving DecidableEq, Repr

namespace Settings

/-- The least value of a number, as it is shown. -/
def Variable.least : Variable → Text
  | timeout => "0.1".toList
  | cacheMax => ['1']
  | _ => ['0']

def trueWords : List Text := ["1".toList, "true".toList, "yes".toList, "on".toList]

def falseWords : List Text := ["0".toList, "false".toList, "no".toList, "off".toList]

/-- The words that a variable may be set to, in order. -/
def Variable.allowed : Variable → List Text
  | logLevel => (Level.all.map Level.name).mergeSort Text.precedes
  | enabled => (trueWords ++ falseWords).mergeSort Text.precedes
  | _ => []

def Problem.message : Problem → Text
  | emptyValue v => "Invalid ".toList ++ v.name ++ ": value cannot be empty.".toList
  | notAllowed v value =>
    "Invalid ".toList ++ v.name ++ ": ".toList ++ value.quoted ++ ". Allowed values: ".toList ++
      Text.joinWith ", ".toList v.allowed ++ ['.']
  | notANumber v value =>
    "Invalid ".toList ++ v.name ++ ": ".toList ++ value.quoted ++
      ". Expected a number >= ".toList ++ v.least ++ ['.']
  | notAnAddress v value =>
    "Invalid ".toList ++ v.name ++ ": ".toList ++ value.quoted ++
      ". Expected an http(s) base URL.".toList
  | brokenAddress problem => problem.message

abbrev Environment := Register Text Text

/-- Reads a variable if it is set, without the blanks around its value. -/
def readTrimmed {α : Type} (env : Environment) (v : Variable) (fallback : α)
    (read : Text → Except Problem α) : Except Problem α :=
  match env.get? v.name with
  | none => .ok fallback
  | some raw => if raw.trim.isEmpty then .error (.emptyValue v) else read raw.trim

def readAddress (v : Variable) (value : Text) : Except Problem Text :=
  match Address.split value with
  | .error problem => .error (.brokenAddress problem)
  | .ok (scheme, host) =>
    if (scheme = "http".toList ∨ scheme = "https".toList) ∧ !host.isEmpty then
      .ok (trimSlashes value)
    else .error (.notAnAddress v value)

/-- A capital letter; the dotless i has the capital of the dotted one. -/
def capital (c : Char) : Char := if c = 'ı' then 'I' else c.toUpper

def readLevel (env : Environment) (fallback : Level) : Except Problem Level :=
  match env.get? Variable.logLevel.name with
  | none => .ok fallback
  | some raw =>
    let word := raw.trim.map capital
    match Level.all.find? (·.name = word) with
    | some level => .ok level
    | none => .error (.notAllowed .logLevel raw)

def leastTimeout : Binary64 := .ofRatio false 1 10

def readTimeout (value : Text) : Except Problem Binary64 :=
  match Written.number? value with
  | some x => if x.less leastTimeout then .error (.notANumber .timeout value) else .ok x
  | none => .error (.notANumber .timeout value)

def readCount (v : Variable) (least : Nat) (value : Text) : Except Problem Nat :=
  match Written.int? value with
  | some n => if n < least then .error (.notANumber v value) else .ok n.toNat
  | none => .error (.notANumber v value)

def readEnabled (env : Environment) : Except Problem Bool :=
  match env.get? Variable.enabled.name with
  | none => .ok true
  | some raw =>
    let word := raw.trim.map Char.toLower
    if word ∈ trueWords then .ok true
    else if word ∈ falseWords then .ok false
    else .error (.notAllowed .enabled raw)

/-- The patterns that come on top of the standard ones. -/
def morePatterns (env : Environment) : List Text :=
  match env.get? Variable.patterns.name with
  | none => []
  | some raw => ((raw.pieces ',').map Text.trim).filter fun t => !t.isEmpty

def read (env : Environment) : Except Problem Settings := do
  let standard : Settings := {}
  let trac ← readTrimmed env .trac standard.hosts.trac (readAddress .trac)
  let profiles ← readTrimmed env .profiles standard.hosts.profiles (readAddress .profiles)
  let logLevel ← readLevel env standard.logLevel
  let timeout ← readTrimmed env .timeout standard.timeout readTimeout
  let intervalMs ← readTrimmed env .interval standard.intervalMs (readCount .interval 0)
  let debounceMs ← readTrimmed env .debounce standard.debounceMs (readCount .debounce 0)
  let cacheMax ← readTrimmed env .cacheMax standard.cacheMax (readCount .cacheMax 1)
  let enabled ← readEnabled env
  let hosts : Hosts := ⟨trac, profiles⟩
  let patterns := standardPatterns ++ morePatterns env
  return { hosts, logLevel, timeout, intervalMs, debounceMs, cacheMax, enabled, patterns }

/-- Milliseconds in seconds; none if they are too many for a binary number. -/
def seconds? (ms : Nat) : Option Binary64 :=
  match Binary64.ofRatio false ms 1000 with
  | .infinity _ => none
  | x => some x

/-- What is said of milliseconds that are too many. -/
def overflowMessage : Text := "integer division result too large for a float".toList

end Settings

end CommitMessage
