import CommitMessage.Calendar
import CommitMessage.Json.Printer
import CommitMessage.Log.Template
import CommitMessage.Notice

/-! Log records and the lines they are written as: a JSON object with the fields that every record
has, and after them the extra fields that were given with it. -/

namespace CommitMessage.Log

structure Record where
  /-- Seconds since the start of 1970. -/
  created : Json := .int 0
  level : Json
  template : Json
  arguments : Arguments := .several []
  logger : Json
  pass : Option Text := none
  /-- A report on a failure. -/
  exception : Option Text := none
  stack : Json := .null
  extras : List (Text × Json) := []

namespace Record

inductive Problem where
  | badTime (p : Moment.Problem)
  | notATime (sort : Text)
  | badMessage (p : Template.Problem)
  deriving DecidableEq, Repr

def Problem.message : Problem → Text
  | badTime p => p.message
  | notATime sort =>
    '\'' :: sort ++ "' object cannot be interpreted as an integer".toList
  | badMessage p => p.message

/-- The names of a record's own attributes; a field of such a name is not written. -/
def ownNames : List Text :=
  ["name", "msg", "args", "levelname", "levelno", "pathname", "filename", "module", "exc_info",
    "exc_text", "stack_info", "lineno", "funcName", "created", "msecs", "relativeCreated",
    "thread", "threadName", "processName", "process", "taskName"].map String.toList

/-- Sets a field. One that has the name of an attribute which shows in the line replaces it. -/
def withExtra (r : Record) (name : Text) (value : Json) : Record :=
  match String.ofList name with
  | "name" => { r with logger := value }
  | "levelname" => { r with level := value }
  | "msg" => { r with template := value }
  | "args" => { r with arguments := .one value }
  | "created" => { r with created := value }
  | "stack_info" => { r with stack := value }
  | _ => { r with extras := insertMember name value r.extras }

def withExtras (r : Record) (extras : List (Text × Json)) : Record :=
  extras.foldl (fun r (name, value) => r.withExtra name value) r

def time (r : Record) : Except Problem Text :=
  let moment := match r.created with
    | .int n => (Moment.ofWhole n).mapError Problem.badTime
    | .bool b => (Moment.ofWhole (if b then 1 else 0)).mapError Problem.badTime
    | .number x => (Moment.ofSeconds x).mapError Problem.badTime
    | v => .error (.notATime v.sort)
  moment.bind fun m => m.text.mapError .badTime

/-- Without arguments a message is written as it is, percent signs included. -/
def message (r : Record) : Except Template.Problem Text :=
  if r.arguments.isEmpty then .ok r.template.shown
  else Template.fill r.template.shown r.arguments

def optionalText : Option Text → Json
  | some t => .string t
  | none => .null

/-- The fields of every record; those about a failure and about the stack only where there is
something to tell. -/
def core (r : Record) (message : Text) : List (Text × Json) :=
  [("level".toList, r.level), ("message".toList, .string message), ("logger".toList, r.logger),
    ("pass_id".toList, optionalText r.pass)] ++
  (match r.exception with
   | some report => [("exception".toList, .string report)]
   | none => []) ++
  (if r.stack.isVoid then [] else [("stack_trace".toList, r.stack)])

/-- Adds the extra fields. One that has the name of a field of every record gets another name. -/
def addExtras (r : Record) (fields : List (Text × Json)) : List (Text × Json) :=
  let reserved := "timestamp".toList :: fields.map (·.1)
  let shown := r.extras.filter fun (name, _) => name ∉ ownNames && name.head? ≠ some '_'
  shown.foldl (fun all (name, value) =>
    insertMember (if name ∈ reserved then "extra_".toList ++ name else name) value all) fields

/-- The fields of the line, with a time if one is to be shown. -/
def fields (r : Record) (time : Option Text) (message : Text) : List (Text × Json) :=
  r.addExtras ((match time with
    | some t => [("timestamp".toList, .string t)]
    | none => []) ++ r.core message)

/-- The record as an object without its time. -/
def untimed (r : Record) : Except Template.Problem Json := do
  return .object (r.fields none (← r.message))

def line (r : Record) : Except Problem Text := do
  let time ← r.time
  let message ← r.message.mapError .badMessage
  return (Json.object (r.fields (some time) message)).render

end Record

/-! Which records are written -/

def thresholds : List (Text × Int) :=
  Level.all.map (fun level => (level.name, level.rank)) ++
    [("FATAL".toList, 50), ("WARN".toList, 30), ("NOTSET".toList, 0)]

def threshold? (name : Text) : Option Int := (thresholds.find? (·.1 = name)).map (·.2)

/-- The name of a level, or its number where it has none. -/
def levelName (rank : Int) : Text :=
  match Level.all.find? (·.rank = rank) with
  | some level => level.name
  | none => "Level ".toList ++ Decimal.ofInt rank

def admits (threshold rank : Int) : Bool := 0 < rank && threshold ≤ rank

/-- The first field whose name is taken. -/
def takenName? (extras : List (Text × Json)) : Option Text :=
  let taken := "message".toList :: "asctime".toList ::
    Record.ownNames.filter (· ≠ "taskName".toList)
  (extras.map (·.1)).find? fun name => name ∈ taken

/-- What is said of a field whose name is taken, in quotes. -/
def takenMessage (name : Text) : Text :=
  let sentence : Text := "Attempt to overwrite ".toList ++ name.quoted ++ " in LogRecord".toList
  sentence.quoted

end CommitMessage.Log
