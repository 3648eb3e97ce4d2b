import CommitMessage.Json.Reader
import CommitMessage.Text.Lines

/-! The body of a request: a JSON object with a message, and with the name of a buffer if one is
to be used. All faults of an object are found, in the order of its fields. -/

namespace CommitMessage.Api

inductive Field where
  | message
  | buffer
  deriving DecidableEq, Repr

def Field.name : Field → Text
  | message => "message".toList
  | buffer => "buffer_id".toList

/-- What is wrong with a body. -/
inductive Fault where
  | noBody
  | missing (f : Field)
  | notText (f : Field)
  | tooShort (f : Field)
  | notAnObject
  /-- No JSON; where reading it failed. -/
  | notJson (place : Nat)
  deriving DecidableEq, Repr

namespace Fault

def kind : Fault → Text
  | noBody | missing _ => "missing".toList
  | notText _ => "string_type".toList
  | tooShort _ => "string_too_short".toList
  | notAnObject => "model_attributes_type".toList
  | notJson _ => "json_invalid".toList

/-- The part of the request that the fault is in. -/
def place : Fault → List Json
  | noBody | notAnObject => [.string "body".toList]
  | missing f | notText f | tooShort f => [.string "body".toList, .string f.name]
  | notJson n => [.string "body".toList, .int n]

end Fault

inductive Refusal where
  | faults (fs : List Fault)
  /-- Reading did not even come to a fault. -/
  | unreadable
  deriving DecidableEq, Repr

structure Payload where
  message : Text
  buffer : Option Text
  deriving DecidableEq, Repr

namespace Payload

def readMessage : Option Json → Except Fault Text
  | none => .error (.missing .message)
  | some (.string t) => .ok t
  | some _ => .error (.notText .message)

/-- The name of a buffer may be left out, but it may not be empty. -/
def readBuffer : Option Json → Except Fault (Option Text)
  | none | some .null => .ok none
  | some (.string t) => if t.isEmpty then .error (.tooShort .buffer) else .ok (some t)
  | some _ => .error (.notText .buffer)

def ofJson (j : Json) : Except (List Fault) Payload :=
  match j with
  | .object _ =>
    match readMessage (j.get? Field.message.name), readBuffer (j.get? Field.buffer.name) with
    | .ok message, .ok buffer => .ok ⟨message, buffer⟩
    | .error f, .ok _ => .error [f]
    | .ok _, .error g => .error [g]
    | .error f, .error g => .error [f, g]
  | _ => .error [.notAnObject]

/-- Whether a body of the given type is JSON. A body of no type is taken for it. -/
def isJsonType (mediaType : Text) : Bool :=
  let name : Text := mediaType.takeWhile (· != ';')
  match Text.pieces '/' (name.trim.map Char.toLower) with
  | [main, sub] => main = "application".toList &&
      (sub = "json".toList || "+json".toList.isSuffixOf sub)
  | _ => mediaType.isEmpty

/-- A mark of the byte order in front does not count. -/
def dropOrderMark (t : Text) : Text := if t.head? = some '\uFEFF' then t.drop 1 else t

/-- Reads a body. One of another type than JSON is no object. -/
def read (mediaType body : Text) : Except Refusal Payload :=
  if body.isEmpty then .error (.faults [.noBody])
  else if isJsonType mediaType then
    match Json.read (dropOrderMark body) with
    | .error (.malformed place) => .error (.faults [.notJson place])
    | .error .tooManyDigits => .error .unreadable
    | .ok j => (ofJson j).mapError .faults
  else .error (.faults [.notAnObject])

end Payload

end CommitMessage.Api
