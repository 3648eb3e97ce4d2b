import CommitMessage.Lookup.Response
import CommitMessage.Occurrence

/-! What is shown beside a line for each of its references. -/

namespace CommitMessage

inductive Annotation.Status where
  | valid
  | invalid
  | unknown
  deriving DecidableEq, Repr

def Annotation.Status.name : Status → Text
  | valid => "valid".toList
  | invalid => "invalid".toList
  | unknown => "unknown".toList

/-- A reference and the place that its annotation is for. Any place will do. -/
structure Mention where
  line : Int
  position : Int
  reference : Reference
  deriving DecidableEq, Repr

def Occurrence.mention (o : Occurrence) : Mention := ⟨o.line, o.columnStart, o.reference⟩

structure Annotation where
  position : Int
  text : Text
  status : Annotation.Status
  reference : Reference
  deriving DecidableEq, Repr

namespace Annotation

/-- No answer, or one that is unverified, leaves the status open. -/
def statusOf : Option Resolution → Status
  | none => .unknown
  | some r => if !r.verified then .unknown else if r.found then .valid else .invalid

/-- The words for a reference that was not found. -/
def negativeText (answer : Option Resolution) : Text :=
  match answer with
  | some r => if r.verified then "not found".toList else "could not be verified".toList
  | none => "could not be verified".toList

/-- The detail of an answer, if it shows anything. -/
def detailOf? (r : Resolution) : Option Text := r.detail.filter fun t => !t.isEmpty

def handle (r : Reference) : Text := '@' :: r.identifier

/-- How a reference is called. -/
def subject (r : Reference) : Text :=
  match r.kind with
  | .ticket => "Ticket #".toList ++ r.identifier
  | .changeset => "Changeset [".toList ++ r.identifier ++ [']']
  | .profile => handle r

def positiveText (r : Reference) (detail : Option Text) : Text :=
  match r.kind, detail with
  | .profile, some name => name ++ " (".toList ++ handle r ++ [')']
  | .profile, none => handle r
  | _, some detail => detail
  | _, none => subject r ++ " exists".toList

def textFor (r : Reference) (answer : Option Resolution) : Text :=
  match answer with
  | some a =>
    if a.found then positiveText r (detailOf? a) else subject r ++ ' ' :: negativeText answer
  | none => subject r ++ ' ' :: negativeText answer

def ofAnswer (m : Mention) (answer : Option Resolution) : Annotation :=
  { position := m.position, text := textFor m.reference answer, status := statusOf answer,
    reference := m.reference }

end Annotation

end CommitMessage
