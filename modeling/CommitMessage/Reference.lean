import CommitMessage.Text.Blank

/-! What a message can refer to: a ticket, a changeset, or the profile of a contributor. -/

namespace CommitMessage

inductive Reference.Kind where
  | ticket
  | changeset
  | profile
  deriving DecidableEq, Repr

namespace Reference.Kind

def name : Kind → Text
  | ticket => "ticket".toList
  | changeset => "changeset".toList
  | profile => "profile".toList

def all : List Kind := [ticket, changeset, profile]

def ofName? (t : Text) : Option Kind := all.find? fun kind => kind.name = t

end Reference.Kind

/-- Two references are the same when kind and identifier are. -/
structure Reference where
  kind : Reference.Kind
  identifier : Text
  deriving DecidableEq, Repr

namespace Reference

/-- The written form, as in `ticket:12345`. -/
def label (r : Reference) : Text := r.kind.name ++ ':' :: r.identifier

end Reference

end CommitMessage
