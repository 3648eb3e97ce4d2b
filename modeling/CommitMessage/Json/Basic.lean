import CommitMessage.Number.Decimal

/-! JSON values. Whole numbers have no bounds and are kept apart from binary numbers; the
members of an object keep their order. -/

namespace CommitMessage

inductive Json where
  | null
  | bool (b : Bool)
  | int (n : Int)
  | number (x : Binary64)
  | string (t : Text)
  | array (items : List Json)
  | object (members : List (Text × Json))

/-- Gives a key a new value where it stands, or puts it at the end. -/
def insertMember {α : Type} (key : Text) (value : α) : List (Text × α) → List (Text × α)
  | [] => [(key, value)]
  | (k, v) :: rest =>
    if k = key then (key, value) :: rest else (k, v) :: insertMember key value rest

namespace Json

def get? (key : Text) : Json → Option Json
  | object members => (members.find? fun member => member.1 = key).map (·.2)
  | _ => none

mutual

/-- The same value with the members of every object in the order of their keys. -/
def sortMembers : Json → Json
  | array items => array (sortItems items)
  | object members => object ((sortValues members).mergeSort fun a b => Text.precedes a.1 b.1)
  | other => other

def sortItems : List Json → List Json
  | [] => []
  | item :: rest => item.sortMembers :: sortItems rest

def sortValues : List (Text × Json) → List (Text × Json)
  | [] => []
  | (key, value) :: rest => (key, value.sortMembers) :: sortValues rest

end

end Json

end CommitMessage
