/-! Entries under keys, in the order in which the keys came. -/

namespace CommitMessage

abbrev Register (κ α : Type) := List (κ × α)

namespace Register

variable {κ α : Type} [DecidableEq κ]

def get? (r : Register κ α) (key : κ) : Option α :=
  (r.find? fun entry => entry.1 = key).map (·.2)

def has (r : Register κ α) (key : κ) : Bool := r.any fun entry => entry.1 = key

/-- A key that is there keeps its place, a new one goes to the end. -/
def set (key : κ) (value : α) : Register κ α → Register κ α
  | [] => [(key, value)]
  | entry :: rest => if entry.1 = key then (key, value) :: rest else entry :: set key value rest

def erase (r : Register κ α) (key : κ) : Register κ α := r.filter fun entry => entry.1 ≠ key

def keys (r : Register κ α) : List κ := r.map (·.1)

def values (r : Register κ α) : List α := r.map (·.2)

end Register

end CommitMessage
