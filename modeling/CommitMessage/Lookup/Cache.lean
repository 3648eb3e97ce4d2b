import CommitMessage.Lookup.Response
import CommitMessage.Notice
import CommitMessage.Register
import CommitMessage.Schedule.Agenda

/-! Answers kept for a while. An entry is fresh until the lifetime of its kind is over; entries
that are not fresh are never found, and are swept out when there are too many. -/

namespace CommitMessage

structure Cache.Entry (τ : Type) where
  verdict : Verdict
  /-- When the answer came. -/
  time : τ

structure Cache (τ : Type) where
  capacity : Int
  lifetime : Reference.Kind → τ
  entries : Register Reference (Cache.Entry τ) := []

namespace Cache

/-- How many seconds an answer lasts. -/
def standardLifetime : Reference.Kind → Nat
  | .ticket | .changeset => 300
  | .profile => 600

variable {τ : Type} [TimeLine τ] [DecidableLT τ]

def isFresh (c : Cache τ) (now : τ) (r : Reference) (e : Entry τ) : Bool :=
  now - e.time < c.lifetime r.kind

def get? (c : Cache τ) (now : τ) (r : Reference) : Option (Entry τ) :=
  (c.entries.get? r).filter (c.isFresh now r)

/-- Takes out the entries that are not fresh, and says how many they were. -/
def sweep (c : Cache τ) (now : τ) : Nat × Cache τ :=
  let kept := c.entries.filter fun entry => c.isFresh now entry.1 entry.2
  (c.entries.length - kept.length, { c with entries := kept })

/-- A sweep is reported if it took anything out. -/
def sweepNotices (swept : Nat × Cache τ) : List Notice :=
  if swept.1 = 0 then [] else [.cacheSwept swept.1 swept.2.entries.length]

/-- Keeps an entry, after a sweep if there are more entries than the capacity. -/
def put (c : Cache τ) (now : τ) (r : Reference) (e : Entry τ) : List Notice × Cache τ :=
  let (notices, c) :=
    if c.capacity < c.entries.length then
      let swept := c.sweep now
      (sweepNotices swept, swept.2)
    else ([], c)
  (notices, { c with entries := c.entries.set r e })

def clear (c : Cache τ) : Cache τ := { c with entries := [] }

end Cache

end CommitMessage
