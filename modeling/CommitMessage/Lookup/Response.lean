import CommitMessage.Lookup.Address
import CommitMessage.Page.Reading
import CommitMessage.Notice

/-! What comes back for a reference: a page with its status, or no page at all; what a page says
about the reference; and how a lookup can end for the one who asked. -/

namespace CommitMessage

structure Response where
  status : Int
  body : Text
  deriving DecidableEq, Repr

namespace Response

def isSuccess (r : Response) : Bool := 200 ≤ r.status && r.status < 300

/-- The status says nothing about the reference: the server failed or is busy. -/
def isTransient (r : Response) : Bool := 500 ≤ r.status || r.status == 429

end Response

/-- What a page says about a reference. -/
structure Verdict where
  found : Bool
  detail : Option Text
  deriving DecidableEq, Repr

namespace Reference

def readPage (kind : Kind) (body : Text) : Except Page.Problem Verdict :=
  match kind with
  | .ticket =>
    if Page.ticketExists body then (Page.ticketTitle body).map (⟨true, ·⟩) else .ok ⟨false, none⟩
  | .changeset =>
    if Page.changesetExists body then (Page.changesetMessage body).map (⟨true, ·⟩)
    else .ok ⟨false, none⟩
  | .profile => (Page.profileName body).map (⟨true, ·⟩)

/-- A page that is no success says that the reference does not exist. -/
def interpret (kind : Kind) (r : Response) : Except Page.Problem Verdict :=
  if r.isSuccess then readPage kind r.body else .ok ⟨false, none⟩

end Reference

/-- The answer to a lookup. It is unverified when nothing could be learned. -/
structure Resolution where
  reference : Reference
  found : Bool
  detail : Option Text := none
  verified : Bool := true
  deriving DecidableEq, Repr

namespace Resolution

def ofVerdict (r : Reference) (v : Verdict) : Resolution :=
  { reference := r, found := v.found, detail := v.detail }

def missing (r : Reference) : Resolution := { reference := r, found := false }

def unverified (r : Reference) : Resolution :=
  { reference := r, found := false, verified := false }

end Resolution

inductive FetchError where
  | timedOut (url : Text) (seconds : Binary64)
  | failed (url reason : Text)
  | closed (url : Text)
  deriving DecidableEq, Repr

def FetchError.message : FetchError → Text
  | timedOut url seconds =>
    "Fetch timed out after ".toList ++ Decimal.generalText seconds ++ "s: ".toList ++ url
  | failed url reason => "Fetch failed for ".toList ++ url ++ ": ".toList ++ reason
  | closed url => "Fetch transport is closed: ".toList ++ url

inductive Reply where
  | page (r : Response)
  | timedOut
  | failed (reason : Text)
  /-- Something went wrong that is no matter of the network. -/
  | crashed (text : Text)
  deriving DecidableEq, Repr

/-- A reply and how long it takes; none if it comes at once. -/
structure Delivery (τ : Type) where
  reply : Reply
  delay : Option τ := none

inductive Outcome where
  | resolved (r : Resolution)
  | failed (f : Failure)
  /-- The lookup was stopped before it had an answer. -/
  | stopped
  deriving DecidableEq, Repr

end CommitMessage
