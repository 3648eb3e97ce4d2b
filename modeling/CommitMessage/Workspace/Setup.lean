import CommitMessage.Settings.Basic
import CommitMessage.Workspace.Session

/-! The workspace that settings ask for. -/

namespace CommitMessage.Workspace

variable {τ : Type}

/-- A plan after settings, with no one to present to. There is none if an interval has more
milliseconds than a binary number can say in seconds. -/
def Plan.ofSettings (time : Binary64 → τ) (network : Text → Delivery τ) (s : Settings) :
    Option (Plan τ) := do
  let interval ← Settings.seconds? s.intervalMs
  let pause ← Settings.seconds? s.debounceMs
  return { hosts := s.hosts
           timeout := s.timeout
           interval := time interval
           pause := time pause
           capacity := s.cacheMax
           enabled := s.enabled
           patterns := s.patterns
           presenter := .absent
           network }

/-- The answer to a text: a pass, and what the board shows when all has been looked up. -/
structure Annotated where
  pass : Pass
  annotations : List (Int × List Annotation)

variable [TimeLine τ] [DecidableLT τ]

/-- A pass, all of its lookups, and its annotations. -/
def annotateNow (w : Workspace τ) (buffer text : Text) : Annotated × Workspace τ :=
  let (pass, w) := w.runPass buffer text
  let w := (w.start (w.settlePlan buffer)).settle
  (⟨pass, w.board.annotations buffer⟩, w)

/-- What was shown last. -/
def lastShown? (w : Workspace τ) : Option Annotated :=
  w.record.findSome? fun
    | .shown _ pass annotations => some ⟨pass, annotations⟩
    | _ => none

end CommitMessage.Workspace
