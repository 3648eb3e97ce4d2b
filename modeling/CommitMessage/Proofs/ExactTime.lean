import CommitMessage.Schedule.Agenda
import Mathlib

/-! Exact time: rational numbers of seconds. -/

namespace CommitMessage

instance : TimeLine ℚ where

end CommitMessage
