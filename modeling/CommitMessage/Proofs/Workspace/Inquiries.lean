import CommitMessage.Proofs.Workspace.Runs

/-! Requests for annotations and the answers to them. The name that is made up for a request without
one is a name that no buffer has, and nothing but passes and callers has to do with answers. -/

namespace CommitMessage.Workspace

variable {w w' w'' : Workspace ℚ}

/-! Requests and answers -/

/-- A request for annotations: what was asked, who waits for the answer, and the pass that began
with it. -/
structure Inquiry where
  buffer : Option Text
  text : Text
  caller : Nat
  pass : Pass

def inquiry? (w : Workspace ℚ) : Move → Option Inquiry
  | .event (.annotate buffer text) => some
    { buffer, text, caller := w.nextCaller,
      pass := (w.runPass (buffer.getD w.freshBuffer) text).1 }
  | _ => none

/-- The requests of a run of moves, first things first. -/
def inquiries (w : Workspace ℚ) : List Move → List Inquiry
  | [] => []
  | m :: moves => (w.inquiry? m).toList ++ inquiries (w.move m) moves

theorem inquiries_append (w : Workspace ℚ) (moves more : List Move) :
    w.inquiries (moves ++ more) = w.inquiries moves ++ (w.runMoves moves).inquiries more := by
  induction moves generalizing w with
  | nil => rfl
  | cons m moves ih =>
    have hrest := ih (w.move m)
    simp only [List.cons_append, inquiries, hrest, List.append_assoc]
    rfl

theorem inquiries_concat (w : Workspace ℚ) (moves : List Move) (m : Move) :
    w.inquiries (moves ++ [m]) = w.inquiries moves ++ ((w.runMoves moves).inquiry? m).toList := by
  rw [inquiries_append]
  simp [inquiries]

/-- The last of some requests over a buffer. -/
def newest (asked : List Inquiry) (buffer : Text) : Option Inquiry :=
  (asked.filter (·.pass.buffer = buffer)).getLast?

theorem newest_concat (asked : List Inquiry) (i : Inquiry) (buffer : Text) :
    newest (asked ++ [i]) buffer =
      if i.pass.buffer = buffer then some i else newest asked buffer := by
  by_cases h : i.pass.buffer = buffer <;> simp [newest, h]

theorem mem_of_newest {asked : List Inquiry} {buffer : Text} {i : Inquiry}
    (h : newest asked buffer = some i) : i ∈ asked ∧ i.pass.buffer = buffer := by
  have hm := List.mem_of_getLast? h
  simpa using hm

/-- No request names a buffer whose name was made up for another. -/
def Apart (asked : List Inquiry) : Prop :=
  ∀ i ∈ asked, ∀ j ∈ asked, i.buffer = none → j.buffer ≠ some i.pass.buffer

theorem Apart.of_append {asked more : List Inquiry} (h : Apart (asked ++ more)) : Apart asked :=
  fun i hi j hj => h i (List.mem_append_left _ hi) j (List.mem_append_left _ hj)

structure Answer where
  caller : Nat
  pass : Pass
  annotations : List (Int × List Annotation)
  deriving DecidableEq

def Entry.answer? : Entry ℚ → Option Answer
  | .shown caller pass annotations => some { caller, pass, annotations }
  | _ => none

/-- What has been answered, the latest first. -/
def answers (w : Workspace ℚ) : List Answer := w.record.filterMap Entry.answer?

/-! Made-up names -/

theorem digits_injective : Function.Injective Decimal.digits := by
  intro m n h
  have hread := congrArg (Nat.ofDigitChars 10 · 0) h
  simpa [Decimal.digits, Nat.ofDigitChars_ten_toDigits] using hread

/-- There are more names to try than are taken. -/
theorem freshBuffer_notMem (w : Workspace ℚ) :
    w.freshBuffer ∉ w.texts.keys ++ w.board.sheets.keys := by
  let taken := w.texts.keys ++ w.board.sheets.keys
  let names := (List.range (taken.length + 1)).map fun n =>
    "api-".toList ++ Decimal.digits (w.nextCaller + n)
  have hnodup : names.Nodup := by
    refine List.nodup_range.map fun m n h => ?_
    have hsum := digits_injective (List.append_cancel_left h)
    omega
  have hfresh : w.freshBuffer = (names.find? fun name => !taken.contains name).getD [] := rfl
  rw [hfresh]
  cases hfind : names.find? fun name => !taken.contains name with
  | some name =>
    have hfree := List.find?_some hfind
    simpa [taken] using hfree
  | none =>
    have hsub : names ⊆ taken := by
      intro name hm
      have hall := List.find?_eq_none.mp hfind name hm
      simpa using hall
    have hle := (hnodup.subperm hsub).length_le
    simp only [names, List.length_map, List.length_range] at hle
    omega

/-! What is no matter of answers -/

/-- Nothing has changed that answers come from, except perhaps the board, and none has been
given. -/
structure Unanswered (w w' : Workspace ℚ) : Prop where
  latest : w'.latest = w.latest
  callers : w'.callers = w.callers
  nextCaller : w'.nextCaller = w.nextCaller
  debouncerOf : w'.debouncerOf = w.debouncerOf
  debouncers : w'.debouncers = w.debouncers
  calls : w'.calls = w.calls
  answers : w'.answers = w.answers

theorem Unanswered.refl (w : Workspace ℚ) : Unanswered w w := ⟨rfl, rfl, rfl, rfl, rfl, rfl, rfl⟩

theorem Unanswered.trans (h : Unanswered w w') (h' : Unanswered w' w'') : Unanswered w w'' :=
  ⟨h'.latest.trans h.latest, h'.callers.trans h.callers, h'.nextCaller.trans h.nextCaller,
    h'.debouncerOf.trans h.debouncerOf, h'.debouncers.trans h.debouncers, h'.calls.trans h.calls,
    h'.answers.trans h.answers⟩

theorem unanswered_applyDesk (w : Workspace ℚ)
    (change : Desk ℚ Asker × List (Desk.Signal ℚ Asker)) : Unanswered w (w.applyDesk change) := by
  have hone (w : Workspace ℚ) (s : Desk.Signal ℚ Asker) : Unanswered w (w.deskSignal s) := by
    cases s with
    | request r url =>
      simp only [deskSignal, Workspace.request]
      split <;> exact ⟨rfl, rfl, rfl, rfl, rfl, rfl, rfl⟩
    | _ => exact ⟨rfl, rfl, rfl, rfl, rfl, rfl, rfl⟩
  have hdesk : Unanswered w { w with desk := change.1 } := ⟨rfl, rfl, rfl, rfl, rfl, rfl, rfl⟩
  exact List.foldlRecOn (motive := Unanswered w) change.2 deskSignal hdesk
    fun w' h s _ => h.trans (hone w' s)

theorem unanswered_applyTurn (w : Workspace ℚ)
    (change : Desk ℚ Asker × List (Desk.Signal ℚ Asker)) : Unanswered w (w.applyTurn change) := by
  unfold applyTurn
  dsimp only
  split
  · exact (unanswered_applyDesk w change).trans (unanswered_applyDesk _ _)
  · exact unanswered_applyDesk w change

theorem unanswered_applyBoard (w : Workspace ℚ) (change : Board × List Board.Signal) :
    Unanswered w (w.applyBoard change) := by
  have hhand (w : Workspace ℚ) (pass : Option Text) (c : Board.Commit) :
      Unanswered w (w.handOver pass c) := by
    unfold handOver
    split
    · exact .refl w
    · dsimp only
      split <;> exact ⟨rfl, rfl, rfl, rfl, rfl, rfl, rfl⟩
  have hone (w : Workspace ℚ) (x : Board.Signal) : Unanswered w (w.boardSignal x) := by
    cases x with
    | commit pass c => exact hhand w pass c
    | _ => exact ⟨rfl, rfl, rfl, rfl, rfl, rfl, rfl⟩
  have hboard : Unanswered w { w with board := change.1 } := ⟨rfl, rfl, rfl, rfl, rfl, rfl, rfl⟩
  exact List.foldlRecOn (motive := Unanswered w) change.2 boardSignal hboard
    fun w' h x _ => h.trans (hone w' x)

theorem unanswered_callCallers (w : Workspace ℚ) : Unanswered w w.callCallers :=
  callCallers_rec (C := Unanswered w) (.refl w)
    fun _ _ h => h.trans ⟨rfl, rfl, rfl, rfl, rfl, rfl, rfl⟩

theorem unanswered_runPass (w : Workspace ℚ) (buffer text : Text) :
    Unanswered { w with latest := w.latest.set buffer (w.runPass buffer text).1 }
      (w.runPass buffer text).2 := by
  have htexts : Unanswered w { w with texts := w.texts.set buffer text } :=
    ⟨rfl, rfl, rfl, rfl, rfl, rfl, rfl⟩
  have hboard := htexts.trans (unanswered_applyBoard _ (w.board.startPass buffer
    ((Occurrence.ofLines text.messageLines).map Occurrence.mention)).2)
  obtain ⟨w', h, he⟩ := runPass_rec (C := Unanswered w) w buffer text hboard
    (fun _ _ h => h.trans ⟨rfl, rfl, rfl, rfl, rfl, rfl, rfl⟩)
    fun _ _ h => h.trans ⟨rfl, rfl, rfl, rfl, rfl, rfl, rfl⟩
  rw [he]
  exact ⟨congrArg (Register.set buffer (w.runPass buffer text).1) h.latest, h.callers, h.nextCaller,
    h.debouncerOf, h.debouncers, h.calls, h.answers⟩

end CommitMessage.Workspace
