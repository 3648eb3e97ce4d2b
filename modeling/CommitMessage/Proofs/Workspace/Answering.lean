import CommitMessage.Proofs.Board.Shown
import CommitMessage.Proofs.Workspace.Cached
import CommitMessage.Proofs.Workspace.Chores
import CommitMessage.Proofs.Workspace.Inquiries

/-! Any number of requests for annotations at a time. Each is answered with its own pass, and with
the annotations for the text of the newest request over its buffer. That is its own text unless
another request over the buffer has begun meanwhile. -/

namespace CommitMessage.Workspace

open Desk (Happening)

variable {p : Plan ℚ} {history : List (Happening Asker)} {w w' : Workspace ℚ}
  {asked : List Inquiry} {i : Inquiry} {a : Answer}

/-- A move that asks for nothing but annotations. The network may change its mind. -/
def Move.IsServing : Move → Prop
  | .event .work | .event (.annotate _ _) | .event (.respond _ _) | .ring | .wait _ => True
  | _ => False

theorem Move.IsServing.isFine {m : Move} (h : m.IsServing) : m.IsFine := by
  cases m with
  | event e =>
    cases e with
    | dispose => exact h.elim
    | advance dt => exact h.elim
    | _ => trivial
  | _ => trivial

/-! What is kept until the answer -/

/-- The pass is one over the text, and over the buffer that was named. -/
structure Inquiry.IsSound (i : Inquiry) : Prop where
  findings : i.pass.findings = Lint.validate i.text.messageLines
  occurrences : i.pass.occurrences = Occurrence.ofLines i.text.messageLines
  buffer : ∀ name, i.buffer = some name → i.pass.buffer = name

/-- What is left of a buffer is forgotten if its name was made up. -/
def Inquiry.leaving (i : Inquiry) : List Phase :=
  if i.buffer.isNone then [.forget i.pass.buffer, .drop i.pass.buffer] else []

/-- What remains to be done for a request whose buffer has the sheet of this number. -/
def Inquiry.plan (i : Inquiry) (serial : Nat) : List Phase :=
  .sheetIdle serial :: .present i.pass :: i.leaving

/-- The passes by which the board goes. -/
def passOf (w : Workspace ℚ) (buffer : Text) : Option (Nat × List Mention) :=
  (w.latest.get? buffer).map fun pass => (pass.generation, pass.occurrences.map (·.mention))

/-- A request that has not been answered has its buffer, and has it for itself if it made up the
name. -/
def Awaits (asked : List Inquiry) (w : Workspace ℚ) (i : Inquiry) (plan : List Phase) : Prop :=
  i ∈ asked ∧ (i.buffer = none → newest asked i.pass.buffer = some i) ∧
    ∃ s, w.board.sheets.get? i.pass.buffer = some s ∧ plan = i.plan s.serial

structure Serving (asked : List Inquiry) (w : Workspace ℚ) : Prop where
  tracks : w.board.Tracks w.passOf fun _ _ => True
  filed : w.board.Filed
  latest : ∀ buffer pass, w.latest.get? buffer = some pass →
    ∃ i, newest asked buffer = some i ∧ i.pass = pass
  waiting : ∀ entry ∈ w.callers, ∃ i, i.caller = entry.1 ∧ Awaits asked w i entry.2
  sound : ∀ i ∈ asked, i.IsSound
  order : asked.Pairwise (·.caller < ·.caller)
  caller_lt : ∀ i ∈ asked, i.caller < w.nextCaller
  still : w.debouncerOf = [] ∧ w.debouncers = [] ∧ w.calls = []

/-- An answer has the pass of its own request, and the annotations for the newest one over the
buffer. -/
def Answer.Fits (asked : List Inquiry) (a : Answer) : Prop :=
  ∃ i ∈ asked, i.caller = a.caller ∧ i.pass = a.pass ∧
    ∃ j, newest asked a.pass.buffer = some j ∧ Board.mentionsOf a.annotations = mentionsIn j.text ∧
      (i.buffer = none → j = i)

/-- Answers that fit have been given. -/
def Replies (asked : List Inquiry) (w w' : Workspace ℚ) : Prop :=
  ∃ given, w'.answers = given ++ w.answers ∧ ∀ a ∈ given, a.Fits asked

theorem Unanswered.replies (h : Unanswered w w') : Replies asked w w' :=
  ⟨[], h.answers, nofun⟩

theorem Unanswered.passOf_eq (h : Unanswered w w') : w'.passOf = w.passOf := by
  unfold passOf
  rw [h.latest]

theorem Serving.goOn (h : Serving asked w) (hu : Unanswered w w')
    (ht : w'.board.Tracks w.passOf fun _ _ => True) (hf : w'.board.Filed)
    (hk : Board.KeepsSheets w.board w'.board) : Serving asked w' := by
  refine ⟨hu.passOf_eq ▸ ht, hf, fun buffer pass hp => h.latest buffer pass (hu.latest ▸ hp),
    fun entry hm => ?_, h.sound, h.order, hu.nextCaller ▸ h.caller_lt, ?_⟩
  · obtain ⟨i, hc, hi, hn, s, hs, hplan⟩ := h.waiting entry (hu.callers ▸ hm)
    obtain ⟨s', hs', hserial⟩ := hk _ _ hs
    exact ⟨i, hc, hi, hn, s', hs', hserial ▸ hplan⟩
  · rw [hu.debouncerOf, hu.debouncers, hu.calls]
    exact h.still

theorem Serving.aside (h : Serving asked w) (hu : Unanswered w w') (hb : w'.board = w.board) :
    Serving asked w' :=
  h.goOn hu (hb ▸ h.tracks) (hb ▸ h.filed) (.of_eq (congrArg (·.sheets) hb))

/-! Jobs -/

theorem Serving.groupTurn (h : Serving asked w) (id : Nat) :
    Serving asked (w.applyBoard (w.board.groupTurn id)) := by
  have hboard := (adds_applyBoard _ (Board.isQuiet_groupTurn w.board id) w).board
  exact h.goOn (unanswered_applyBoard _ _) (hboard ▸ h.tracks.groupTurn id)
    (hboard ▸ h.filed.groupTurn h.tracks.steady id)
    (hboard ▸ Board.keepsSheets_groupTurn h.tracks.steady id)

theorem Serving.answerSlot (h : Serving asked w) (id slot : Nat) {outcome : Outcome}
    (ho : outcome ≠ .stopped) :
    Serving asked (w.applyBoard (w.board.answer id slot outcome)) := by
  have hboard := (adds_applyBoard _ (Board.isQuiet_answer w.board id slot outcome) w).board
  exact h.goOn (unanswered_applyBoard _ _)
    (hboard ▸ h.tracks.answer id slot ho fun _ _ _ _ => trivial)
    (hboard ▸ h.filed.answer h.tracks.steady id slot ho)
    (hboard ▸ Board.keepsSheets_answer h.tracks.steady id slot ho)

theorem Serving.slotTurn (h : Serving asked w) (id slot : Nat)
    (ha : ∀ pass r outcome, (w.ask (.slot id slot) pass r).1 = some outcome →
      outcome ≠ .stopped) :
    Serving asked (w.slotTurn id slot) ∧ Unanswered w (w.slotTurn id slot) := by
  let turned : Workspace ℚ := { w with board := (w.board.slotTurn id slot).1 }
  have hu : Unanswered w turned := ⟨rfl, rfl, rfl, rfl, rfl, rfl, rfl⟩
  have hturned : Serving asked turned :=
    h.goOn hu (h.tracks.slotTurn id slot) (h.filed.slotTurn h.tracks.steady id slot)
      (Board.keepsSheets_slotTurn h.tracks.steady id slot)
  rcases Board.slotTurn_signals w.board id slot with he | ⟨pass, r, he⟩
  · have hturn : w.slotTurn id slot = turned := by simp [Workspace.slotTurn, he, turned]
    rw [hturn]
    exact ⟨hturned, hu⟩
  · have hask : Unanswered turned (turned.ask (.slot id slot) (some pass) r).2 :=
      unanswered_applyDesk _ _
    have hasked := hturned.aside hask (trails_applyDesk _ _).board
    simp only [Workspace.slotTurn, he]
    split
    · rename_i outcome ho
      exact ⟨hasked.answerSlot id slot (ha _ _ _ ho), (hu.trans hask).trans
        (unanswered_applyBoard _ _)⟩
    · exact ⟨hasked, hu.trans hask⟩

/-- In no job but the turn of a caller is anything answered. -/
theorem Serving.perform (h : Serving asked w) {job : Job} (hc : ∀ id, job ≠ .caller id)
    (ha : ∀ asker pass r outcome, (w.ask asker pass r).1 = some outcome → outcome ≠ .stopped)
    (ho : ∀ asker outcome, job = .answer asker outcome → outcome ≠ .stopped) :
    Serving asked (w.perform job) ∧ Unanswered w (w.perform job) := by
  obtain ⟨-, hdebouncers, hcalls⟩ := h.still
  have hdesk (change : Desk ℚ Asker × List (Desk.Signal ℚ Asker)) :
      Serving asked (w.applyDesk change) ∧ Unanswered w (w.applyDesk change) :=
    ⟨h.aside (unanswered_applyDesk w change) (trails_applyDesk w change).board,
      unanswered_applyDesk w change⟩
  have hturn (change : Desk ℚ Asker × List (Desk.Signal ℚ Asker)) :
      Serving asked (w.applyTurn change) ∧ Unanswered w (w.applyTurn change) :=
    ⟨h.aside (unanswered_applyTurn w change) (trails_applyTurn w change).board,
      unanswered_applyTurn w change⟩
  have hsame {w' : Workspace ℚ} (he : w' = w) : Serving asked w' ∧ Unanswered w w' :=
    he.symm ▸ ⟨h, .refl w⟩
  cases job with
  | timer debouncer timer => exact hsame (by simp [Workspace.perform, withDebouncer, hdebouncers])
  | group id => exact ⟨h.groupTurn id, unanswered_applyBoard _ _⟩
  | slot id slot => exact h.slotTurn id slot (ha _)
  | fetch r => exact hturn _
  | limiter r => exact hturn _
  | reply r reply => exact hdesk _
  | forget r => exact hdesk _
  | answer asker outcome =>
    cases asker with
    | slot id slot =>
      exact ⟨h.answerSlot id slot (ho _ _ rfl), unanswered_applyBoard _ _⟩
    | call id => exact hsame (by simp [Workspace.perform, deliver, callAnswer, hcalls])
    | member id place => exact hsame (by simp [Workspace.perform, deliver, memberAnswer, hcalls])
  | call id => exact hsame (by simp [Workspace.perform, callTurn, hcalls])
  | member id place => exact hsame (by simp [Workspace.perform, memberTurn, hcalls])
  | caller id => exact absurd rfl (hc id)

/-! Answers -/

/-- When its groups have ended, a buffer shows what its newest request is for. -/
theorem Serving.fits (h : Serving asked w) {s : Board.Sheet} (hi : i ∈ asked)
    (hn : i.buffer = none → newest asked i.pass.buffer = some i)
    (hs : w.board.sheets.get? i.pass.buffer = some s)
    (hg : ∀ g ∈ w.board.groups, g.buffer ≠ i.pass.buffer) :
    Answer.Fits asked ⟨i.caller, i.pass, w.board.annotations i.pass.buffer⟩ := by
  obtain ⟨mentions, hp, -⟩ := h.tracks.sheet _ s hs
  obtain ⟨pass, hlatest, hpass⟩ := Option.map_eq_some_iff.mp hp
  obtain ⟨j, hj, rfl⟩ := h.latest _ _ hlatest
  have hmentions : mentions = mentionsIn j.text := by
    rw [mentionsIn, ← (h.sound j (mem_of_newest hj).1).occurrences]
    exact (Prod.mk.inj hpass).2.symm
  have hshown := h.tracks.mentionsOf_annotations hg hp (hmentions ▸ mentions_inOrder j.text)
  exact ⟨i, hi, rfl, rfl, j, hj, hshown.trans hmentions,
    fun hb => Option.some.inj (hj.symm.trans (hn hb))⟩

/-- A request with a made-up name has its buffer for itself. -/
theorem Serving.buffer_ne (h : Serving asked w) (ha : Apart asked) {j : Inquiry} (hi : i ∈ asked)
    (hb : i.buffer = none) (hn : newest asked i.pass.buffer = some i) (hj : j ∈ asked)
    (hnj : j.buffer = none → newest asked j.pass.buffer = some j) (hne : j.caller ≠ i.caller) :
    j.pass.buffer ≠ i.pass.buffer := by
  intro he
  cases hbj : j.buffer with
  | some name => exact ha i hi j hj hb (by rw [hbj, ← (h.sound j hj).buffer name hbj, he])
  | none =>
    have hsame := hnj hbj
    rw [he, hn] at hsame
    obtain rfl := Option.some.inj hsame
    exact hne rfl

/-- What is left of a buffer with a made-up name is forgotten. -/
theorem Serving.forget (h : Serving asked w) (ha : Apart asked) (hi : i ∈ asked)
    (hb : i.buffer = none) (hn : newest asked i.pass.buffer = some i)
    (hg : ∀ g ∈ w.board.groups, g.buffer ≠ i.pass.buffer) :
    Serving asked { w with
      texts := w.texts.erase i.pass.buffer
      latest := w.latest.erase i.pass.buffer
      board := w.board.drop i.pass.buffer
      callers := w.callers.erase i.caller } := by
  have hpasses : (fun x => if x = i.pass.buffer then none else w.passOf x) =
      passOf { w with latest := w.latest.erase i.pass.buffer } := by
    funext x
    simp only [passOf, Register.get?_erase]
    split <;> rfl
  refine ⟨?_, h.filed.drop hg, fun buffer pass hp => ?_, fun entry hm => ?_, h.sound, h.order,
    h.caller_lt, h.still⟩
  · have htracks := h.tracks.drop hg
    rw [hpasses] at htracks
    exact htracks
  · rw [Register.get?_erase] at hp
    by_cases he : buffer = i.pass.buffer
    · simp [he] at hp
    · rw [if_neg he] at hp
      exact h.latest buffer pass hp
  · obtain ⟨hm, hne⟩ := List.mem_filter.mp hm
    obtain ⟨j, hc, hj, hnj, s', hs', hplan⟩ := h.waiting entry hm
    have hbuffer := h.buffer_ne ha hi hb hn hj hnj (by simpa [hc] using hne)
    refine ⟨j, hc, hj, hnj, s', ?_, hplan⟩
    rw [Board.drop, Register.get?_erase, if_neg hbuffer]
    exact hs'

/-- The caller of a request waits on while there are groups for its buffer, and else is
answered. -/
theorem Serving.proceed (h : Serving asked w) (ha : Apart asked) {plan : List Phase}
    (hw : Awaits asked w i plan) (n : Nat) :
    Serving asked (Workspace.proceed i.caller (n + 6) plan w) ∧
      Replies asked w (Workspace.proceed i.caller (n + 6) plan w) := by
  obtain ⟨hi, hn, s, hs, rfl⟩ := hw
  -- `n + 6` covers every plan that a request can have, so the caller is never cut short
  by_cases hidle : w.board.groupsOf s.serial = []
  · have hg := h.filed.buffer_ne hs hidle
    have hfits := h.fits hi hn hs hg
    cases hb : i.buffer with
    | some name =>
      have hend : Workspace.proceed i.caller (n + 6) (i.plan s.serial) w =
          Workspace.note { w with
            callers := w.callers.erase i.caller
            record := .shown i.caller i.pass (w.board.annotations i.pass.buffer) :: w.record }
            (.returned i.caller) := by
        simp [Workspace.proceed, Inquiry.plan, Inquiry.leaving, hb, isOver, hidle, enter,
          Workspace.note]
      rw [hend]
      refine ⟨⟨h.tracks, h.filed, h.latest, fun entry hm => ?_, h.sound, h.order, h.caller_lt,
        h.still⟩, [⟨i.caller, i.pass, w.board.annotations i.pass.buffer⟩], rfl,
        by simpa using hfits⟩
      exact h.waiting entry (List.mem_of_mem_filter hm)
    | none =>
      have hgone : (w.board.drop i.pass.buffer).groupsOf s.serial = [] := hidle
      have hend : Workspace.proceed i.caller (n + 6) (i.plan s.serial) w =
          Workspace.note { w with
            texts := w.texts.erase i.pass.buffer
            latest := w.latest.erase i.pass.buffer
            board := w.board.drop i.pass.buffer
            callers := w.callers.erase i.caller
            record := .shown i.caller i.pass (w.board.annotations i.pass.buffer) :: w.record }
            (.returned i.caller) := by
        simp [Workspace.proceed, Inquiry.plan, Inquiry.leaving, hb, isOver, hidle, enter, hs,
          Workspace.note, hgone, Board.callOffSheet_idle hgone, applyBoard]
      have hleft := h.forget ha hi hb (hn hb) hg
      rw [hend]
      exact ⟨⟨hleft.tracks, hleft.filed, hleft.latest, hleft.waiting, hleft.sound, hleft.order,
        hleft.caller_lt, hleft.still⟩, [⟨i.caller, i.pass, w.board.annotations i.pass.buffer⟩], rfl,
        by simpa using hfits⟩
  · have hwait : Workspace.proceed i.caller (n + 6) (i.plan s.serial) w =
        { w with callers := w.callers.set i.caller (i.plan s.serial) } := by
      simp [Workspace.proceed, Inquiry.plan, isOver, hidle]
    rw [hwait]
    refine ⟨⟨h.tracks, h.filed, h.latest, fun entry hm => ?_, h.sound, h.order, h.caller_lt,
      h.still⟩, [], rfl, by simp⟩
    rcases Register.mem_set hm with rfl | hm
    · exact ⟨i, rfl, hi, hn, s, hs, rfl⟩
    · exact h.waiting entry hm

/-! Requests -/

/-- The buffer of one who waits has a sheet, so its name is not made up again. -/
theorem getD_freshBuffer_ne {buffer : Option Text} {other : Text} {s : Board.Sheet}
    (hb : buffer ≠ some other) (hs : w.board.sheets.get? other = some s) :
    buffer.getD w.freshBuffer ≠ other := by
  cases buffer with
  | some given => exact fun he => hb (congrArg some he)
  | none =>
    rintro rfl
    have hkey : w.freshBuffer ∈ w.board.sheets.keys :=
      List.mem_map_of_mem (f := Prod.fst) (Register.mem_of_get? hs)
    exact w.freshBuffer_notMem (List.mem_append_right _ hkey)

theorem Serving.begin (h : Serving asked w) (buffer : Option Text) (text : Text)
    (ha : ∀ i ∈ asked, i.buffer = none → buffer ≠ some i.pass.buffer) :
    let name := buffer.getD w.freshBuffer
    let i : Inquiry := { buffer, text, caller := w.nextCaller, pass := (w.runPass name text).1 }
    Serving (asked ++ [i]) { (w.runPass name text).2 with nextCaller := w.nextCaller + 1 } := by
  intro name i
  have hu := unanswered_runPass w name text
  have hboard : (w.runPass name text).2.board = (w.board.startPass name (mentionsIn text)).2.1 :=
    (adds_runPass w name text).board
  have hpasses : (fun x => if x = name then
        some ((w.board.startPass name (mentionsIn text)).1, mentionsIn text) else w.passOf x) =
      (w.runPass name text).2.passOf := by
    funext x
    simp only [passOf, hu.latest, Register.get?_set]
    split <;> rfl
  have hkeeps : Board.KeepsSheets w.board (w.runPass name text).2.board :=
    hboard ▸ Board.keepsSheets_startPass w.board name (mentionsIn text)
  refine ⟨?_, ?_, fun other pass hp => ?_, fun entry hm => ?_, fun j hj => ?_, ?_, fun j hj => ?_,
    ?_⟩
  · have htracks := h.tracks.startPass name (mentionsIn text)
    rw [hpasses, ← hboard] at htracks
    exact htracks
  · exact hboard ▸ h.filed.startPass name (mentionsIn text)
  · have hlatest : (w.latest.set name i.pass).get? other = some pass :=
      (congrArg (fun r : Register Text Pass => r.get? other) hu.latest).symm.trans hp
    have hname : i.pass.buffer = name := rfl
    rw [newest_concat, hname]
    rw [Register.get?_set] at hlatest
    by_cases he : other = name
    · rw [if_pos he] at hlatest
      exact ⟨i, if_pos he.symm, Option.some.inj hlatest⟩
    · rw [if_neg he] at hlatest
      rw [if_neg fun hne => he hne.symm]
      exact h.latest other pass hlatest
  · obtain ⟨j, hc, hj, hn, s, hs, hplan⟩ := h.waiting entry (hu.callers ▸ hm)
    obtain ⟨s', hs', hserial⟩ := hkeeps _ _ hs
    refine ⟨j, hc, List.mem_append_left _ hj, fun hb => ?_, s', hs', hserial ▸ hplan⟩
    rw [newest_concat, if_neg]
    · exact hn hb
    · exact getD_freshBuffer_ne (ha j hj hb) hs
  · rcases List.mem_append.mp hj with hj | hj
    · exact h.sound j hj
    · rw [List.mem_singleton.mp hj]
      refine ⟨rfl, rfl, fun given hb => ?_⟩
      have hb : buffer = some given := hb
      have hname : i.pass.buffer = name := rfl
      simp [hname, name, hb]
  · refine List.pairwise_append.mpr ⟨h.order, List.pairwise_singleton _ _, fun j hj k hk => ?_⟩
    rw [List.mem_singleton.mp hk]
    exact h.caller_lt j hj
  · rcases List.mem_append.mp hj with hj | hj
    · exact (h.caller_lt j hj).trans (Nat.lt_succ_self _)
    · rw [List.mem_singleton.mp hj]
      exact Nat.lt_succ_self _
  · obtain ⟨hdebouncerOf, hdebouncers, hcalls⟩ := h.still
    exact ⟨hu.debouncerOf.trans hdebouncerOf, hu.debouncers.trans hdebouncers,
      hu.calls.trans hcalls⟩

theorem Serving.annotate (h : Serving asked w) (buffer : Option Text) (text : Text)
    (hi : w.inquiry? (.event (.annotate buffer text)) = some i) (ha : Apart (asked ++ [i])) :
    Serving (asked ++ [i]) (w.annotate buffer text) ∧
      Replies (asked ++ [i]) w (w.annotate buffer text) := by
  obtain rfl := Option.some.inj hi
  let name := buffer.getD w.freshBuffer
  let i : Inquiry := { buffer, text, caller := w.nextCaller, pass := (w.runPass name text).1 }
  let begun : Workspace ℚ := { (w.runPass name text).2 with nextCaller := w.nextCaller + 1 }
  have hu := unanswered_runPass w name text
  have hbegun : Serving (asked ++ [i]) begun := h.begin buffer text fun j hj hb =>
    ha j (List.mem_append_left _ hj) i (List.mem_append_right _ (List.mem_singleton_self i)) hb
  have hsheet : begun.board.sheets.get? name =
      some (w.board.sheetAfter name (mentionsIn text)) := by
    have hboard : begun.board = (w.board.startPass name (mentionsIn text)).2.1 :=
      (adds_runPass w name text).board
    rw [hboard, Board.get?_startPass]
  have hnewest : newest (asked ++ [i]) i.pass.buffer = some i := by
    rw [newest_concat, if_pos rfl]
  have hwaits : Awaits (asked ++ [i]) begun i
      (i.plan (w.board.sheetAfter name (mentionsIn text)).serial) :=
    ⟨List.mem_append_right _ (List.mem_singleton_self i), fun _ => hnewest, _, hsheet, rfl⟩
  have hsettle : begun.settlePlan name = [.idle name] := by
    rw [settlePlan, hbegun.still.1]
    rfl
  have hannotate : w.annotate buffer text =
      begun.resume i.caller (begun.settlePlan name ++ .present i.pass :: i.leaving) := by
    have hcaller : (w.runPass name text).2.nextCaller = w.nextCaller := hu.nextCaller
    simp only [begun, i, ← hcaller]
    rfl
  have hlength : begun.planLength (.idle name :: .present i.pass :: i.leaving) =
      (begun.planLength (.idle name :: .present i.pass :: i.leaving) - 7) + 6 + 1 := by
    simp only [planLength, List.length_cons]
    omega
  have hidle : w.annotate buffer text = Workspace.proceed i.caller
      (begun.planLength (.idle name :: .present i.pass :: i.leaving) - 7 + 6)
      (i.plan (w.board.sheetAfter name (mentionsIn text)).serial) begun := by
    rw [hannotate, hsettle, List.singleton_append, resume, hlength]
    simp [Workspace.proceed, isOver, enter, hsheet, Inquiry.plan]
  rw [hidle]
  obtain ⟨hserving, given, hgiven, hfits⟩ := hbegun.proceed ha hwaits
    (begun.planLength (.idle name :: .present i.pass :: i.leaving) - 7)
  exact ⟨hserving, given, hgiven.trans (congrArg (given ++ ·) hu.answers), hfits⟩

/-! Moves -/

theorem Unanswered.andReplies {w'' : Workspace ℚ} (h : Unanswered w w')
    (hr : Replies asked w' w'') : Replies asked w w'' := by
  obtain ⟨given, he, hfits⟩ := hr
  exact ⟨given, h.answers ▸ he, hfits⟩

theorem Serving.callerTurn (h : Serving asked w) (ha : Apart asked) (id : Nat) :
    Serving asked (w.perform (.caller id)) ∧ Replies asked w (w.perform (.caller id)) := by
  unfold Workspace.perform
  dsimp only
  split
  · rename_i plan hplan
    obtain ⟨i, rfl, hw⟩ := h.waiting _ (Register.mem_of_get? hplan)
    have hlength : w.planLength plan = (w.planLength plan - 6) + 6 := by
      obtain ⟨-, -, s, -, rfl⟩ := hw
      simp only [planLength, Inquiry.plan, List.length_cons]
      omega
    rw [resume, hlength]
    exact h.proceed ha hw _
  · exact ⟨h, (Unanswered.refl w).replies⟩

theorem Serving.work (h : Serving asked w) (ha : Apart asked) (hf : Faithful p history w) :
    Serving asked w.work ∧ Replies asked w w.work := by
  unfold Workspace.work Agenda.nextJob?
  cases hj : w.agenda.jobs with
  | nil => exact ⟨h, (Unanswered.refl w).replies⟩
  | cons job rest =>
    have hpop : Unanswered w (w.withJobs rest) := ⟨rfl, rfl, rfl, rfl, rfl, rfl, rfl⟩
    have hpopped : Serving asked (w.withJobs rest) := h.aside hpop rfl
    have hjob : Serving asked ((w.withJobs rest).perform job) ∧
        Replies asked w ((w.withJobs rest).perform job) := by
      by_cases hc : ∃ id, job = .caller id
      · obtain ⟨id, rfl⟩ := hc
        obtain ⟨hserving, hreplies⟩ := hpopped.callerTurn ha id
        exact ⟨hserving, hpop.andReplies hreplies⟩
      · obtain ⟨hserving, hunanswered⟩ := hpopped.perform (fun id he => hc ⟨id, he⟩)
          (fun _ _ _ _ he => hf.ask_not_stopped he) fun asker outcome he => by
            refine hf.not_stopped (c := asker) ?_
            simp [traffic, hj, he, Job.answer?]
        exact ⟨hserving, (hpop.trans hunanswered).replies⟩
    have hcall := unanswered_callCallers ((w.withJobs rest).perform job)
    obtain ⟨hserving, given, hgiven, hfits⟩ := hjob
    exact ⟨hserving.aside hcall (waitsOn_callCallers _).board, given, hcall.answers.trans hgiven,
      hfits⟩

theorem Serving.ring (h : Serving asked w) (alarms : List (ℚ × Alarm)) (alarm : Alarm) :
    Serving asked (Workspace.ring (w.withAlarms alarms) alarm) ∧
      Unanswered w (Workspace.ring (w.withAlarms alarms) alarm) := by
  have hpop : Unanswered w (w.withAlarms alarms) := ⟨rfl, rfl, rfl, rfl, rfl, rfl, rfl⟩
  have hpopped : Serving asked (w.withAlarms alarms) := h.aside hpop rfl
  cases alarm with
  | timer debouncer timer =>
    have hsame : Workspace.ring (w.withAlarms alarms) (.timer debouncer timer) =
        w.withAlarms alarms := by
      simp [Workspace.ring, withDebouncer, withAlarms, h.still.2.1]
    rw [hsame]
    exact ⟨hpopped, hpop⟩
  | limiter r =>
    have hdesk := unanswered_applyDesk (w.withAlarms alarms) (w.desk.limiterWake r)
    exact ⟨hpopped.aside hdesk (trails_applyDesk _ _).board, hpop.trans hdesk⟩
  | reply r reply =>
    have hsoon : Unanswered w (Workspace.ring (w.withAlarms alarms) (.reply r reply)) :=
      ⟨rfl, rfl, rfl, rfl, rfl, rfl, rfl⟩
    exact ⟨h.aside hsoon rfl, hsoon⟩

theorem Serving.move {m : Move} (h : Serving asked w) (hf : Faithful p history w)
    (hm : m.IsServing) (ha : Apart (asked ++ (w.inquiry? m).toList)) :
    Serving (asked ++ (w.inquiry? m).toList) (w.move m) ∧
      Replies (asked ++ (w.inquiry? m).toList) w (w.move m) := by
  have hquiet (hi : w.inquiry? m = none) (hs : Apart asked →
      Serving asked (w.move m) ∧ Replies asked w (w.move m)) :
      Serving (asked ++ (w.inquiry? m).toList) (w.move m) ∧
        Replies (asked ++ (w.inquiry? m).toList) w (w.move m) := by
    rw [hi, Option.toList_none, List.append_nil] at ha ⊢
    exact hs ha
  cases m with
  | ring =>
    refine hquiet rfl fun _ => ?_
    unfold Workspace.move
    dsimp only
    split
    · exact ⟨h, (Unanswered.refl w).replies⟩
    · rename_i alarm alarms hal
      obtain ⟨hserving, hu⟩ := h.ring alarms alarm.2
      exact ⟨hserving, hu.replies⟩
  | wait time =>
    refine hquiet rfl fun _ => ?_
    unfold Workspace.move
    dsimp only
    split
    · have hu : Unanswered w { w with agenda := { w.agenda with now := time } } :=
        ⟨rfl, rfl, rfl, rfl, rfl, rfl, rfl⟩
      exact ⟨h.aside hu rfl, hu.replies⟩
    · exact ⟨h, (Unanswered.refl w).replies⟩
  | event e =>
    cases e with
    | work => exact hquiet rfl fun ha => h.work ha hf
    | respond url delivery =>
      refine hquiet rfl fun _ => ?_
      have hu : Unanswered w (w.move (.event (.respond url delivery))) :=
        ⟨rfl, rfl, rfl, rfl, rfl, rfl, rfl⟩
      exact ⟨h.aside hu rfl, hu.replies⟩
    | annotate buffer text => exact h.annotate buffer text rfl ha
    | _ => exact hm.elim

theorem serving_new (p : Plan ℚ) (now : ℚ) : Serving [] (new p now) :=
  ⟨Board.tracks_empty, List.forall_mem_nil _, nofun, List.forall_mem_nil _, List.forall_mem_nil _,
    .nil, List.forall_mem_nil _, rfl, rfl, rfl⟩

theorem serving_run (p : Plan ℚ) (now : ℚ) {moves : List Move} (hm : ∀ m ∈ moves, m.IsServing)
    (ha : Apart ((new p now).inquiries moves)) :
    Serving ((new p now).inquiries moves) ((new p now).runMoves moves) := by
  induction moves using List.reverseRecOn with
  | nil => exact serving_new p now
  | append_singleton moves m ih =>
    have hbefore : ∀ m' ∈ moves, m'.IsServing := fun m' hm' => hm m' (List.mem_append_left _ hm')
    have hfaithful := faithful_run p now fun m' hm' => (hbefore m' hm').isFine
    have hlast : m.IsServing := hm m (List.mem_append_right _ (List.mem_singleton_self m))
    rw [inquiries_concat] at ha ⊢
    rw [runMoves_append]
    exact ((ih hbefore ha.of_append).move hfaithful hlast ha).1

/-! The newest request -/

theorem Serving.caller_le_newest (h : Serving asked w) {buffer : Text} {j k : Inquiry}
    (hj : newest asked buffer = some j) (hk : k ∈ asked) (hb : k.pass.buffer = buffer) :
    k.caller ≤ j.caller := by
  obtain ⟨older, hsplit⟩ := List.getLast?_eq_some_iff.mp hj
  have hmem : k ∈ asked.filter (·.pass.buffer = buffer) := List.mem_filter.mpr ⟨hk, by simpa⟩
  have horder := h.order.filter fun i => decide (i.pass.buffer = buffer)
  rw [hsplit] at hmem horder
  rcases List.mem_append.mp hmem with hm | hm
  · exact ((List.pairwise_append.mp horder).2.2 k hm j (List.mem_singleton_self j)).le
  · rw [List.mem_singleton.mp hm]

theorem Serving.eq_of_caller_eq (h : Serving asked w) {j : Inquiry} (hi : i ∈ asked)
    (hj : j ∈ asked) (he : j.caller = i.caller) : j = i := by
  have hnodup : (asked.map (·.caller)).Nodup :=
    List.pairwise_map.mpr (h.order.imp fun hlt => hlt.ne)
  exact List.inj_on_of_nodup_map hnodup hj hi he

/-- What holds of every move after moves that ask for nothing but annotations, if no request names
a buffer whose name was made up for another. A request that is answered has the pass over its own
text, and one annotation for each reference in the text of the newest request over its buffer. That
is its own text if it named no buffer, or if no other request over the buffer has begun since. -/
theorem answers_newest (p : Plan ℚ) (now : ℚ) {moves : List Move} {m : Move}
    (hm : ∀ m' ∈ moves ++ [m], m'.IsServing)
    (ha : Apart ((new p now).inquiries (moves ++ [m]))) :
    let w := (new p now).runMoves moves
    let asked := (new p now).inquiries (moves ++ [m])
    asked.Pairwise (fun i j => i.caller < j.caller) ∧ (∀ i ∈ asked, i.IsSound) ∧
    ∃ given, (w.move m).answers = given ++ w.answers ∧ ∀ a ∈ given,
      ∃ i ∈ asked, i.caller = a.caller ∧ i.pass = a.pass ∧
      ∃ j, newest asked a.pass.buffer = some j ∧
        Board.mentionsOf a.annotations = (Occurrence.ofLines j.text.messageLines).map (·.mention) ∧
        (i.buffer = none → j = i) ∧
        ((∀ k ∈ asked, k.pass.buffer = a.pass.buffer → k.caller ≤ i.caller) → j = i) := by
  intro w asked
  have hbefore : ∀ m' ∈ moves, m'.IsServing := fun m' hm' => hm m' (List.mem_append_left _ hm')
  have hlast : m.IsServing := hm m (List.mem_append_right _ (List.mem_singleton_self m))
  have hfaithful : Faithful p _ w := faithful_run p now fun m' hm' => (hbefore m' hm').isFine
  have hasked : asked = (new p now).inquiries moves ++ (w.inquiry? m).toList :=
    inquiries_concat _ _ _
  rw [inquiries_concat] at ha
  obtain ⟨hafter, given, hgiven, hfits⟩ :=
    (serving_run p now hbefore ha.of_append).move hfaithful hlast ha
  rw [← hasked] at hafter hfits
  refine ⟨hafter.order, hafter.sound, given, hgiven, fun a hmem => ?_⟩
  obtain ⟨i, hi, hc, hpass, j, hj, hshown, hown⟩ := hfits a hmem
  refine ⟨i, hi, hc, hpass, j, hj, hshown, hown, fun hlatest => ?_⟩
  obtain ⟨hjm, hjb⟩ := mem_of_newest hj
  exact hafter.eq_of_caller_eq hi hjm (le_antisymm (hlatest j hjm hjb)
    (hafter.caller_le_newest hj hi (congrArg (·.buffer) hpass)))

/-- Two requests over one buffer. The second begins before the first is answered. -/
def overtaken : List Move :=
  [.event (.annotate (some ['b']) "fix #1".toList),
    .event (.annotate (some ['b']) "fix #2".toList)] ++ List.replicate 9 (.event .work) ++
  [.wait 1, .ring] ++ List.replicate 4 (.event .work)

theorem answers_newest_overtaken :
    let w := (new emptyPlan 0).runMoves overtaken
    let asked := (new emptyPlan 0).inquiries (overtaken ++ [.event .work])
    (∀ m ∈ overtaken ++ [.event .work], m.IsServing) ∧ Apart asked ∧
    ∃ given, w.work.answers = given ++ w.answers ∧ given.length = 1 ∧ ∀ a ∈ given,
      ∃ j, newest asked a.pass.buffer = some j ∧
        Board.mentionsOf a.annotations =
          (Occurrence.ofLines j.text.messageLines).map (·.mention) := by
  intro w asked
  have hm : ∀ m ∈ overtaken ++ [.event .work], m.IsServing := by
    simp [overtaken, Move.IsServing]
  have hnamed : ∀ i ∈ asked, i.buffer = some ['b'] := by
    intro i hi
    have hbuffers : asked.map (·.buffer) = [some ['b'], some ['b']] := by decide +kernel
    have hb : i.buffer ∈ asked.map (·.buffer) := List.mem_map_of_mem hi
    rw [hbuffers] at hb
    simpa using hb
  have ha : Apart asked := fun i hi _ _ hn => by simp [hnamed i hi] at hn
  obtain ⟨-, -, given, hgiven, hfits⟩ := answers_newest emptyPlan 0 hm ha
  refine ⟨hm, ha, given, hgiven, ?_, fun a hmem => ?_⟩
  · have hone : w.work.answers.length = w.answers.length + 1 := by decide +kernel
    have hlength := congrArg List.length hgiven
    rw [List.length_append] at hlength
    change w.work.answers.length = given.length + w.answers.length at hlength
    omega
  · obtain ⟨i, -, -, -, j, hj, hshown, -⟩ := hfits a hmem
    exact ⟨j, hj, hshown⟩

/-- The answer to the first request has annotations for the second. -/
theorem exists_answer_for_other_text :
    let w := (new emptyPlan 0).runMoves (overtaken ++ [.event .work])
    ∃ i ∈ (new emptyPlan 0).inquiries overtaken, ∃ a ∈ w.answers,
      a.caller = i.caller ∧ a.pass = i.pass ∧ i.text = "fix #1".toList ∧
      Board.mentionsOf a.annotations = [⟨0, 4, ⟨.ticket, ['2']⟩⟩] ∧
      (Occurrence.ofLines i.text.messageLines).map (·.mention) = [⟨0, 4, ⟨.ticket, ['1']⟩⟩] := by
  intro w
  let first : Pass := ((new emptyPlan 0).runPass ['b'] "fix #1".toList).1
  have hanswers : w.answers = [⟨0, first,
      [(0, [⟨4, "Ticket #2 not found".toList, .invalid, ⟨.ticket, ['2']⟩⟩])]⟩] := by
    decide +kernel
  rw [hanswers]
  exact ⟨_, List.mem_cons_self, _, List.mem_cons_self, rfl, rfl, rfl, rfl, by decide +kernel⟩

end CommitMessage.Workspace
