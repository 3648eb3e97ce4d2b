import CommitMessage.Proofs.Workspace.Cached
import CommitMessage.Proofs.Workspace.Timers

/-! The newest text of each buffer. Passes come from outside, from timers and from flushes, in any
order, and each is made over the text that was given last. A text without a pass has a timer. -/

namespace CommitMessage.Workspace

variable {w w' w'' : Workspace ℚ} {known : Text → Option Text} {debts debts' : Phase → Prop}
  {due asleep : Nat → Nat → Prop} {buffer text : Text}

/-! What has been given -/

/-- The buffer to which a move gives a text, or which it gives up. -/
def news? (w : Workspace ℚ) : Move → Option (Text × Option Text)
  | .event (.runPass buffer text) | .event (.notify buffer text) => some (buffer, some text)
  | .event (.attach buffer path text) =>
    if w.isEligible path then some (buffer, some text) else none
  | .event (.detach buffer) => some (buffer, none)
  | _ => none

def learn (known : Text → Option Text) : Option (Text × Option Text) → Text → Option Text
  | some (buffer, text?), other => if other = buffer then text? else known other
  | none, other => known other

/-- The last text of each buffer after some moves, if it has got one since it was last detached. -/
def lastTexts (w : Workspace ℚ) (known : Text → Option Text) : List Move → Text → Option Text
  | [] => known
  | m :: moves => (w.move m).lastTexts (learn known (w.news? m)) moves

theorem lastTexts_concat (w : Workspace ℚ) (known : Text → Option Text) (moves : List Move)
    (m : Move) : w.lastTexts known (moves ++ [m]) =
      learn (w.lastTexts known moves) ((w.runMoves moves).news? m) := by
  induction moves generalizing w known with
  | nil => rfl
  | cons first moves ih => exact ih (w.move first) _

/-- A detach of the buffer is suspended. -/
def IsLeaving (w : Workspace ℚ) (buffer : Text) : Prop :=
  w.Owes (.forget buffer) ∨ w.Owes (.drop buffer)

/-- No buffer gets a text while its own detach is suspended. -/
def Undisturbed (w : Workspace ℚ) : List Move → Prop
  | [] => True
  | m :: moves => (∀ buffer text, w.news? m = some (buffer, some text) → ¬ w.IsLeaving buffer) ∧
    (w.move m).Undisturbed moves

theorem undisturbed_concat {moves : List Move} {m : Move} :
    w.Undisturbed (moves ++ [m]) ↔ w.Undisturbed moves ∧ ∀ buffer text,
      (w.runMoves moves).news? m = some (buffer, some text) →
        ¬ (w.runMoves moves).IsLeaving buffer := by
  induction moves generalizing w with
  | nil => simp [Undisturbed, runMoves]
  | cons first moves ih =>
    have hrest := ih (w := w.move first)
    simp only [List.cons_append, Undisturbed, hrest, and_assoc]
    rfl

theorem Undisturbed.of_append {first last : List Move} (h : w.Undisturbed (first ++ last)) :
    w.Undisturbed first := by
  induction first generalizing w with
  | nil => trivial
  | cons m rest ih => exact ⟨h.1, ih h.2⟩

/-! What a buffer has -/

/-- A timer of the buffer waits for changes to pause. -/
def Waits (w : Workspace ℚ) (buffer : Text) : Prop :=
  ∃ key, w.debouncerOf.get? buffer = some key ∧ w.isPending key = true

/-- The pass over a text in the present generation of its buffer. -/
def passOver (w : Workspace ℚ) (buffer text : Text) : Pass where
  buffer
  generation := w.board.generation buffer
  findings := Lint.validate text.messageLines
  occurrences := Occurrence.ofLines text.messageLines

/-- What is published with a pass, if there is anyone to publish to. -/
def announcement (w : Workspace ℚ) (buffer text : Text) : List (Text × List Lint.Finding) :=
  match w.presenter with
  | .absent => []
  | .present _ => [(buffer, Lint.validate text.messageLines)]

/-- What may still be done for a caller if no buffer is to lose its text. -/
def Phase.Spares (known : Text → Option Text) : Phase → Prop
  | .forget buffer | .drop buffer => known buffer = none
  | .callOffTimers _ | .forgetAll | .dropAll => False
  | _ => True

/-- Buffers have their last texts, and the passes over them unless a timer waits. -/
structure UpToDate (known : Text → Option Text) (debts : Phase → Prop) (w : Workspace ℚ) :
    Prop where
  texts : ∀ {buffer text}, known buffer = some text → w.texts.get? buffer = some text
  latest : ∀ {buffer text}, known buffer = some text → ¬ w.Waits buffer →
    w.latest.get? buffer = some (w.passOver buffer text)
  attached : ∀ {buffer key}, w.debouncerOf.get? buffer = some key → known buffer ≠ none
  plans : ∀ {phase}, debts phase → phase.Spares known

/-- No pass has been made. -/
structure Unpassed (known : Text → Option Text) (w w' : Workspace ℚ) : Prop where
  latest : ∀ buffer, known buffer ≠ none → w'.latest.get? buffer = w.latest.get? buffer
  generation : ∀ buffer, known buffer ≠ none →
    w'.board.generation buffer = w.board.generation buffer
  published : w'.published = w.published

/-- A pass has been made over a text, and no other. -/
structure IsPass (buffer text : Text) (w w' : Workspace ℚ) : Prop where
  texts : w'.texts = w.texts.set buffer text
  latest : w'.latest = w.latest.set buffer (w'.passOver buffer text)
  generation : ∀ other, w'.board.generation other =
    if other = buffer then w.board.generation buffer + 1 else w.board.generation other
  published : w'.published = w.announcement buffer text ++ w.published

theorem Unpassed.refl (w : Workspace ℚ) : Unpassed known w w :=
  ⟨fun _ _ => rfl, fun _ _ => rfl, rfl⟩

theorem Unpassed.trans (h : Unpassed known w w') (h' : Unpassed known w' w'') :
    Unpassed known w w'' :=
  ⟨fun x hx => (h'.latest x hx).trans (h.latest x hx),
    fun x hx => (h'.generation x hx).trans (h.generation x hx),
    h'.published.trans h.published⟩

theorem Beside.unpassed (h : Beside w w') : Unpassed known w w' :=
  ⟨fun _ _ => by rw [h.latest], fun x _ => h.generation x, h.published⟩

/-! Timers -/

theorem isPending_eq (w : Workspace ℚ) {key : Nat} {d : Debouncer ℚ}
    (hget : w.debouncers.get? key = some (buffer, d)) : w.isPending key = d.current.isSome := by
  simp [isPending, hget, Debouncer.isPending]

/-- Nothing has changed for those who wait, nor for the timers of other buffers. -/
structure Aloof (buffer : Text) (w w' : Workspace ℚ) : Prop where
  debouncerOf : ∀ other, other ≠ buffer →
    w'.debouncerOf.get? other = w.debouncerOf.get? other
  waits : ∀ other, other ≠ buffer → (w'.Waits other ↔ w.Waits other)

theorem KeepsTimers.waits_iff (h : KeepsTimers w w') (buffer : Text) :
    w'.Waits buffer ↔ w.Waits buffer := by
  unfold Waits isPending
  rw [h.debouncerOf, h.debouncers]

theorem KeepsTimers.aloof (h : KeepsTimers w w') (buffer : Text) : Aloof buffer w w' :=
  ⟨fun _ _ => by rw [h.debouncerOf], fun other _ => h.waits_iff other⟩

theorem Aloof.trans (h : Aloof buffer w w') (h' : Aloof buffer w' w'') : Aloof buffer w w'' :=
  ⟨fun x hx => (h'.debouncerOf x hx).trans (h.debouncerOf x hx),
    fun x hx => (h'.waits x hx).trans (h.waits x hx)⟩

/-- A debouncer is of no concern to other buffers. -/
theorem Timed.aloof (h : w.Timed due asleep debts) {key : Nat} {d : Debouncer ℚ}
    (hget : w.debouncers.get? key = some (buffer, d)) (hof : w'.debouncerOf = w.debouncerOf)
    (hset : ∀ other, other ≠ key → w'.debouncers.get? other = w.debouncers.get? other) :
    Aloof buffer w w' := by
  refine ⟨fun _ _ => by rw [hof], fun other hne => exists_congr fun i => ?_⟩
  rw [hof]
  refine and_congr_right fun ho => ?_
  obtain ⟨d₀, hd₀⟩ := h.own ho
  have hi : i ≠ key := by
    rintro rfl
    rw [hget] at hd₀
    cases hd₀
    exact hne rfl
  rw [isPending, isPending, hset i hi]

theorem Changes.aloof {key : Nat} {d : Debouncer ℚ}
    {change : Debouncer ℚ × List (Debouncer.Signal ℚ)} (hch : Changes key buffer change w w')
    (h : w.Timed due asleep debts) (hget : w.debouncers.get? key = some (buffer, d)) :
    Aloof buffer w w' := by
  obtain ⟨agenda, he⟩ := hch.frame
  exact h.aloof hget (by rw [he]) fun other hne => by rw [he, Register.get?_set, if_neg hne]

/-! Passes -/

theorem presenter_boardSignals (w : Workspace ℚ) (change : Board × List Board.Signal) :
    (w.applyBoard change).presenter = w.presenter := by
  have hone (w : Workspace ℚ) (x : Board.Signal) : (w.boardSignal x).presenter = w.presenter := by
    cases x with
    | commit pass c =>
      simp only [boardSignal, handOver]
      split
      · rfl
      · split <;> rfl
    | _ => rfl
  exact List.foldlRecOn (motive := fun w' : Workspace ℚ => w'.presenter = w.presenter) change.2
    boardSignal rfl fun w' h x _ => (hone w' x).trans h

theorem isPass_runPass (w : Workspace ℚ) (buffer text : Text) :
    IsPass buffer text w (w.runPass buffer text).2 := by
  let mentions := (Occurrence.ofLines text.messageLines).map Occurrence.mention
  let noted : Workspace ℚ := { w with texts := w.texts.set buffer text }
  let begun := noted.applyBoard (w.board.startPass buffer mentions).2
  have hboard : Beside { noted with board := (w.board.startPass buffer mentions).2.1 } begun :=
    beside_boardSignals noted _
  have hpresenter : begun.presenter = w.presenter := presenter_boardSignals noted _
  have hgeneration : (w.board.startPass buffer mentions).1 =
      (w.board.startPass buffer mentions).2.1.generation buffer := by
    rw [Board.generation_startPass, if_pos rfl, Board.startPass_eq, Board.generation_eq_sheetFor]
  have hgen : ∀ x, begun.board.generation x =
      if x = buffer then w.board.generation buffer + 1 else w.board.generation x := fun x =>
    (hboard.generation x).trans (Board.generation_startPass w.board buffer mentions x)
  let pass : Pass := ⟨buffer, (w.board.startPass buffer mentions).1,
    Lint.validate text.messageLines, Occurrence.ofLines text.messageLines⟩
  have hpass : pass = begun.passOver buffer text := by
    unfold passOver
    rw [hboard.generation buffer, ← hgeneration]
  have hrun (sink : Board.Sink) (hs : begun.presenter = sink) :
      ∃ w' : Workspace ℚ, ∃ e, w' = (match sink with
        | .absent => begun
        | .present _ => begun.note (.published buffer (Lint.validate text.messageLines))) ∧
      (w.runPass buffer text).2 =
        { w'.note (.noted e) with latest := w'.latest.set buffer pass } := by
    subst hs
    exact ⟨_, _, rfl, rfl⟩
  obtain ⟨w', e, hw', he⟩ := hrun w.presenter hpresenter
  rw [he, hpass]
  -- all that is needed of the begun pass has been said; it is not to be unfolded again
  clear_value begun
  cases hp : w.presenter with
  | absent =>
    rw [hp] at hw'
    subst hw'
    refine ⟨hboard.texts, congrArg (Register.set buffer _) hboard.latest, hgen, ?_⟩
    simpa [announcement, hp, published, Workspace.note, List.filterMap_cons, Entry.published?,
      noted] using hboard.published
  | present failsAt =>
    rw [hp] at hw'
    subst hw'
    refine ⟨hboard.texts, congrArg (Register.set buffer _) hboard.latest, hgen, ?_⟩
    simpa [announcement, hp, published, Workspace.note, List.filterMap_cons, Entry.published?,
      noted] using hboard.published

theorem learn_self (hk : known buffer = some text) :
    learn known (some (buffer, some text)) = known := by
  funext x
  change (if x = buffer then some text else known x) = known x
  split
  · next he => rw [he, hk]
  · rfl

theorem Phase.Spares.learn {phase : Phase} (h : phase.Spares known)
    (hforget : phase ≠ .forget buffer) (hdrop : phase ≠ .drop buffer) :
    phase.Spares (learn known (some (buffer, some text))) := by
  cases phase with
  | forget other =>
    have hne : other ≠ buffer := fun he => hforget (he ▸ rfl)
    simpa [Phase.Spares, Workspace.learn, hne] using h
  | drop other =>
    have hne : other ≠ buffer := fun he => hdrop (he ▸ rfl)
    simpa [Phase.Spares, Workspace.learn, hne] using h
  | _ => exact h

theorem UpToDate.mono (h : UpToDate known debts w) (hp : ∀ p, debts' p → debts p) :
    UpToDate known debts' w :=
  ⟨h.texts, h.latest, h.attached, fun hd => h.plans (hp _ hd)⟩

/-- A buffer is up to date when the pass over its new text has been made, or its timer waits. -/
theorem UpToDate.learn (h : UpToDate known debts w) (ha : Aloof buffer w w')
    (htexts : w'.texts = w.texts.set buffer text)
    (hlatest : ∀ other, other ≠ buffer → w'.latest.get? other = w.latest.get? other ∧
      w'.board.generation other = w.board.generation other)
    (hown : ¬ w'.Waits buffer → w'.latest.get? buffer = some (w'.passOver buffer text))
    (hplans : ∀ {phase}, debts phase → phase.Spares (learn known (some (buffer, some text)))) :
    UpToDate (learn known (some (buffer, some text))) debts w' := by
  have hlearn (x : Text) : Workspace.learn known (some (buffer, some text)) x =
      if x = buffer then some text else known x := rfl
  refine ⟨fun {x t} hk => ?_, fun {x t} hk hw => ?_, fun {x key} ho => ?_, hplans⟩
  · rw [htexts, Register.get?_set]
    rw [hlearn] at hk
    split at hk
    · next he => rw [if_pos he, hk]
    · next hne =>
      rw [if_neg hne]
      exact h.texts hk
  · rw [hlearn] at hk
    split at hk
    · next he =>
      subst he
      rw [← Option.some.inj hk]
      exact hown hw
    · next hne =>
      obtain ⟨hl, hg⟩ := hlatest x hne
      have hbefore := h.latest hk fun hw' => hw ((ha.waits x hne).mpr hw')
      unfold passOver at hbefore ⊢
      rw [hl, hg, hbefore]
  · rw [hlearn]
    split
    · simp
    · next hne =>
      rw [ha.debouncerOf x hne] at ho
      exact h.attached ho

theorem UpToDate.pass (h : UpToDate known debts w) (ha : Aloof buffer w w')
    (hp : IsPass buffer text w w')
    (hplans : ∀ {phase}, debts phase → phase.Spares (Workspace.learn known
      (some (buffer, some text)))) :
    UpToDate (Workspace.learn known (some (buffer, some text))) debts w' := by
  refine h.learn ha hp.texts (fun other hne => ⟨?_, ?_⟩) (fun _ => ?_) hplans
  · rw [hp.latest, Register.get?_set, if_neg hne]
  · rw [hp.generation, if_neg hne]
  · rw [hp.latest, Register.get?_set, if_pos rfl]

/-- Nothing has changed for buffers that have a text. -/
theorem UpToDate.keep (h : UpToDate known debts w) (hu : Unpassed known w w')
    (htexts : ∀ buffer, known buffer ≠ none → w'.texts.get? buffer = w.texts.get? buffer)
    (hof : ∀ {buffer key}, w'.debouncerOf.get? buffer = some key →
      w.debouncerOf.get? buffer = some key)
    (hw : ∀ buffer, known buffer ≠ none → w.Waits buffer → w'.Waits buffer) :
    UpToDate known debts w' := by
  refine ⟨fun {x t} hk => ?_, fun {x t} hk hwaits => ?_, fun ho => h.attached (hof ho), h.plans⟩
  · rw [htexts x (by simp [hk])]
    exact h.texts hk
  · have hx : known x ≠ none := by simp [hk]
    have hbefore := h.latest hk fun hw' => hwaits (hw x hx hw')
    unfold passOver at hbefore ⊢
    rw [hu.latest x hx, hu.generation x hx, hbefore]

theorem UpToDate.beside (h : UpToDate known debts w) (hb : Beside w w') :
    UpToDate known debts w' :=
  h.keep hb.unpassed (fun _ _ => by rw [hb.texts]) (fun ho => hb.debouncerOf ▸ ho)
    fun x _ hw => (hb.waits_iff x).mpr hw

/-! Turns of timers -/

/-- A move has made no pass, or one over the last text of a buffer. -/
def MakesNewest (known : Text → Option Text) (w w' : Workspace ℚ) : Prop :=
  Unpassed known w w' ∨ ∃ buffer text, known buffer = some text ∧ IsPass buffer text w w'

theorem Changes.unpassed (known : Text → Option Text) {key : Nat}
    {change : Debouncer ℚ × List (Debouncer.Signal ℚ)}
    (hch : Changes key buffer change w w') : Unpassed known w w' ∧ w'.texts = w.texts ∧
      w'.debouncerOf = w.debouncerOf := by
  obtain ⟨agenda, he⟩ := hch.frame
  rw [he]
  exact ⟨⟨fun _ _ => rfl, fun _ _ => rfl, rfl⟩, rfl, rfl⟩

theorem UpToDate.changes {key : Nat} {d : Debouncer ℚ}
    {change : Debouncer ℚ × List (Debouncer.Signal ℚ)} (h : UpToDate known debts w)
    (ht : w.Timed due asleep debts') (hget : w.debouncers.get? key = some (buffer, d))
    (hch : Changes key buffer change w w')
    (hc : known buffer ≠ none → w.Waits buffer → change.1.current = d.current) :
    UpToDate known debts w' ∧ Unpassed known w w' := by
  obtain ⟨hu, htexts, hof⟩ := hch.unpassed known
  refine ⟨h.keep hu (fun _ _ => by rw [htexts]) (fun hx => hof ▸ hx) fun x hx hw => ?_, hu⟩
  by_cases he : x = buffer
  · subst he
    obtain ⟨i, hi, hpending⟩ := hw
    obtain ⟨agenda, hframe⟩ := hch.frame
    refine ⟨i, hof ▸ hi, ?_⟩
    by_cases hkey : i = key
    · subst hkey
      have hget' : w'.debouncers.get? i = some (x, change.1) := by
        rw [hframe]
        simp
      rw [isPending_eq w' hget', hc hx ⟨i, hi, hpending⟩, ← isPending_eq w hget]
      exact hpending
    · have hget' : w'.debouncers.get? i = w.debouncers.get? i := by
        rw [hframe, Register.get?_set, if_neg hkey]
      rw [isPending, hget']
      exact hpending
  · exact ((hch.aloof ht hget).waits x he).mpr hw

theorem IsPass.of_frame {w₀ : Workspace ℚ} (h : IsPass buffer text w w')
    (he : ∃ debouncers agenda, w = { w₀ with debouncers, agenda }) : IsPass buffer text w₀ w' := by
  obtain ⟨debouncers, agenda, rfl⟩ := he
  exact ⟨h.texts, h.latest, h.generation, h.published⟩

/-- The callback runs for a timer in use, over the last text. -/
theorem UpToDate.turn (h : UpToDate known debts w) (ht : w.Timed due asleep debts)
    (key timer : Nat) :
    let w' := w.withDebouncer key (·.turn timer)
    UpToDate known debts w' ∧ MakesNewest known w w' := by
  intro w'
  cases hget : w.debouncers.get? key with
  | none =>
    rw [show w' = w from withDebouncer_none hget]
    exact ⟨h, .inl (.refl w)⟩
  | some entry =>
    obtain ⟨buffer, d⟩ := entry
    have hchanges {change : Debouncer ℚ × List (Debouncer.Signal ℚ)}
        (he : d.turn timer = change) (hr : ∀ t, .run t ∉ change.2)
        (hc : change.1.current = d.current) :
        UpToDate known debts w' ∧ MakesNewest known w w' := by
      subst he
      exact (h.changes ht hget (changes_withDebouncer hget hr) fun _ _ => hc).imp_right .inl
    rcases (ht.sound hget).turn_cases timer with
      ⟨-, he⟩ | ⟨-, he⟩ | ⟨-, delay, he⟩ | ⟨-, he⟩ | ⟨hc, he⟩
    · exact hchanges he (by simp) rfl
    · exact hchanges he (by simp) rfl
    · exact hchanges he (by simp) rfl
    · exact hchanges he (by simp) rfl
    · have hof : w.debouncerOf.get? buffer = some key :=
        (ht.retired hget (by simp [hc])).resolve_right fun hd => h.plans hd
      obtain ⟨text, hk⟩ := Option.ne_none_iff_exists'.mp (h.attached hof)
      obtain ⟨w₁, hw₁, hw'⟩ := withDebouncer_run (·.turn timer) hget he
      have hrun : w₁ = (runPass { w with debouncers := w.debouncers.set key (buffer,
          ({ d with current := none } : Debouncer ℚ).update timer
            fun t => { t with stage := .running }) } buffer text).2 := by
        rw [hw₁, runLatest, show w.texts.get? buffer = some text from h.texts hk]
      have hkeeps : KeepsTimers _ w₁ := hrun ▸ keepsTimers_runPass _ buffer text
      have hpass : IsPass buffer text w w₁ :=
        (hrun ▸ isPass_runPass _ buffer text : IsPass buffer text _ w₁).of_frame ⟨_, _, rfl⟩
      have hpass' : IsPass buffer text w w' := by
        rw [show w' = _ from hw']
        exact ⟨hpass.texts, hpass.latest, hpass.generation, hpass.published⟩
      have haloof : Aloof buffer w w' := by
        refine ht.aloof hget ?_ fun other hne => ?_
        · rw [show w' = _ from hw']
          exact hkeeps.debouncerOf
        · rw [show w' = _ from hw', Register.get?_set, if_neg hne, hkeeps.debouncers,
            Register.get?_set, if_neg hne]
      have hlearn := h.pass haloof hpass' fun hd => by
        rw [learn_self hk]
        exact h.plans hd
      rw [learn_self hk] at hlearn
      exact ⟨hlearn, .inr ⟨buffer, text, hk, hpass'⟩⟩

theorem UpToDate.wake (h : UpToDate known debts w) (ht : w.Timed due asleep debts)
    (key timer : Nat) :
    let w' := w.withDebouncer key (·.wake timer)
    UpToDate known debts w' ∧ Unpassed known w w' := by
  intro w'
  cases hget : w.debouncers.get? key with
  | none =>
    rw [show w' = w from withDebouncer_none hget]
    exact ⟨h, .refl w⟩
  | some entry =>
    obtain ⟨buffer, d⟩ := entry
    obtain ⟨hrun, hcur⟩ : (∀ t, .run t ∉ (d.wake timer).2) ∧
        (d.wake timer).1.current = d.current := by
      unfold Debouncer.wake
      split
      · split <;> simp [Debouncer.update]
      · simp
    exact h.changes ht hget (changes_withDebouncer hget hrun) fun _ _ => hcur

/-! Changes and flushes -/

theorem isPending_iff {key : Nat} : w.isPending key = true ↔
    ∃ buffer d timer, w.debouncers.get? key = some (buffer, d) ∧ d.current = some timer := by
  cases hget : w.debouncers.get? key with
  | none => simp [isPending, hget]
  | some entry =>
    obtain ⟨buffer, d⟩ := entry
    rw [isPending_eq w hget, Option.isSome_iff_exists]
    grind

/-- A timer that waits has been set for a notified text. -/
theorem UpToDate.notify (h : UpToDate known debts w)
    (ht : w.Timed w.HasTurn w.HasAlarm debts') (text : Text)
    (hplans : ∀ {phase}, debts phase →
      phase.Spares (Workspace.learn known (some (buffer, some text)))) :
    let w' := w.notify buffer text
    UpToDate (Workspace.learn known (some (buffer, some text))) debts w' ∧
      ∀ known', Unpassed known' w w' := by
  intro w'
  let noted : Workspace ℚ := { w with texts := w.texts.set buffer text }
  have hnoted : noted.Timed noted.HasTurn noted.HasAlarm debts' :=
    ⟨ht.sound, ht.lt, ht.own, ht.retired⟩
  obtain ⟨hfor, hof⟩ := hnoted.debouncerFor buffer
  obtain ⟨d, hget⟩ := hfor.own hof
  have hframe : ∃ debouncers debouncerOf nextDebouncer,
      (noted.debouncerFor buffer).2 = { noted with debouncers, debouncerOf, nextDebouncer } ∧
      (∀ other, other ≠ buffer → debouncerOf.get? other = w.debouncerOf.get? other) ∧
      ∀ key, key < w.nextDebouncer → debouncers.get? key = w.debouncers.get? key := by
    unfold Workspace.debouncerFor
    split
    · exact ⟨_, _, _, rfl, fun _ _ => rfl, fun _ _ => rfl⟩
    · refine ⟨_, _, _, rfl, fun other hne => ?_, fun key hlt => ?_⟩
      · simp [noted, hne]
      · simp [noted, hlt.ne]
  obtain ⟨debouncers, debouncerOf, nextDebouncer, he, hothers, hkeys⟩ := hframe
  have haloof : Aloof buffer w (noted.debouncerFor buffer).2 := by
    rw [he]
    refine ⟨hothers, fun other hne => exists_congr fun key => ?_⟩
    rw [show debouncerOf.get? other = _ from hothers other hne]
    refine and_congr_right fun ho => ?_
    obtain ⟨d₀, hd₀⟩ := ht.own ho
    rw [isPending, isPending, show debouncers.get? key = _ from hkeys key (ht.lt hd₀)]
  have hrun (timer : Nat) : .run timer ∉ d.trigger.2 := by
    have hno := not_run_callOffCurrent d timer
    unfold Debouncer.trigger
    simpa using hno
  have hch : Changes _ buffer d.trigger (noted.debouncerFor buffer).2 w' :=
    changes_withDebouncer hget hrun
  obtain ⟨agenda, hw'⟩ := hch.frame
  have hwaits : w'.Waits buffer := by
    refine ⟨(noted.debouncerFor buffer).1, ?_, isPending_iff.mpr ⟨buffer, d.trigger.1, _, ?_, rfl⟩⟩
    · rw [hw']
      exact hof
    · rw [hw']
      exact (Register.get?_set ..).trans (if_pos rfl)
  rw [he] at hw'
  have hlatest : w'.latest = w.latest ∧ w'.board = w.board ∧ w'.texts = noted.texts ∧
      w'.record = w.record := by
    rw [hw']
    exact ⟨rfl, rfl, rfl, rfl⟩
  obtain ⟨hlatest, hboard, htexts, hrecord⟩ := hlatest
  refine ⟨h.learn (haloof.trans (hch.aloof hfor hget)) htexts (fun other _ => ?_)
    (fun hw => absurd hwaits hw) hplans, fun known' => ⟨fun _ _ => ?_, fun _ _ => ?_, ?_⟩⟩
  · rw [hlatest, hboard]
    exact ⟨rfl, rfl⟩
  · rw [hlatest]
  · rw [hboard]
  · rw [published, hrecord, published]

theorem UpToDate.flush (h : UpToDate known debts w) (ht : w.Timed w.HasTurn w.HasAlarm debts')
    (buffer : Text) :
    let w' := (w.flush buffer).2
    UpToDate known debts w' ∧ MakesNewest known w w' := by
  unfold Workspace.flush
  cases hof : w.debouncerOf.get? buffer with
  | none => exact ⟨h, .inl (.refl w)⟩
  | some key =>
    dsimp only
    split
    · obtain ⟨text, hk⟩ := Option.ne_none_iff_exists'.mp (h.attached hof)
      obtain ⟨d, hget⟩ := ht.own hof
      have hch := changes_withDebouncer hget (not_run_callOffCurrent d)
      obtain ⟨agenda, hframe⟩ := hch.frame
      have htexts : (w.withDebouncer key Debouncer.callOffCurrent).texts.get? buffer =
          some text := by
        rw [hframe]
        exact h.texts hk
      rw [runLatest, htexts]
      have haloof := (hch.aloof ht hget).trans
        ((keepsTimers_runPass (w.withDebouncer key Debouncer.callOffCurrent) buffer text).aloof
          buffer)
      have hpass := (isPass_runPass (w.withDebouncer key Debouncer.callOffCurrent) buffer
        text).of_frame ⟨_, agenda, hframe⟩
      have hlearn := h.pass haloof hpass fun hd => by
        rw [learn_self hk]
        exact h.plans hd
      rw [learn_self hk] at hlearn
      exact ⟨hlearn, .inr ⟨buffer, text, hk, hpass⟩⟩
    · exact ⟨h, .inl (.refl w)⟩

/-! Those who wait -/

theorem UpToDate.enter {phase : Phase} (h : UpToDate known (fun p => p = phase ∨ debts p) w)
    (caller : Nat) :
    let change := w.enter caller phase
    UpToDate known (fun p => p ∈ change.2 ∨ debts p) change.1 ∧ Unpassed known w change.1 := by
  have hphase : phase.Spares known := h.plans (.inl rfl)
  have hdebts {phases : List Phase} {w' : Workspace ℚ} (hp : ∀ p ∈ phases, p.Spares known)
      (h' : UpToDate known (fun p => p = phase ∨ debts p) w') (hu : Unpassed known w w') :
      UpToDate known (fun p => p ∈ phases ∨ debts p) w' ∧ Unpassed known w w' :=
    ⟨⟨h'.texts, h'.latest, h'.attached, fun hd => hd.elim (hp _) fun hd => h.plans (.inr hd)⟩, hu⟩
  have hbeside {phases : List Phase} {w' : Workspace ℚ} (hp : ∀ p ∈ phases, p.Spares known)
      (hb : Beside w w') : UpToDate known (fun p => p ∈ phases ∨ debts p) w' ∧
        Unpassed known w w' := hdebts hp (h.beside hb) hb.unpassed
  cases phase with
  | callOffTimers key => exact hphase.elim
  | forgetAll => exact hphase.elim
  | dropAll => exact hphase.elim
  | forget buffer =>
    have hne {x : Text} (hx : known x ≠ none) : x ≠ buffer := fun he => hx (he ▸ hphase)
    have hu : Unpassed known w (w.enter caller (.forget buffer)).1 := by
      refine ⟨fun x hx => ?_, fun _ _ => rfl, rfl⟩
      simp [Workspace.enter, hne hx]
    refine hdebts (List.forall_mem_nil _) (h.keep hu (fun x hx => ?_) id fun _ _ => id) hu
    simp [Workspace.enter, hne hx]
  | drop buffer =>
    simp only [Workspace.enter]
    split
    · next sheet _ =>
      have hu : Unpassed known w { w with board := w.board.drop buffer } := by
        refine ⟨fun _ _ => rfl, fun x hx => ?_, rfl⟩
        have hne : x ≠ buffer := fun he => hx (he ▸ hphase)
        simp [Board.generation, Board.drop, hne]
      exact hdebts (by simp [Phase.Spares]) (h.keep hu (fun _ _ => rfl) id fun _ _ => id) hu
    · exact hbeside (List.forall_mem_nil _) (.refl w)
  | callOffSheet sheet =>
    refine hbeside (by simp [Workspace.enter, Phase.Spares]) (beside_applyBoard w fun buffer => ?_)
    rw [Board.generation, Board.callOffSheet_sheets]
    rfl
  | idle buffer =>
    simp only [Workspace.enter]
    split
    · exact hbeside (by simp [Phase.Spares]) (.refl w)
    · exact hbeside (List.forall_mem_nil _) (.refl w)
  | stopFetches kind =>
    exact hbeside (by simp [Workspace.enter, Phase.Spares])
      ((beside_applyDesk w _).trans (beside_silence _ fun _ _ => rfl))
  | present pass => exact hbeside (List.forall_mem_nil _) (beside_note w rfl)
  | _ => exact hbeside (List.forall_mem_nil _) (.refl w)

theorem UpToDate.proceed (caller fuel : Nat) (plan : List Phase)
    (h : UpToDate known (fun p => p ∈ plan ∨ w.OthersOwe caller p) w) :
    let w' := proceed caller fuel plan w
    UpToDate known w'.Owes w' ∧ Unpassed known w w' := by
  refine proceed_owing (C := fun debts w' => UpToDate known debts w' ∧ Unpassed known w w') caller
    (fun _ h => ?_) (fun h => ?_) (fun phase h => ?_) fuel plan ⟨h, .refl w⟩
  · exact ⟨⟨h.1.texts, h.1.latest, h.1.attached, h.1.plans⟩, h.2.latest, h.2.generation, h.2.published⟩
  · exact ⟨h.1.beside (beside_note _ rfl), h.2.trans (beside_note _ rfl).unpassed⟩
  · exact (h.1.enter caller).imp_right h.2.trans

/-- The debouncer of a buffer has been taken out of use, for a new caller. -/
def release (w : Workspace ℚ) (buffer : Text) : Workspace ℚ :=
  { w with debouncerOf := w.debouncerOf.erase buffer, nextCaller := w.nextCaller + 1 }

/-- A debouncer out of use may still have a timer that goes on: to call it off is now owed. -/
theorem Timed.release {key : Nat} (h : w.Timed due asleep debts)
    (hof : w.debouncerOf.get? buffer = some key) :
    (w.release buffer).Timed due asleep fun p => debts p ∨ p = .callOffTimers key := by
  refine ⟨h.sound, h.lt, fun {x i} ho => ?_, fun {i x d} hget hc => ?_⟩
  · have ho' := (Register.get?_erase ..).symm.trans ho
    split at ho'
    · cases ho'
    · exact h.own ho'
  · rcases h.retired hget hc with ho | ho
    · by_cases hx : x = buffer
      · subst hx
        rw [hof] at ho
        cases ho
        exact .inr (.inr rfl)
      · exact .inl ((Register.get?_erase ..).trans ((if_neg hx).trans ho))
    · exact .inr (.inl ho)

/-- The timers of a buffer are called off at once when it is detached. -/
theorem detach_eq (w : Workspace ℚ) (buffer : Text) : ∃ fuel, w.detach buffer =
    match w.debouncerOf.get? buffer with
    | none => proceed w.nextCaller fuel [.forget buffer, .drop buffer] (w.release buffer)
    | some key => proceed w.nextCaller fuel
        [.timersEnded key (((w.release buffer).timersOf key).map (·.id)), .forget buffer,
          .drop buffer] ((w.release buffer).withDebouncer key Debouncer.callOffAll) := by
  unfold Workspace.detach
  cases w.debouncerOf.get? buffer with
  | none => exact ⟨_, rfl⟩
  | some key => exact ⟨4 * (3 + w.board.sheets.length), rfl⟩

/-- A buffer that is given up owes nothing to its text. -/
theorem UpToDate.giveUp (h : UpToDate known debts w) (buffer : Text)
    (hplans : ∀ {phase}, debts' phase → phase = .forget buffer ∨ phase = .drop buffer ∨
      phase.Spares known) :
    UpToDate (Workspace.learn known (some (buffer, none))) debts' (w.release buffer) := by
  have hlearn (x : Text) : Workspace.learn known (some (buffer, none)) x =
      if x = buffer then none else known x := rfl
  refine ⟨fun {x t} hk => ?_, fun {x t} hk hw => ?_, fun {x key} ho => ?_, fun {phase} hd => ?_⟩
  · rw [hlearn] at hk
    split at hk
    · cases hk
    · exact h.texts hk
  · rw [hlearn] at hk
    split at hk
    · cases hk
    · next hne =>
      refine h.latest hk fun ⟨key, ho, hpending⟩ => hw ⟨key, ?_, hpending⟩
      exact (Register.get?_erase ..).trans ((if_neg hne).trans ho)
  · have ho' := (Register.get?_erase ..).symm.trans ho
    rw [hlearn]
    split at ho'
    · cases ho'
    · next hne =>
      rw [if_neg hne]
      exact h.attached ho'
  · have hnone {x : Text} (hx : x = buffer ∨ known x = none) :
        Workspace.learn known (some (buffer, none)) x = none := by
      rw [hlearn, ite_eq_left_iff]
      exact hx.resolve_left
    rcases hplans hd with rfl | rfl | hs
    · exact hnone (.inl rfl)
    · exact hnone (.inl rfl)
    · cases phase with
      | forget x => exact hnone (.inr hs)
      | drop x => exact hnone (.inr hs)
      | _ => exact hs

theorem UpToDate.detach (h : UpToDate known w.Owes w) (ht : w.OnTime) (buffer : Text) :
    let w' := w.detach buffer
    UpToDate (Workspace.learn known (some (buffer, none))) w'.Owes w' ∧
      Unpassed (Workspace.learn known (some (buffer, none))) w w' := by
  let known' := Workspace.learn known (some (buffer, none))
  have hfirst : Unpassed known' w (w.release buffer) := ⟨fun _ _ => rfl, fun _ _ => rfl, rfl⟩
  have hothers {phase : Phase} (hd : (w.release buffer).OthersOwe w.nextCaller phase) :
      phase.Spares known := by
    obtain ⟨caller, plan, -, hget, hm⟩ := hd
    exact h.plans ⟨caller, plan, hget, hm⟩
  have hgo {fuel : Nat} {plan : List Phase} {w₁ : Workspace ℚ}
      (h₁ : UpToDate known' (fun p => p ∈ plan ∨ w₁.OthersOwe w.nextCaller p) w₁)
      (hu : Unpassed known' (w.release buffer) w₁) :
      UpToDate known' (Workspace.proceed w.nextCaller fuel plan w₁).Owes
        (Workspace.proceed w.nextCaller fuel plan w₁) ∧
      Unpassed known' w (Workspace.proceed w.nextCaller fuel plan w₁) := by
    obtain ⟨hproceed, hpassed⟩ := h₁.proceed w.nextCaller fuel plan
    exact ⟨hproceed, (hfirst.trans hu).trans hpassed⟩
  obtain ⟨fuel, he⟩ := w.detach_eq buffer
  rw [he]
  cases hof : w.debouncerOf.get? buffer with
  | none =>
    refine hgo (h.giveUp buffer fun {phase} hd => ?_) (.refl _)
    rcases hd with hd | hd
    · rcases List.mem_cons.mp hd with hd | hd
      · exact .inl hd
      · exact .inr (.inl (List.mem_singleton.mp hd))
    · exact .inr (.inr (hothers hd))
  | some key =>
    obtain ⟨d, hget⟩ := ht.timed.own hof
    have hrun (timer : Nat) : .run timer ∉ d.callOffAll.2 := by simp [Debouncer.callOffAll]
    have hch : Changes key buffer d.callOffAll (w.release buffer)
        ((w.release buffer).withDebouncer key Debouncer.callOffAll) :=
      changes_withDebouncer hget hrun
    have htimed := ht.timed.release hof
    let ended : Phase := .timersEnded key (((w.release buffer).timersOf key).map (·.id))
    have hgiven : UpToDate known' (fun p => p ∈ [ended, .forget buffer, .drop buffer] ∨
        (w.release buffer).OthersOwe w.nextCaller p) (w.release buffer) :=
      h.giveUp buffer fun {phase} hd => ?_
    · obtain ⟨hoff, hu⟩ := hgiven.changes htimed hget hch fun hk => absurd (if_pos rfl) hk
      have howe (phase : Phase) :
          ((w.release buffer).withDebouncer key Debouncer.callOffAll).OthersOwe w.nextCaller
            phase ↔ (w.release buffer).OthersOwe w.nextCaller phase := by
        rw [OthersOwe, (withDebouncer_callers _ key _).1, OthersOwe]
      exact hgo (hoff.mono fun p => Or.imp_right (howe p).mp) hu
    · rcases hd with hd | hd
      · simp only [List.mem_cons, List.not_mem_nil, or_false] at hd
        rcases hd with rfl | rfl | rfl
        · exact .inr (.inr trivial)
        · exact .inl rfl
        · exact .inr (.inl rfl)
      · exact .inr (.inr (hothers hd))

/-! Moves -/

theorem MakesNewest.of_frame {w₀ : Workspace ℚ} (h : MakesNewest known w w')
    (he : ∃ debouncers agenda, w = { w₀ with debouncers, agenda }) : MakesNewest known w₀ w' := by
  refine h.imp (fun hu => ?_) fun ⟨buffer, text, hk, hp⟩ => ⟨buffer, text, hk, hp.of_frame he⟩
  obtain ⟨debouncers, agenda, rfl⟩ := he
  exact ⟨hu.latest, hu.generation, hu.published⟩

theorem MakesNewest.beside (h : MakesNewest known w w') (hb : Beside w' w'') :
    MakesNewest known w w'' := by
  refine h.imp (fun hu => hu.trans hb.unpassed) fun ⟨buffer, text, hk, hp⟩ =>
    ⟨buffer, text, hk, hb.texts.trans hp.texts, ?_,
      fun other => (hb.generation other).trans (hp.generation other),
      hb.published.trans hp.published⟩
  rw [hb.latest, hp.latest, passOver, passOver, hb.generation]

/-- A move on the texts of buffers, or beside them. -/
def Move.IsEditing : Move → Prop
  | .event (.annotate _ _) | .event .shutdown | .event .dispose | .event (.advance _) => False
  | _ => True

theorem Move.IsEditing.isStep {m : Move} (h : m.IsEditing) : m.IsStep := by
  cases m with
  | event e =>
    cases e with
    | advance dt => exact h
    | _ => trivial
  | _ => trivial

theorem UpToDate.owing {w₀ : Workspace ℚ} (h : UpToDate known w₀.Owes w)
    (hc : w.callers = w₀.callers) : UpToDate known w.Owes w := by
  rw [owes_congr hc]
  exact h

theorem UpToDate.perform {job : Job} {rest : List Job} (h : UpToDate known w.Owes w)
    (ht : w.OnTime) (hj : w.agenda.jobs = job :: rest) :
    let w' := (w.withJobs rest).perform job
    UpToDate known w'.Owes w' ∧ MakesNewest known w w' := by
  have hpopped : UpToDate known w.Owes (w.withJobs rest) :=
    ⟨h.texts, h.latest, h.attached, h.plans⟩
  have htimed : (w.withJobs rest).Timed w.HasTurn w.HasAlarm w.Owes :=
    ⟨ht.timed.sound, ht.timed.lt, ht.timed.own, ht.timed.retired⟩
  by_cases htiming : job.IsTiming
  · cases job with
    | timer key timer =>
      obtain ⟨hturn, hmakes⟩ := hpopped.turn htimed key timer
      exact ⟨hturn.owing (withDebouncer_callers _ key _).1, hmakes.of_frame ⟨_, _, rfl⟩⟩
    | caller key =>
      unfold Workspace.perform
      dsimp only
      split
      · next plan hget =>
        have howed : UpToDate known (fun p => p ∈ plan ∨ (w.withJobs rest).OthersOwe key p)
            (w.withJobs rest) := by
          refine hpopped.mono fun p hp => ?_
          rcases hp with hp | ⟨other, plan', -, hget', hp⟩
          · exact ⟨key, plan, hget, hp⟩
          · exact ⟨other, plan', hget', hp⟩
        obtain ⟨hproceed, hu⟩ := howed.proceed key ((w.withJobs rest).planLength plan) plan
        exact ⟨hproceed, .inl ⟨hu.latest, hu.generation, hu.published⟩⟩
      · exact ⟨hpopped, .inl ⟨fun _ _ => rfl, fun _ _ => rfl, rfl⟩⟩
    | _ => exact htiming.elim
  · have hbeside := beside_perform (w.withJobs rest) htiming
    exact ⟨(hpopped.beside hbeside).owing hbeside.callers,
      .inl ⟨hbeside.unpassed.latest, hbeside.unpassed.generation, hbeside.published⟩⟩

theorem UpToDate.work (h : UpToDate known w.Owes w) (ht : w.OnTime) :
    UpToDate known w.work.Owes w.work ∧ MakesNewest known w w.work := by
  unfold Workspace.work Agenda.nextJob?
  cases hj : w.agenda.jobs with
  | nil => exact ⟨h, .inl (.refl w)⟩
  | cons job rest =>
    obtain ⟨hp, hmakes⟩ := h.perform ht hj
    have hbeside := beside_callCallers ((w.withJobs rest).perform job)
    exact ⟨(hp.beside hbeside).owing hbeside.callers, hmakes.beside hbeside⟩

/-- A pass over a text that comes from outside. -/
theorem UpToDate.given (h : UpToDate known w.Owes w) (hl : ¬ w.IsLeaving buffer) (text : Text) :
    let known' := Workspace.learn known (some (buffer, some text))
    let w' := (w.runPass buffer text).2
    UpToDate known' w'.Owes w' ∧ MakesNewest known' w w' := by
  have hkeeps := keepsTimers_runPass w buffer text
  have hpass := isPass_runPass w buffer text
  have hnext := h.pass (hkeeps.aloof buffer) hpass fun hd => (h.plans hd).learn
    (fun he => hl (.inl (he ▸ hd))) fun he => hl (.inr (he ▸ hd))
  exact ⟨hnext.owing hkeeps.callers, .inr ⟨buffer, text, if_pos rfl, hpass⟩⟩

theorem UpToDate.event (h : UpToDate known w.Owes w) (ht : w.OnTime) {e : Event ℚ}
    (he : Move.IsEditing (.event e))
    (hl : ∀ buffer text, w.news? (.event e) = some (buffer, some text) → ¬ w.IsLeaving buffer) :
    let known' := Workspace.learn known (w.news? (.event e))
    UpToDate known' (w.step e).Owes (w.step e) ∧ MakesNewest known' w (w.step e) := by
  have hbeside {w' : Workspace ℚ} (hb : Beside w w') :
      UpToDate known w'.Owes w' ∧ MakesNewest known w w' :=
    ⟨(h.beside hb).owing hb.callers, .inl hb.unpassed⟩
  cases e with
  | runPass buffer text => exact h.given (hl _ _ rfl) text
  | attach buffer path text =>
    simp only [news?, Workspace.step, attach] at hl ⊢
    split
    · next heligible => exact h.given (hl _ _ (if_pos heligible)) text
    · exact hbeside (beside_note w rfl)
  | notify buffer text =>
    have hleaving := hl _ _ rfl
    obtain ⟨hnotify, hu⟩ := h.notify ht.timed text fun hd => (h.plans hd).learn
      (fun he => hleaving (.inl (he ▸ hd))) fun he => hleaving (.inr (he ▸ hd))
    exact ⟨hnotify.owing (notify_callers w buffer text).1, .inl (hu _)⟩
  | flush buffer =>
    obtain ⟨hflush, hmakes⟩ := h.flush ht.timed buffer
    exact ⟨hflush.owing (flush_callers w buffer).1, hmakes⟩
  | settle buffer =>
    have hnext : Unpassed known w { w with nextCaller := w.nextCaller + 1 } :=
      ⟨fun _ _ => rfl, fun _ _ => rfl, rfl⟩
    have howed : UpToDate known (fun p => p ∈ w.settlePlan buffer ∨
        OthersOwe { w with nextCaller := w.nextCaller + 1 } w.nextCaller p)
        { w with nextCaller := w.nextCaller + 1 } := by
      refine ⟨h.texts, h.latest, h.attached, fun {phase} hd => ?_⟩
      rcases hd with hd | ⟨caller, plan, -, hget, hm⟩
      · unfold settlePlan at hd
        split at hd
        · simp only [List.cons_append, List.nil_append, List.mem_cons, List.not_mem_nil,
            or_false] at hd
          rcases hd with rfl | rfl <;> trivial
        · rw [List.nil_append, List.mem_singleton] at hd
          rw [hd]
          trivial
      · exact h.plans ⟨caller, plan, hget, hm⟩
    obtain ⟨hproceed, hu⟩ := howed.proceed w.nextCaller
      (planLength { w with nextCaller := w.nextCaller + 1 } (w.settlePlan buffer))
      (w.settlePlan buffer)
    exact ⟨hproceed, .inl (hnext.trans hu)⟩
  | detach buffer =>
    obtain ⟨hdetach, hu⟩ := h.detach ht buffer
    exact ⟨hdetach, .inl hu⟩
  | work => exact h.work ht
  | annotate buffer text => exact he.elim
  | shutdown => exact he.elim
  | dispose => exact he.elim
  | advance dt => exact he.elim
  | _ => exact hbeside (beside_step w trivial)

theorem UpToDate.ring {alarm : Alarm} {alarms : List (ℚ × Alarm)}
    (h : UpToDate known w.Owes w) (ht : w.OnTime) :
    let w' := Workspace.ring (w.withAlarms alarms) alarm
    UpToDate known w'.Owes w' ∧ MakesNewest known w w' := by
  have hpopped : UpToDate known w.Owes (w.withAlarms alarms) :=
    ⟨h.texts, h.latest, h.attached, h.plans⟩
  have hbeside {w' : Workspace ℚ} (hb : Beside (w.withAlarms alarms) w') :
      UpToDate known w'.Owes w' ∧ MakesNewest known w w' :=
    ⟨(hpopped.beside hb).owing hb.callers,
      .inl ⟨hb.unpassed.latest, hb.unpassed.generation, hb.published⟩⟩
  cases alarm with
  | timer key timer =>
    have htimed : (w.withAlarms alarms).Timed w.HasTurn w.HasAlarm w.Owes :=
      ⟨ht.timed.sound, ht.timed.lt, ht.timed.own, ht.timed.retired⟩
    obtain ⟨hwake, hu⟩ := hpopped.wake htimed key timer
    exact ⟨hwake.owing (withDebouncer_callers _ key _).1,
      .inl ⟨hu.latest, hu.generation, hu.published⟩⟩
  | limiter r => exact hbeside (beside_applyDesk _ _)
  | reply r reply => exact hbeside (beside_soon _ _)

theorem UpToDate.move {m : Move} (h : UpToDate known w.Owes w) (ht : w.OnTime) (hm : m.IsEditing)
    (hl : ∀ buffer text, w.news? m = some (buffer, some text) → ¬ w.IsLeaving buffer) :
    let known' := Workspace.learn known (w.news? m)
    UpToDate known' (w.move m).Owes (w.move m) ∧ MakesNewest known' w (w.move m) := by
  cases m with
  | event e => exact h.event ht hm hl
  | ring =>
    simp only [Workspace.move]
    split
    · exact ⟨h, .inl (.refl w)⟩
    · exact h.ring ht
  | wait time =>
    simp only [Workspace.move]
    split
    · exact ⟨⟨h.texts, h.latest, h.attached, h.plans⟩, .inl ⟨fun _ _ => rfl, fun _ _ => rfl, rfl⟩⟩
    · exact ⟨h, .inl (.refl w)⟩

theorem upToDate_new (p : Plan ℚ) (now : ℚ) :
    UpToDate (fun _ => none) (new p now).Owes (new p now) := by
  refine ⟨nofun, nofun, nofun, ?_⟩
  rintro phase ⟨caller, plan, hget, -⟩
  cases hget

theorem upToDate_run (p : Plan ℚ) (now : ℚ) {moves : List Move} (hm : ∀ m ∈ moves, m.IsEditing)
    (hu : (new p now).Undisturbed moves) :
    let w := (new p now).runMoves moves
    w.OnTime ∧ UpToDate ((new p now).lastTexts (fun _ => none) moves) w.Owes w := by
  induction moves using List.reverseRecOn with
  | nil => exact ⟨onTime_new p now, upToDate_new p now⟩
  | append_singleton moves m ih =>
    obtain ⟨hrest, hlast⟩ := undisturbed_concat.mp hu
    obtain ⟨ht, hd⟩ := ih (fun m' hm' => hm m' (List.mem_append_left _ hm')) hrest
    have hedit : m.IsEditing := hm m (by simp)
    rw [lastTexts_concat, show (new p now).runMoves (moves ++ [m]) =
      ((new p now).runMoves moves).move m by simp [runMoves]]
    exact ⟨ht.move hedit.isStep, (hd.move ht hedit hlast).1⟩

/-- A timer of the buffer waits, and it has a turn coming or an alarm set. -/
def WillTurn (w : Workspace ℚ) (buffer : Text) : Prop :=
  ∃ key d timer, w.debouncerOf.get? buffer = some key ∧
    w.debouncers.get? key = some (buffer, d) ∧ d.current = some timer ∧
    (w.HasTurn key timer ∨ w.HasAlarm key timer)

theorem OnTime.willTurn (h : w.OnTime) (hw : w.Waits buffer) : w.WillTurn buffer := by
  obtain ⟨key, hof, hpending⟩ := hw
  obtain ⟨d, hget⟩ := h.timed.own hof
  rw [isPending_eq w hget] at hpending
  obtain ⟨timer, hc⟩ := Option.isSome_iff_exists.mp hpending
  refine ⟨key, d, timer, hof, hget, hc, ?_⟩
  have hs := h.timed.sound hget
  obtain ⟨t, ht, rfl, hoff⟩ := hs.current timer hc
  by_cases hsleeps : t.stage = .sleeping
  · exact .inr ((hs.attended t ht).alarm hoff hsleeps)
  · exact .inl ((hs.attended t ht).turn (.inr hsleeps))

/-- What holds after passes, changes, flushes and detaches in any order, if no buffer gets a text
while its own detach is suspended. A buffer without a waiting timer has the pass over its last text,
in its present generation. A timer that waits has its turn still to come, when the pass will be over
the text of that time. And no move makes a pass over any other text. -/
theorem newest_text_wins (p : Plan ℚ) (now : ℚ) {moves : List Move} (hm : ∀ m ∈ moves, m.IsEditing)
    (hu : (new p now).Undisturbed moves) :
    let w := (new p now).runMoves moves
    (∀ buffer text, (new p now).lastTexts (fun _ => none) moves buffer = some text →
      w.texts.get? buffer = some text ∧
      (¬ w.Waits buffer → w.latest.get? buffer = some (w.passOver buffer text)) ∧
      (w.Waits buffer → w.WillTurn buffer)) ∧
    ∀ before m after, moves = before ++ m :: after →
      MakesNewest ((new p now).lastTexts (fun _ => none) (before ++ [m]))
        ((new p now).runMoves before) ((new p now).runMoves (before ++ [m])) := by
  intro w
  obtain ⟨ht, hd⟩ := upToDate_run p now hm hu
  refine ⟨fun buffer text hk => ⟨hd.texts hk, hd.latest hk, ht.willTurn⟩, ?_⟩
  rintro before m after rfl
  rw [List.append_cons] at hu hm
  have hfirst : (new p now).Undisturbed (before ++ [m]) := hu.of_append
  obtain ⟨hrest, hlast⟩ := undisturbed_concat.mp hfirst
  obtain ⟨ht', hd'⟩ := upToDate_run p now (fun m' hm' => hm m' (by simp [hm'])) hrest
  rw [lastTexts_concat, show (new p now).runMoves (before ++ [m]) =
    ((new p now).runMoves before).move m by simp [runMoves]]
  exact (hd'.move ht' (hm m (by simp)) hlast).2

/-- A pass over a second text is made from outside while the timer for the first one sleeps. -/
def passedWhileAsleep : List Move :=
  [.event (.notify ['a'] ['x']), .event .work, .event (.runPass ['a'] ['y']), .ring, .event .work]

theorem newest_text_wins_passedWhileAsleep :
    (∀ m ∈ passedWhileAsleep, m.IsEditing) ∧
      (new { emptyPlan with pause := 1 } 0).Undisturbed passedWhileAsleep ∧
      ((new { emptyPlan with pause := 1 } 0).runMoves passedWhileAsleep).latest.get? ['a'] =
        some (((new { emptyPlan with pause := 1 } 0).runMoves passedWhileAsleep).passOver
          ['a'] ['y']) ∧
      ((new { emptyPlan with pause := 1 } 0).runMoves passedWhileAsleep).board.generation ['a'] =
        2 := by
  have hm : ∀ m ∈ passedWhileAsleep, m.IsEditing := by simp [passedWhileAsleep, Move.IsEditing]
  have hquiet {w : Workspace ℚ} (hc : w.callers = []) (buffer : Text) : ¬ w.IsLeaving buffer := by
    rintro (⟨caller, plan, hget, -⟩ | ⟨caller, plan, hget, -⟩) <;>
    · rw [hc] at hget
      cases hget
  have hu : (new { emptyPlan with pause := 1 } 0).Undisturbed passedWhileAsleep :=
    ⟨fun _ _ _ => hquiet (by decide +kernel) _, nofun, fun _ _ _ => hquiet (by decide +kernel) _,
      nofun, nofun, trivial⟩
  obtain ⟨hlatest, -⟩ := newest_text_wins { emptyPlan with pause := 1 } 0 hm hu
  have hwaits : ¬ ((new { emptyPlan with pause := 1 } 0).runMoves passedWhileAsleep).Waits
      ['a'] := by
    rintro ⟨key, hof, hpending⟩
    have hkey : ((new { emptyPlan with pause := 1 } 0).runMoves
        passedWhileAsleep).debouncerOf.get? ['a'] = some 0 := by decide +kernel
    rw [hkey] at hof
    cases hof
    exact absurd hpending (by decide +kernel)
  exact ⟨hm, hu, (hlatest ['a'] ['y'] (by decide +kernel)).2.1 hwaits, by decide +kernel⟩

end CommitMessage.Workspace
