import CommitMessage.Schedule.Limiter
import CommitMessage.Proofs.ExactTime
import Mathlib

/-! The line at the limiter when nobody gives up. While the slot is held, all in the line wait for
the holder; when it is free, the first has been called. A holder sleeps until the interval is over,
and then it is granted the slot. -/

namespace CommitMessage.Limiter

variable {ι : Type} {l : Limiter ℚ ι} {c : ι}

def clients (l : Limiter ℚ ι) : List ι := (l.holder.map (·.1)).toList ++ l.line.map (·.1)

structure Fair (l : Limiter ℚ ι) : Prop where
  nodup : l.clients.Nodup
  holding : ∀ c h, l.holder = some (c, h) → h ≠ .leaving
  held : l.holder ≠ none → ∀ e ∈ l.line, e.2 = .waiting
  free : l.holder = none → ∀ first rest, l.line = first :: rest →
    first.2 = .called ∧ ∀ e ∈ rest, e.2 = .waiting

theorem fair_new (interval : ℚ) : Fair ({ interval } : Limiter ℚ ι) := by
  refine ⟨List.nodup_nil, nofun, fun h => absurd rfl h, fun _ first rest h => ?_⟩
  cases h

/-- The line when its first has been called. -/
def callFirst : List (ι × Standing) → List (ι × Standing)
  | (c, .waiting) :: rest => (c, .called) :: rest
  | line => line

def callSignals : List (ι × Standing) → List (Signal ℚ ι)
  | (c, .waiting) :: _ => [.turn c]
  | _ => []

def granting (l : Limiter ℚ ι) (now : ℚ) : Limiter ℚ ι :=
  { l with lastGrant := some now, holder := none, line := callFirst l.line }

@[simp] theorem callFirst_clients (line : List (ι × Standing)) :
    (callFirst line).map (·.1) = line.map (·.1) := by
  unfold callFirst
  split <;> rfl

theorem callNext_eq (l : Limiter ℚ ι) :
    l.callNext = ({ l with line := callFirst l.line }, callSignals l.line) := by
  obtain ⟨interval, lastGrant, holder, line⟩ := l
  cases line with
  | nil => rfl
  | cons first rest =>
    obtain ⟨client, standing⟩ := first
    cases standing <;> rfl

/-- The slot is not free yet, and the client sleeps until it is; or it is granted. -/
theorem attempt_cases (l : Limiter ℚ ι) (now : ℚ) (c : ι) :
    (∃ last delay, l.lastGrant = some last ∧ now + delay = last + l.interval ∧
      now < last + l.interval ∧
      l.attempt now c = ({ l with holder := some (c, .sleeping) }, [.sleep c delay])) ∨
    (∀ last, l.lastGrant = some last → last + l.interval ≤ now) ∧
      l.attempt now c = (l.granting now, callSignals l.line ++ [.granted c]) := by
  rcases Option.eq_none_or_eq_some l.lastGrant with hl | ⟨last, hl⟩
  · refine .inr ⟨by simp [hl], ?_⟩
    have ht : l.tryAcquire now = (0, { l with lastGrant := some now }) := by
      simp [tryAcquire, hl]
    simp only [attempt, ht, lt_irrefl, if_false, release, callNext_eq]
    rfl
  · by_cases he : now - last < l.interval
    · have ht : l.tryAcquire now = (l.interval - (now - last), l) := by
        simp [tryAcquire, hl, he]
      have hpos : 0 < l.interval - (now - last) := by linarith
      refine .inl ⟨last, l.interval - (now - last), hl, by linarith, by linarith, ?_⟩
      simp only [attempt, ht, hpos, if_true]
    · have ht : l.tryAcquire now = (0, { l with lastGrant := some now }) := by
        simp [tryAcquire, hl, he]
      refine .inr ⟨fun last' hlast => ?_, ?_⟩
      · rw [hl] at hlast
        cases hlast
        linarith
      · simp only [attempt, ht, lt_irrefl, if_false, release, callNext_eq]
        rfl

/-! What comes of the calls of a fair limiter -/

theorem Fair.waiting_or_called (h : l.Fair) {e : ι × Standing} (he : e ∈ l.line) :
    e.2 = .waiting ∨ e.2 = .called := by
  cases hh : l.holder with
  | some holder => exact .inl (h.held (by simp [hh]) e he)
  | none =>
    obtain ⟨first, rest, hl⟩ := List.exists_cons_of_ne_nil (List.ne_nil_of_mem he)
    obtain ⟨hfirst, hrest⟩ := h.free hh first rest hl
    rw [hl] at he
    rcases List.mem_cons.mp he with rfl | he
    · exact .inr hfirst
    · exact .inl (hrest e he)

theorem request_cases (h : l.Fair) (now : ℚ) (c : ι) :
    (l.holder = none ∧ l.line = [] ∧ l.request now c = l.attempt now c) ∨
      (l.holder = none → l.line ≠ []) ∧
        l.request now c = ({ l with line := l.line ++ [(c, .waiting)] }, []) := by
  cases hh : l.holder with
  | some holder => exact .inr ⟨nofun, by simp [request, hh]⟩
  | none =>
    cases hl : l.line with
    | nil => exact .inl ⟨rfl, rfl, by simp [request, hh, hl]⟩
    | cons first rest =>
      obtain ⟨hfirst, -⟩ := h.free hh first rest hl
      exact .inr ⟨fun _ => by simp, by simp [request, hh, hl, hfirst]⟩

section

variable [DecidableEq ι]

theorem mem_of_lookup {line : List (ι × Standing)} {s : Standing} (h : line.lookup c = some s) :
    (c, s) ∈ line := by
  induction line with
  | nil => cases h
  | cons first line ih =>
    rw [List.lookup_cons] at h
    split at h
    · rename_i he
      cases h
      rw [eq_of_beq he]
      exact List.mem_cons_self
    · exact List.mem_cons_of_mem _ (ih h)

/-- The turn of one who is awake or called is an attempt; any other turn changes nothing. -/
theorem turn_cases (h : l.Fair) (now : ℚ) (c : ι) :
    (l.holder = some (c, .awake) ∧ l.turn now c = l.attempt now c) ∨
    (l.holder = none ∧ ∃ rest, l.line = (c, .called) :: rest ∧
      l.turn now c = { l with line := rest }.attempt now c) ∨
    l.holder ≠ some (c, .awake) ∧ (c, .called) ∉ l.line ∧ l.turn now c = (l, []) := by
  have hline : (l.line.map (·.1)).Nodup := (List.nodup_append.mp h.nodup).2.1
  cases hh : l.holder with
  | some held =>
    obtain ⟨holder, holding⟩ := held
    have hwait : (c, .called) ∉ l.line := fun hm => by
      cases h.held (by simp [hh]) _ hm
    by_cases hc : holder = c
    · subst hc
      cases holding with
      | sleeping => exact .inr (.inr ⟨by simp, hwait, by simp [turn, hh]⟩)
      | awake => exact .inl ⟨rfl, by simp [turn, hh]⟩
      | leaving => exact absurd rfl (h.holding _ _ hh)
    · refine .inr (.inr ⟨by simp [hc], hwait, ?_⟩)
      simp only [turn, hh, if_neg hc]
      cases hl : l.line.lookup c with
      | none => rfl
      | some s =>
        have hs : s = .waiting := h.held (by simp [hh]) _ (mem_of_lookup hl)
        simp only [hs, turnInLine]
  | none =>
    by_cases hc : (c, .called) ∈ l.line
    · obtain ⟨first, rest, hl⟩ := List.exists_cons_of_ne_nil (List.ne_nil_of_mem hc)
      obtain ⟨hfirst, hrest⟩ := h.free hh first rest hl
      rw [hl] at hc hline
      rcases List.mem_cons.mp hc with rfl | hc
      · refine .inr (.inl ⟨rfl, rest, hl, ?_⟩)
        have hdrop : l.dropFromLine c = { l with line := rest } := by
          have hn := (List.nodup_cons.mp hline).1
          have hkept : rest.filter (fun e => e.1 ≠ c) = rest :=
            List.filter_eq_self.mpr fun e he => by
              simpa using fun hec : e.1 = c => hn (List.mem_map.mpr ⟨e, he, hec⟩)
          rw [dropFromLine, hl, List.filter_cons_of_neg (by simp), hkept]
        have hlook : l.line.lookup c = some .called := by rw [hl]; exact List.lookup_cons_self
        simp only [turn, hh, hlook, turnInLine, hdrop]
      · cases hrest _ hc
    · refine .inr (.inr ⟨nofun, hc, ?_⟩)
      simp only [turn, hh]
      cases hl : l.line.lookup c with
      | none => rfl
      | some s =>
        have hm := mem_of_lookup hl
        rcases h.waiting_or_called hm with hs | hs
        · simp only at hs
          simp only [hs, turnInLine]
        · simp only at hs
          exact absurd (hs ▸ hm) hc

theorem wake_cases (l : Limiter ℚ ι) (c : ι) :
    (l.holder = some (c, .sleeping) ∧
      l.wake c = ({ l with holder := some (c, .awake) }, [.turn c])) ∨
    l.holder ≠ some (c, .sleeping) ∧ l.wake c = (l, []) := by
  cases hh : l.holder with
  | none => exact .inr ⟨nofun, by simp [wake, hh]⟩
  | some held =>
    obtain ⟨holder, holding⟩ := held
    by_cases hc : holder = c
    · subst hc
      cases holding with
      | sleeping => exact .inl ⟨rfl, by simp [wake, hh]⟩
      | awake => exact .inr ⟨by simp, by simp [wake, hh]⟩
      | leaving => exact .inr ⟨by simp, by simp [wake, hh]⟩
    · refine .inr ⟨by simp [hc], ?_⟩
      cases holding <;> simp [wake, hh, hc]

end

end CommitMessage.Limiter
