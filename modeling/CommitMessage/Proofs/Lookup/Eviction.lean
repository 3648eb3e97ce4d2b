import CommitMessage.Lookup.Cache
import CommitMessage.Proofs.ExactTime
import CommitMessage.Proofs.Register
import Mathlib

/-! A cache that sweeps finds the same as a ledger that keeps everything. A sweep takes out what is
not fresh, and what is not fresh once never becomes fresh again. -/

namespace CommitMessage.Cache

inductive Call where
  | put (r : Reference) (e : Entry ℚ)
  | get (r : Reference)
  | sweep
  | clear

def call (c : Cache ℚ) (now : ℚ) : Call → Cache ℚ
  | .put r e => (c.put now r e).2
  | .get _ => c
  | .sweep => (c.sweep now).2
  | .clear => c.clear

def run (c : Cache ℚ) (calls : List (ℚ × Call)) : Cache ℚ :=
  calls.foldl (fun c entry => c.call entry.1 entry.2) c

/-- What was last put under each reference since all was last cleared. -/
abbrev Ledger := Reference → Option (Entry ℚ)

def Ledger.call (l : Ledger) : Call → Ledger
  | .put r e => fun r' => if r' = r then some e else l r'
  | .get _ | .sweep => l
  | .clear => fun _ => none

def Ledger.run (l : Ledger) (calls : List (ℚ × Call)) : Ledger :=
  calls.foldl (fun l entry => l.call entry.2) l

variable {c : Cache ℚ} {l : Ledger} {past now : ℚ}

/-! Freshness -/

theorem isFresh_earlier {r : Reference} {e : Entry ℚ} (hle : past ≤ now)
    (h : c.isFresh now r e = true) : c.isFresh past r e = true := by
  simp only [isFresh, decide_eq_true_eq] at h ⊢
  linarith

@[simp] theorem lifetime_call (c : Cache ℚ) (now : ℚ) (call : Call) :
    (c.call now call).lifetime = c.lifetime := by
  cases call with
  | put r e =>
    by_cases h : c.capacity < c.entries.length
    · simp [Cache.call, put, h, sweep]
    · simp [Cache.call, put, h]
  | get r => rfl
  | sweep => rfl
  | clear => rfl

@[simp] theorem capacity_call (c : Cache ℚ) (now : ℚ) (call : Call) :
    (c.call now call).capacity = c.capacity := by
  cases call with
  | put r e =>
    by_cases h : c.capacity < c.entries.length
    · simp [Cache.call, put, h, sweep]
    · simp [Cache.call, put, h]
  | get r => rfl
  | sweep => rfl
  | clear => rfl

/-! Sweeps -/

theorem get?_sweep (hnd : c.entries.keys.Nodup) (now : ℚ) (r : Reference) :
    (c.sweep now).2.entries.get? r = (c.entries.get? r).filter (c.isFresh now r) := by
  rw [sweep]
  exact Register.get?_filter hnd _ r

theorem sweep_count (c : Cache ℚ) (now : ℚ) :
    (c.sweep now).1 = (c.entries.filter fun entry => !c.isFresh now entry.1 entry.2).length := by
  have hsplit := List.length_eq_length_filter_add
    (l := c.entries) fun entry => c.isFresh now entry.1 entry.2
  simp only [sweep]
  omega

theorem put_cases (c : Cache ℚ) (now : ℚ) (r : Reference) (e : Entry ℚ) :
    (c.entries.length ≤ c.capacity ∧
      (c.put now r e).2.entries = c.entries.set r e) ∨
    (c.put now r e).2.entries = (c.sweep now).2.entries.set r e := by
  by_cases h : c.capacity < c.entries.length
  · exact .inr (by simp [put, h])
  · exact .inl ⟨not_lt.mp h, by simp [put, h]⟩

/-- A put leaves no more entries than one above the capacity, or none that is stale but its own. -/
theorem put_bounded (c : Cache ℚ) (now : ℚ) (r : Reference) (e : Entry ℚ) :
    ((c.put now r e).2.entries.length ≤ c.capacity + 1) ∨
      ∀ entry ∈ (c.put now r e).2.entries, entry.1 ≠ r →
        c.isFresh now entry.1 entry.2 = true := by
  rcases put_cases c now r e with ⟨hroom, he⟩ | he
  · left
    have hlength := Register.length_set_le c.entries r e
    rw [he]
    omega
  · right
    intro entry hm hne
    rw [he] at hm
    rcases Register.mem_set hm with rfl | hm
    · exact absurd rfl hne
    · exact (List.mem_filter.mp hm).2

/-! The ledger -/

/-- The cache has what the ledger has, except for what is not fresh any more. -/
structure Mirrors (c : Cache ℚ) (l : Ledger) (now : ℚ) : Prop where
  nodup : c.entries.keys.Nodup
  agrees : ∀ r, c.entries.get? r = l r ∨
    c.entries.get? r = none ∧ ∀ e, l r = some e → c.isFresh now r e = false

theorem Mirrors.later (h : c.Mirrors l past) (hle : past ≤ now) : c.Mirrors l now := by
  refine ⟨h.nodup, fun r => (h.agrees r).imp_right fun ⟨hnone, hstale⟩ => ⟨hnone, ?_⟩⟩
  intro e he
  by_contra hfresh
  have hbefore := isFresh_earlier hle (by simpa using hfresh)
  simp [hstale e he] at hbefore

theorem Mirrors.get? (h : c.Mirrors l now) (r : Reference) :
    c.get? now r = (l r).filter (c.isFresh now r) := by
  rw [Cache.get?]
  rcases h.agrees r with he | ⟨hnone, hstale⟩
  · rw [he]
  · rw [hnone, Option.filter_none, eq_comm, Option.filter_eq_none_iff]
    intro e he
    simp [hstale e he]

theorem Mirrors.sweep (h : c.Mirrors l now) : (c.sweep now).2.Mirrors l now := by
  refine ⟨Register.nodup_keys_filter h.nodup _, fun r => ?_⟩
  rw [get?_sweep h.nodup]
  rcases h.agrees r with he | ⟨hnone, hstale⟩
  · rw [he]
    cases hl : l r with
    | none => exact .inl rfl
    | some e =>
      cases hf : c.isFresh now r e with
      | true => exact .inl (by simp [Option.filter, hf])
      | false =>
        refine .inr ⟨by simp [Option.filter, hf], fun e' he' => ?_⟩
        rw [← Option.some.inj he']
        exact hf
  · exact .inr ⟨by simp [hnone], hstale⟩

theorem Mirrors.set {c' : Cache ℚ} (h : c.Mirrors l now) (r : Reference) (e : Entry ℚ)
    (hl : c'.lifetime = c.lifetime) (he : c'.entries = c.entries.set r e) :
    c'.Mirrors (l.call (.put r e)) now := by
  have hfresh (r : Reference) (e : Entry ℚ) : c'.isFresh now r e = c.isFresh now r e := by
    simp only [isFresh, hl]
  refine ⟨he ▸ Register.nodup_keys_set h.nodup, fun r' => ?_⟩
  rw [he, Register.get?_set]
  by_cases hr : r' = r
  · exact .inl (by simp [Ledger.call, hr])
  · simp only [Ledger.call, hr, if_false, hfresh]
    exact h.agrees r'

theorem Mirrors.call (h : c.Mirrors l now) (call : Call) :
    (c.call now call).Mirrors (l.call call) now := by
  cases call with
  | put r e =>
    have hl : (c.put now r e).2.lifetime = c.lifetime := lifetime_call c now (.put r e)
    rcases put_cases c now r e with ⟨-, he⟩ | he
    · exact h.set r e hl he
    · exact h.sweep.set r e hl he
  | get r => exact h
  | sweep => exact h.sweep
  | clear => exact ⟨List.nodup_nil, fun r => .inl rfl⟩

theorem mirrors_new (capacity : Int) (lifetime : Reference.Kind → ℚ) (now : ℚ) :
    ({ capacity, lifetime } : Cache ℚ).Mirrors (fun _ => none) now :=
  ⟨List.nodup_nil, fun _ => .inl rfl⟩

theorem Mirrors.run {calls : List (ℚ × Call)} (h : c.Mirrors l past)
    (hclock : (past :: calls.map (·.1) ++ [now]).Pairwise (· ≤ ·)) :
    (c.run calls).Mirrors (l.run calls) now := by
  induction calls generalizing c l past with
  | nil => exact h.later (by simpa using hclock)
  | cons entry calls ih =>
    obtain ⟨hfirst, hrest⟩ := List.pairwise_cons.mp hclock
    have hle : past ≤ entry.1 := hfirst _ (by simp)
    exact ih ((h.later hle).call entry.2) hrest

theorem run_config (c : Cache ℚ) (calls : List (ℚ × Call)) :
    (c.run calls).lifetime = c.lifetime ∧ (c.run calls).capacity = c.capacity := by
  induction calls generalizing c with
  | nil => exact ⟨rfl, rfl⟩
  | cons entry calls ih => simpa [Cache.run] using ih (c.call entry.1 entry.2)

/-- What holds of a cache after any calls, at a time that is not before theirs. It finds exactly
what was last put since the last clear and is still fresh; a sweep takes out what is not fresh, no
more and no less, and says how much that was; and a put leaves no more entries than one above the
capacity, unless all others are fresh. -/
theorem eviction_invisible (capacity : Int) (lifetime : Reference.Kind → ℚ)
    {calls : List (ℚ × Call)} {now : ℚ}
    (hclock : (calls.map (·.1) ++ [now]).Pairwise (· ≤ ·)) :
    let c := ({ capacity, lifetime } : Cache ℚ).run calls
    let l := Ledger.run (fun _ => none) calls
    let stays := fun (r : Reference) (e : Entry ℚ) => decide (now - e.time < lifetime r.kind)
    (∀ r, c.get? now r = (l r).filter (stays r)) ∧
    ((∀ r, (c.sweep now).2.entries.get? r = (c.entries.get? r).filter (stays r)) ∧
      (c.sweep now).1 = (c.entries.filter fun entry => !stays entry.1 entry.2).length) ∧
    ∀ r e, let c' := (c.put now r e).2
      c'.entries.length ≤ capacity + 1 ∨
        ∀ entry ∈ c'.entries, entry.1 ≠ r → stays entry.1 entry.2 = true := by
  intro c l stays
  obtain ⟨hlifetime, hcapacity⟩ := run_config ({ capacity, lifetime } : Cache ℚ) calls
  have hstays : c.isFresh now = stays := by
    funext r e
    simp only [isFresh, c, hlifetime, stays]
  -- the clock may stand anywhere before the first call
  have hstart : ∃ past, (past :: calls.map (·.1) ++ [now]).Pairwise (· ≤ ·) := by
    cases calls with
    | nil => exact ⟨now, by simp⟩
    | cons entry calls =>
      refine ⟨entry.1, List.pairwise_cons.mpr ⟨fun time ht => ?_, hclock⟩⟩
      rcases List.mem_cons.mp ht with rfl | ht
      · exact le_refl _
      · exact (List.pairwise_cons.mp hclock).1 time ht
  obtain ⟨past, hstart⟩ := hstart
  have h : c.Mirrors l now := (mirrors_new capacity lifetime past).run hstart
  refine ⟨fun r => ?_, ⟨fun r => ?_, ?_⟩, fun r e => ?_⟩
  · rw [h.get?, hstays]
  · rw [get?_sweep h.nodup, hstays]
  · rw [sweep_count, hstays]
  · have hput := put_bounded c now r e
    rwa [hstays, show c.capacity = capacity from hcapacity] at hput

/-- Room for one entry. The ticket is replaced by an older answer, and a sweep takes that out. -/
def crowded : List (ℚ × Call) :=
  [(0, .put ⟨.ticket, ['1']⟩ ⟨⟨true, none⟩, 0⟩), (1, .put ⟨.profile, ['a']⟩ ⟨⟨true, none⟩, 1⟩),
    (2, .put ⟨.ticket, ['1']⟩ ⟨⟨false, none⟩, -2⟩), (3, .put ⟨.ticket, ['2']⟩ ⟨⟨true, none⟩, 3⟩)]

theorem eviction_invisible_crowded :
    let lifetime := fun kind : Reference.Kind => (standardLifetime kind / 100 : ℚ)
    let c := ({ capacity := 1, lifetime } : Cache ℚ).run crowded
    let l := Ledger.run (fun _ => none) crowded
    (crowded.map Prod.fst ++ [6]).Pairwise (· ≤ ·) ∧
      c.entries.keys = [⟨.profile, ['a']⟩, ⟨.ticket, ['2']⟩] ∧
      (l ⟨.ticket, ['1']⟩).isSome = true ∧
      c.get? 6 ⟨.ticket, ['1']⟩ = (l ⟨.ticket, ['1']⟩).filter
        (fun e => 6 - e.time < lifetime .ticket) ∧
      (c.sweep 6).1 = 1 := by
  intro lifetime c l
  have hclock : (crowded.map Prod.fst ++ [6]).Pairwise (· ≤ ·) := by decide +kernel
  obtain ⟨hget, -, -⟩ := eviction_invisible 1 lifetime hclock
  exact ⟨hclock, by decide +kernel, by decide +kernel, hget _, by decide +kernel⟩

end CommitMessage.Cache
