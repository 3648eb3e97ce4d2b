import CommitMessage.Proofs.Workspace.Runs

/-! Lookups share their fetches. Each reference has one fetch at most, whoever gives up disturbs no
one else, all who wait for a fetch get one outcome, and a fetch that is over makes room for the
next. -/

namespace CommitMessage

namespace Desk

variable {κ : Type}

end Desk

namespace Workspace

open Desk (Happening Since)
open Desk.Traffic (Step Steps)

variable {w w' : Workspace ℚ} {p : Plan ℚ} {history : List (Happening Asker)} {r : Reference}

/-! What is under way -/

/-- One who asks starts a fetch. -/
def Starts (w : Workspace ℚ) (asker : Asker) (pass : Option Text) (r : Reference) : Prop :=
  (∀ f ∈ w.desk.fetches, f.reference ≠ r) ∧
    w.ask asker pass r = (none, Workspace.soon { w with
      desk.fetches := w.desk.fetches ++ [{ reference := r, pass, callers := [asker] }] }
      (.fetch r))

/-- One who asks for what the cache does not know joins the fetch of the reference, or has its
outcome if it is over already, or starts one; and changes nothing else. -/
inductive Shares (w : Workspace ℚ) (asker : Asker) (pass : Option Text) (r : Reference) : Prop
  | joins {older newer : List (Desk.Fetch Asker)} {f : Desk.Fetch Asker}
      (hf : w.desk.fetches = older ++ f :: newer) (hr : f.reference = r) (ho : ¬ f.IsOver)
      (ha : w.ask asker pass r = (none, { w with
        desk.fetches := older ++ { f with callers := f.callers ++ [asker] } :: newer }))
  | finds {f : Desk.Fetch Asker} {outcome : Outcome} (hf : f ∈ w.desk.fetches)
      (hr : f.reference = r) (ho : f.stage = .finished outcome)
      (ha : w.ask asker pass r = (some outcome, w))
  | starts (h : w.Starts asker pass r)

theorem Orderly.shares (h : w.Orderly) (asker : Asker) (pass : Option Text)
    (hv : r.isValid = true) (hc : w.desk.cache.get? w.agenda.now r = none) :
    w.Shares asker pass r := by
  rcases Desk.ask_eq w.desk w.agenda.now asker pass r with ⟨outcome, notes, he, -, hg⟩ |
    ⟨-, -, ⟨f, hf, ho, he⟩ | ⟨hf, he⟩⟩
  · cases hg with
    | missing hv' => simp [hv] at hv'
    | cached hv' hc' => simp [hc] at hc'
    | ended hv' hc' hf hr ho =>
      have hask : w.desk.ask w.agenda.now asker pass r = (some outcome, w.desk, []) := by
        have hfetch := Desk.fetch?_of_mem h.sane.nodup hf
        rw [hr] at hfetch
        simp [Desk.ask, hv, hc, hfetch, ho]
      exact .finds hf hr ho (by simp only [Workspace.ask, hask]; rfl)
  · obtain ⟨hm, hr⟩ := Desk.mem_of_fetch? hf
    obtain ⟨older, newer, hsplit, hset, -⟩ := Desk.exists_split h.sane.nodup hm
    have hset := hset { f with callers := f.callers ++ [asker] } rfl
    refine .joins hsplit hr ho ?_
    rw [← hset]
    simp only [Workspace.ask, he]
    rfl
  · exact .starts ⟨Desk.fetch?_eq_none hf, by simp only [Workspace.ask, he]; rfl⟩

/-! Giving up -/

/-- Some who are called off have left, and nothing else has changed at the desk or for others. -/
def Spares (w w' : Workspace ℚ) : Prop :=
  ∃ (stays : Asker → Bool) (jobs : List Job) (calls : Register Nat Call),
    w' = { w with
      desk.fetches := w.desk.fetches.map fun f => { f with callers := f.callers.filter stays }
      agenda.jobs := w.agenda.jobs ++ jobs
      calls } ∧
    (∀ a, stays a = false → w'.IsCalledOff a) ∧
    (∀ job ∈ jobs, ∃ id, job = .call id ∧ w'.IsCalledOff (.call id)) ∧
    ∀ id, ¬ w'.IsCalledOff (.call id) → calls.get? id = w.calls.get? id

theorem Spares.refl (w : Workspace ℚ) : w.Spares w :=
  ⟨fun _ => true, [], w.calls, by simp, nofun, nofun, fun _ _ => rfl⟩

theorem Orderly.forget_iff {f : Desk.Fetch Asker} (h : w.Orderly) (hf : f ∈ w.desk.fetches) :
    .forget f.reference ∈ w.agenda.jobs ↔ f.IsOver := by
  have hover : .forget f.reference ∈ w.agenda.jobs ↔
      f.reference ∈ Desk.refsAt Desk.Stage.isFinished w.desk.fetches :=
    mem_forgetting.symm.trans h.sound.finished.mem_iff
  rw [hover, Desk.mem_refsAt]
  constructor
  · rintro ⟨g, hg, hs, hr⟩
    obtain rfl := List.inj_on_of_nodup_map h.sane.nodup hg hf hr
    exact Desk.isFinished_iff.mp hs
  · exact fun ho => ⟨f, hf, Desk.isFinished_iff.mpr ho, rfl⟩

/-- A reply that nothing was learned from leaves nothing behind, once its fetch is forgotten: the
next one who asks starts another. -/
theorem Faithful.starts {reply : Reply} {time : ℚ} (h : Faithful p history w)
    (hs : Since (.received r reply time) (fun x => x.Ends r ∨ ∃ c how, x = .asked c r how) history)
    (hn : reply.verdict? r = none) (hj : .forget r ∉ w.agenda.jobs) (hv : r.isValid = true)
    (asker : Asker) (pass : Option Text) : w.Starts asker pass r := by
  have hc : w.desk.cache.get? w.agenda.now r = none :=
    h.accounts.unknown r reply time (hs.mono fun _ => .inl) hn
  have hnone : ∀ f ∈ w.desk.fetches, f.reference ≠ r := by
    rintro f hf rfl
    by_cases ho : f.IsOver
    · exact hj ((h.orderly.forget_iff hf).mpr ho)
    · obtain ⟨c, hmade⟩ := h.accounts.making f hf ho
      cases hs.clash hmade (.inr ⟨c, .made, rfl⟩) rfl
  cases h.orderly.shares asker pass hv hc with
  | joins hf hr => exact absurd hr (hnone _ (Desk.Traffic.mem_of_split (t := w.traffic) hf))
  | finds hf hr => exact absurd hr (hnone _ hf)
  | starts hstarts => exact hstarts

/-- Every request runs out of time at once. -/
def silentPlan : Plan ℚ where
  hosts := ⟨[], []⟩
  timeout := .ofNat 1
  interval := 1
  pause := 0
  capacity := 1
  network _ := { reply := .timedOut }

end Workspace

end CommitMessage
