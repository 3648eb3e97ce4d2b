import CommitMessage.Lookup.Desk
import CommitMessage.Proofs.Register
import CommitMessage.Proofs.Lookup.Line

/-! The fetches of a desk, when nobody gives up. Each waits for something: its first turn, the
limiter, or its reply. A desk for which nothing is to come has no one waiting at it. -/

namespace CommitMessage.Desk

section

variable {τ κ : Type} {d : Desk τ κ} {f : Fetch κ} {r : Reference}

theorem mem_of_fetch? (hf : d.fetch? r = some f) : f ∈ d.fetches ∧ f.reference = r := by
  have hr : f.reference = r := by simpa using List.find?_some hf
  exact ⟨List.mem_of_find?_eq_some hf, hr⟩

end

variable {κ : Type} {d : Desk ℚ κ} {f f' : Fetch κ} {r c : Reference}

theorem mem_setFetch {g : Fetch κ} :
    g ∈ (d.setFetch f).fetches ↔
      g ∈ d.fetches ∧ g.reference ≠ f.reference ∨
        g = f ∧ ∃ f₀ ∈ d.fetches, f₀.reference = f.reference :=
  Keyed.mem_replace

theorem setFetch_references (d : Desk ℚ κ) (f : Fetch κ) :
    (d.setFetch f).fetches.map (·.reference) = d.fetches.map (·.reference) :=
  Keyed.keys_replace Fetch.reference d.fetches f

/-- A fetch that is replaced keeps its place. -/
theorem exists_split (hnd : (d.fetches.map (·.reference)).Nodup) (hf : f ∈ d.fetches) :
    ∃ older newer, d.fetches = older ++ f :: newer ∧
      (∀ f', f'.reference = f.reference → (d.setFetch f').fetches = older ++ f' :: newer) ∧
      (d.fetches.filter fun g => g.reference ≠ f.reference) = older ++ newer :=
  Keyed.exists_split hnd hf

theorem fetch?_of_mem (hnd : (d.fetches.map (·.reference)).Nodup) (hf : f ∈ d.fetches) :
    d.fetch? f.reference = some f :=
  Keyed.find?_of_mem hnd hf (by simp)

theorem fetch?_eq_none (h : d.fetch? r = none) : ∀ f ∈ d.fetches, f.reference ≠ r := by
  simpa [fetch?] using h

/-! What is to come -/

/-- What can come to a desk. -/
inductive Wake where
  | fetch (r : Reference)
  | limiter (r : Reference)
  | sleep (r : Reference)
  | reply (r : Reference)

def Signal.wake? : Signal ℚ κ → Option Wake
  | .fetchTurn r => some (.fetch r)
  | .limiterTurn r => some (.limiter r)
  | .sleep r _ => some (.sleep r)
  | .request r _ => some (.reply r)
  | _ => none

def wakes (signals : List (Signal ℚ κ)) : List Wake := signals.filterMap Signal.wake?

structure Fetch.Attended (due : Wake → Prop) (clients : List Reference) (f : Fetch κ) : Prop where
  fresh : f.stage = .fresh → due (.fetch f.reference)
  inLine : f.stage = .inLine → f.reference ∈ clients
  fetching : f.stage = .fetching → due (.reply f.reference)
  finished : ∀ outcome, f.stage = .finished outcome → f.callers = []

/-- All is well with a desk, but maybe for the fetch of one reference. -/
structure Live (due : Wake → Prop) (busy : Option Reference) (d : Desk ℚ κ) : Prop where
  nodup : (d.fetches.map (·.reference)).Nodup
  calledOff : ∀ f ∈ d.fetches, f.calledOff = false
  fair : d.limiter.Fair
  client : ∀ c ∈ d.limiter.clients, ∃ f ∈ d.fetches, f.reference = c ∧ f.stage = .inLine
  attended : ∀ f ∈ d.fetches, busy ≠ some f.reference → f.Attended due d.limiter.clients
  sleeping : ∀ c, d.limiter.holder = some (c, .sleeping) → due (.sleep c)
  awake : ∀ c, d.limiter.holder = some (c, .awake) → due (.limiter c)
  called : ∀ c, (c, .called) ∈ d.limiter.line → due (.limiter c)

variable {due due' : Wake → Prop} {busy : Option Reference}

theorem Fetch.Attended.mono {clients : List Reference} (h : f.Attended due clients)
    (hd : ∀ w, due w → due' w) : f.Attended due' clients :=
  ⟨fun hs => hd _ (h.fresh hs), h.inLine, fun hs => hd _ (h.fetching hs), h.finished⟩

theorem Live.mono (h : d.Live due busy) (hd : ∀ w, due w → due' w) : d.Live due' busy :=
  ⟨h.nodup, h.calledOff, h.fair, h.client, fun f hf hb => (h.attended f hf hb).mono hd,
    fun c hc => hd _ (h.sleeping c hc), fun c hc => hd _ (h.awake c hc),
    fun c hc => hd _ (h.called c hc)⟩

theorem live_new (hosts : Hosts) (timeout : Binary64) (cache : Cache ℚ) (interval : ℚ) :
    Live due none ({ hosts, timeout, cache, limiter := { interval } } : Desk ℚ κ) := by
  refine ⟨List.nodup_nil, fun _ hf => absurd hf List.not_mem_nil, Limiter.fair_new interval,
    fun _ hc => absurd hc List.not_mem_nil, fun _ hf => absurd hf List.not_mem_nil, fun _ hh => ?_,
    fun _ hh => ?_, fun _ hc => absurd hc List.not_mem_nil⟩
  · cases hh
  · cases hh

theorem Live.callers_eq_nil (h : d.Live (fun _ => False) none) :
    ∀ f ∈ d.fetches, f.callers = [] := by
  have hfree : d.limiter.holder = none := by
    cases hh : d.limiter.holder with
    | none => rfl
    | some holder =>
      obtain ⟨c, holding⟩ := holder
      cases holding with
      | sleeping => exact (h.sleeping c hh).elim
      | awake => exact (h.awake c hh).elim
      | leaving => exact absurd rfl (h.fair.holding c _ hh)
  have hline : d.limiter.line = [] := by
    cases hl : d.limiter.line with
    | nil => rfl
    | cons first rest =>
      have hfirst := (h.fair.free hfree first rest hl).1
      have hmem : (first.1, .called) ∈ d.limiter.line := by
        rw [hl, ← hfirst]
        exact List.mem_cons_self
      exact (h.called first.1 hmem).elim
  intro f hf
  have ha := h.attended f hf nofun
  cases hs : f.stage with
  | fresh => exact (ha.fresh hs).elim
  | inLine =>
    have hc := ha.inLine hs
    simp [Limiter.clients, hfree, hline] at hc
  | fetching => exact (ha.fetching hs).elim
  | finished outcome => exact ha.finished outcome hs

/-- What comes for a fetch is taken, and the fetch is busy. -/
theorem Live.take {w₀ : Wake} (h : d.Live (fun w => due w ∨ w = w₀) none)
    (hw : w₀ = .fetch r ∨ w₀ = .reply r) : d.Live due (some r) := by
  have hother {w : Wake} (h : due w ∨ w = w₀) (hne : w ≠ w₀) : due w := h.resolve_right hne
  refine ⟨h.nodup, h.calledOff, h.fair, h.client, fun f hf hb => ?_, fun c hc => ?_,
    fun c hc => ?_, fun c hc => ?_⟩
  · have hne : f.reference ≠ r := fun he => hb (he ▸ rfl)
    have ha := h.attended f hf nofun
    refine ⟨fun hs => hother (ha.fresh hs) ?_, ha.inLine, fun hs => hother (ha.fetching hs) ?_,
      ha.finished⟩
    · rcases hw with rfl | rfl <;> simp [hne]
    · rcases hw with rfl | rfl <;> simp [hne]
  · exact hother (h.sleeping c hc) (by rcases hw with rfl | rfl <;> nofun)
  · exact hother (h.awake c hc) (by rcases hw with rfl | rfl <;> nofun)
  · exact hother (h.called c hc) (by rcases hw with rfl | rfl <;> nofun)

theorem Live.free (h : d.Live due (some r))
    (hr : ∀ f ∈ d.fetches, f.reference = r → f.Attended due d.limiter.clients) :
    d.Live due none := by
  refine ⟨h.nodup, h.calledOff, h.fair, h.client, fun f hf _ => ?_, h.sleeping, h.awake, h.called⟩
  by_cases hfr : f.reference = r
  · exact hr f hf hfr
  · exact h.attended f hf (by simpa using Ne.symm hfr)

theorem Live.setFetch (h : d.Live due (some f.reference)) (hf : f ∈ d.fetches)
    (hr : f'.reference = f.reference) (hc : f'.calledOff = false)
    (ha : f'.Attended due d.limiter.clients)
    (hl : f.reference ∈ d.limiter.clients → f'.stage = .inLine) :
    (d.setFetch f').Live due none := by
  refine ⟨?_, fun g hg => ?_, h.fair, fun c hcl => ?_, fun g hg _ => ?_, h.sleeping, h.awake,
    h.called⟩
  · rw [setFetch_references]
    exact h.nodup
  · rcases mem_setFetch.mp hg with ⟨hg, -⟩ | ⟨rfl, -⟩
    · exact h.calledOff g hg
    · exact hc
  · obtain ⟨g, hg, rfl, hs⟩ := h.client c hcl
    by_cases hgr : g.reference = f.reference
    · exact ⟨f', mem_setFetch.mpr (.inr ⟨rfl, f, hf, hr.symm⟩), hr.trans hgr.symm, hl (hgr ▸ hcl)⟩
    · exact ⟨g, mem_setFetch.mpr (.inl ⟨hg, hr ▸ hgr⟩), rfl, hs⟩
  · rcases mem_setFetch.mp hg with ⟨hg, hne⟩ | ⟨rfl, -⟩
    · exact h.attended g hg (by simpa [hr] using Ne.symm hne)
    · exact ha

/-- A fetch whose page comes is not at the limiter any more. -/
theorem Live.not_mem_clients (h : d.Live due busy) (hf : f ∈ d.fetches)
    (hs : f.stage ≠ .inLine) : f.reference ∉ d.limiter.clients := by
  intro hc
  obtain ⟨g, hg, hr, hg'⟩ := h.client _ hc
  obtain rfl := List.inj_on_of_nodup_map h.nodup hg hf hr
  exact hs hg'

/-! What a turn can do -/

/-- A desk as its client makes an attempt at the slot. -/
structure Taking (due : Wake → Prop) (c : Reference) (d : Desk ℚ κ) : Prop where
  nodup : (d.fetches.map (·.reference)).Nodup
  calledOff : ∀ f ∈ d.fetches, f.calledOff = false
  line : (c :: d.limiter.line.map (·.1)).Nodup
  waiting : ∀ e ∈ d.limiter.line, e.2 = .waiting
  client : ∀ c' ∈ c :: d.limiter.line.map (·.1),
    ∃ f ∈ d.fetches, f.reference = c' ∧ f.stage = .inLine
  attended : ∀ f ∈ d.fetches, f.reference ≠ c → f.Attended due (d.limiter.line.map (·.1))

/-- Calls the first in the line. -/
def callTurns : List (Reference × Limiter.Standing) → List (Signal ℚ κ)
  | (c, .waiting) :: _ => [.limiterTurn c]
  | _ => []

def attempt (d : Desk ℚ κ) (now : ℚ) (c : Reference) : Desk ℚ κ × List (Signal ℚ κ) :=
  d.withLimiter (d.limiter.attempt now c)

theorem withLimiter_grant (line : List (Reference × Limiter.Standing)) (l : Limiter ℚ Reference)
    (hf : d.fetch? c = some f) :
    d.withLimiter (l, Limiter.callSignals line ++ [.granted c]) =
      ({ d with limiter := l }.setFetch { f with stage := .fetching },
        callTurns line ++ [.request c (c.url d.hosts)]) := by
  have hf' : { d with limiter := l }.fetch? c = some f := hf
  unfold Limiter.callSignals callTurns
  split
  · simp only [withLimiter, limiterSignal, List.foldl_cons, List.foldl_nil, List.cons_append,
      List.nil_append, hf']
  · simp only [withLimiter, limiterSignal, List.foldl_cons, List.foldl_nil, List.nil_append, hf']

/-- The client sleeps until the interval is over, or its page is requested. -/
theorem Taking.attempt_cases (h : d.Taking due c) (now : ℚ) :
    (∃ last delay, d.limiter.lastGrant = some last ∧ now + delay = last + d.limiter.interval ∧
      now < last + d.limiter.interval ∧
      d.attempt now c = ({ d with limiter := { d.limiter with holder := some (c, .sleeping) } },
        [.sleep c delay])) ∨
    (∀ last, d.limiter.lastGrant = some last → last + d.limiter.interval ≤ now) ∧
      ∃ f ∈ d.fetches, f.reference = c ∧ f.stage = .inLine ∧
        d.attempt now c =
          ({ d with limiter := d.limiter.granting now }.setFetch { f with stage := .fetching },
            callTurns d.limiter.line ++ [.request c (c.url d.hosts)]) := by
  rcases d.limiter.attempt_cases now c with ⟨last, delay, hl, hd, hlt, he⟩ | ⟨hl, he⟩
  · refine .inl ⟨last, delay, hl, hd, hlt, ?_⟩
    rw [Desk.attempt, he]
    rfl
  · obtain ⟨f, hf, rfl, hs⟩ := h.client c List.mem_cons_self
    refine .inr ⟨hl, f, hf, rfl, hs, ?_⟩
    rw [Desk.attempt, he, withLimiter_grant _ _ (fetch?_of_mem h.nodup hf)]

theorem mem_callFirst {line : List (Reference × Limiter.Standing)}
    (hw : ∀ e ∈ line, e.2 = .waiting) (hc : (c, .called) ∈ Limiter.callFirst line) :
    .limiter c ∈ wakes (callTurns line : List (Signal ℚ κ)) := by
  cases line with
  | nil => cases hc
  | cons first rest =>
    obtain ⟨n, s⟩ := first
    obtain rfl : s = .waiting := hw _ List.mem_cons_self
    rcases List.mem_cons.mp hc with he | hc
    · cases he
      exact List.mem_cons_self
    · cases hw _ (List.mem_cons_of_mem _ hc)

theorem fair_granting {l : Limiter ℚ Reference} (hnd : (l.line.map (·.1)).Nodup)
    (hw : ∀ e ∈ l.line, e.2 = .waiting) (now : ℚ) : (l.granting now).Fair := by
  refine ⟨?_, nofun, fun h => absurd rfl h, fun _ first rest he => ?_⟩
  · simpa [Limiter.clients, Limiter.granting] using hnd
  · cases hl : l.line with
    | nil =>
      rw [Limiter.granting, hl] at he
      cases he
    | cons next more =>
      obtain ⟨n, s⟩ := next
      obtain rfl : s = .waiting := hw _ (hl ▸ List.mem_cons_self)
      rw [Limiter.granting, hl] at he
      cases he
      exact ⟨rfl, fun e he => hw e (hl ▸ List.mem_cons_of_mem _ he)⟩

theorem Taking.attempt (h : d.Taking due c) (now : ℚ) :
    (d.attempt now c).1.Live (fun w => due w ∨ w ∈ wakes (d.attempt now c).2) none := by
  obtain ⟨f, hf, rfl, hs⟩ := h.client c List.mem_cons_self
  have hsame {g : Fetch κ} (hg : g ∈ d.fetches) (hr : g.reference = f.reference) : g = f :=
    List.inj_on_of_nodup_map h.nodup hg hf hr
  rcases h.attempt_cases now with ⟨last, delay, -, -, -, he⟩ | ⟨-, f', hf', hr', -, he⟩
  · rw [he]
    have hfair : ({ d.limiter with holder := some (f.reference, .sleeping) } :
        Limiter ℚ Reference).Fair :=
      ⟨h.line, fun _ _ hh => by cases hh; nofun, fun _ => h.waiting, fun hh => by cases hh⟩
    refine ⟨h.nodup, h.calledOff, hfair, h.client, fun g hg _ => ?_, fun c hc => ?_,
      (fun c hc => by cases hc), fun c hc => ?_⟩
    · by_cases hr : g.reference = f.reference
      · obtain rfl := hsame hg hr
        exact ⟨by simp [hs], fun _ => List.mem_cons_self, by simp [hs], by simp [hs]⟩
      · have ha := h.attended g hg hr
        exact ⟨fun hs => .inl (ha.fresh hs), fun hs => List.mem_cons_of_mem _ (ha.inLine hs),
          fun hs => .inl (ha.fetching hs), ha.finished⟩
    · cases hc
      exact .inr List.mem_cons_self
    · cases h.waiting _ hc
  · rw [he]
    obtain rfl := hsame hf' hr'
    have hclients : (d.limiter.granting now).clients = d.limiter.line.map (·.1) := by
      simp [Limiter.clients, Limiter.granting]
    obtain ⟨hn, hnd⟩ := List.nodup_cons.mp h.line
    refine ⟨?_, fun g hg => ?_, fair_granting hnd h.waiting now, fun c' hc' => ?_,
      fun g hg _ => ?_, nofun, nofun, fun c' hc' => .inr ?_⟩
    · rw [setFetch_references]
      exact h.nodup
    · rcases mem_setFetch.mp hg with ⟨hg, -⟩ | ⟨rfl, -⟩
      · exact h.calledOff g hg
      · exact h.calledOff f' hf'
    · have hc' : c' ∈ d.limiter.line.map (·.1) := hclients ▸ hc'
      obtain ⟨g, hg, rfl, hgs⟩ := h.client c' (List.mem_cons_of_mem _ hc')
      exact ⟨g, mem_setFetch.mpr (.inl ⟨hg, fun hr => hn (hr ▸ hc')⟩), rfl, hgs⟩
    · rcases mem_setFetch.mp hg with ⟨hg, hr⟩ | ⟨rfl, -⟩
      · have ha := h.attended g hg hr
        refine ⟨fun hs => .inl (ha.fresh hs), fun hs => ?_, fun hs => .inl (ha.fetching hs),
          ha.finished⟩
        exact hclients ▸ ha.inLine hs
      · refine ⟨nofun, nofun, fun _ => .inr ?_, nofun⟩
        exact List.mem_filterMap.mpr
          ⟨.request f'.reference (f'.reference.url d.hosts), by simp, rfl⟩
    · have hw : .limiter c' ∈ wakes (callTurns d.limiter.line : List (Signal ℚ κ)) :=
        mem_callFirst h.waiting hc'
      rw [wakes, List.filterMap_append]
      exact List.mem_append_left _ hw

end CommitMessage.Desk
