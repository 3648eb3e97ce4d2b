import CommitMessage.Proofs.Lookup.Truth
import CommitMessage.Proofs.Schedule.Moves

/-! The fetches of a desk when they may be called off at any time. One that is called off has a turn
coming at which it ends, at the desk or at the limiter, and whoever waits for it is told so. -/

namespace CommitMessage

namespace Limiter

variable {ι : Type} [DecidableEq ι] {l l' : Limiter ℚ ι} {b c : ι} {called : List ι} {now : ℚ}

/-- All clients but one stand as before, and whoever needs a turn had one coming or is called. -/
structure Shifts (l l' : Limiter ℚ ι) (c : ι) (called : List ι) : Prop where
  orderly : l'.Orderly
  clients : ∀ b, b ≠ c → (b ∈ l'.clients ↔ b ∈ l.clients)
  contenders : ∀ b, b ≠ c → b ∈ l'.contenders → b ∈ l.contenders
  stirs : ∀ b, l'.Stirs b → (l.Stirs b ∧ b ≠ c) ∨ b ∈ called

/-- What a limiter may do for a client: it stands in line, sleeps, is granted, or goes. -/
inductive Reacts (l : Limiter ℚ ι) (c : ι) : Limiter ℚ ι × List (Signal ℚ ι) → Prop
  | waits {l' : Limiter ℚ ι} (hs : l.Shifts l' c []) (hc : c ∈ l'.clients) : Reacts l c (l', [])
  | sleeps {l' : Limiter ℚ ι} (delay : ℚ) (hs : l.Shifts l' c []) (hc : c ∈ l'.clients) :
    Reacts l c (l', [.sleep c delay])
  | grants {l' : Limiter ℚ ι} {called : List ι} (hs : l.Shifts l' c called) (hc : c ∉ l'.clients) :
    Reacts l c (l', called.map .turn ++ [.granted c])
  | leaves {l' : Limiter ℚ ι} {called : List ι} (hs : l.Shifts l' c called) (hc : c ∉ l'.clients) :
    Reacts l c (l', called.map .turn ++ [.left c])

omit [DecidableEq ι] in
theorem Stirs.mem_clients (h : l.Stirs b) : b ∈ l.clients := by
  rcases h with h | h | ⟨s, hs, -⟩
  · exact Limiter.mem_clients.mpr (.inl ⟨_, h⟩)
  · exact Limiter.mem_clients.mpr (.inl ⟨_, h⟩)
  · exact Limiter.mem_clients.mpr (.inr ⟨s, hs⟩)

omit [DecidableEq ι] in
theorem Shifts.same (h : l.Orderly) (hc : ¬ l.Stirs c) : l.Shifts l c [] :=
  ⟨h, fun _ _ => Iff.rfl, fun _ _ hm => hm,
    fun _ hs => .inl ⟨hs, fun he => hc (he ▸ hs)⟩⟩

theorem Shifts.of_without (h : (l.without c).Shifts l' c called) : l.Shifts l' c called := by
  refine ⟨h.orderly, fun b hb => ?_, fun b hb hc => ?_, fun b hs => ?_⟩
  · rw [h.clients b hb, clients_without]
    simp [hb]
  · have hcont := h.contenders b hb hc
    rw [contenders_without] at hcont
    exact List.mem_of_mem_filter hcont
  · exact (h.stirs b hs).imp_left fun ⟨hs, hb⟩ => ⟨(stirs_without hs).1, hb⟩

theorem Reacts.of_without {change : Limiter ℚ ι × List (Signal ℚ ι)}
    (h : (l.without c).Reacts c change) : l.Reacts c change := by
  cases h with
  | waits hs hc => exact .waits hs.of_without hc
  | sleeps delay hs hc => exact .sleeps delay hs.of_without hc
  | grants hs hc => exact .grants hs.of_without hc
  | leaves hs hc => exact .leaves hs.of_without hc

omit [DecidableEq ι] in
/-- The first in the line is called to a slot that is free. -/
theorem Orderly.shifts_callIfFree (h : l.Orderly) (hc : c ∉ l.clients) : ∃ called : List ι,
    l.callIfFree.2 = called.map .turn ∧ l.Shifts l.callIfFree.1 c called ∧
      c ∉ l.callIfFree.1.clients := by
  obtain ⟨called, hcalled, -⟩ := Session.callIfFree_signals l
  obtain ⟨-, -, -, hclients, hcontenders⟩ := callIfFree_frame l
  refine ⟨called, hcalled, ⟨h.callIfFree.1, fun b _ => by rw [hclients],
    fun b _ hb => by rwa [hcontenders] at hb, fun b hb => ?_⟩, by rwa [hclients]⟩
  refine (stirs_callIfFree hb).imp (fun hs => ⟨hs, fun he => hc (he ▸ hs.mem_clients)⟩)
    fun hm => ?_
  rw [hcalled] at hm
  simpa using hm

omit [DecidableEq ι] in
theorem Orderly.reacts_attempt (h : l.Orderly) (hfree : l.holder = none)
    (hline : ∀ e ∈ l.line, e.2.Uncalled) (hc : c ∉ l.clients) (now : ℚ) :
    l.Reacts c (l.attempt now c) := by
  rcases l.attempt_cases now c with ⟨last, delay, -, -, -, he⟩ | ⟨-, he⟩
  · have hclients : ({ l with holder := some (c, .sleeping) } : Limiter ℚ ι).clients =
        c :: l.clients := by simp [clients, hfree]
    have hcontenders : ({ l with holder := some (c, .sleeping) } : Limiter ℚ ι).contenders =
        c :: l.contenders := by simp [contenders, holderContending, hfree, Holding.contends]
    rw [he]
    refine .sleeps delay ⟨⟨?_, fun _ => hline, h.behind⟩, fun b hb => ?_, fun b hb hm => ?_,
      fun b hs => .inl ?_⟩ (by rw [hclients]; exact List.mem_cons_self)
    · rw [hclients]
      exact List.nodup_cons.mpr ⟨hc, h.nodup⟩
    · rw [hclients]
      simp [hb]
    · rw [hcontenders] at hm
      exact (List.mem_cons.mp hm).resolve_left hb
    · have hs' : l.Stirs b := by
        rcases hs with hs | hs | hs
        · cases hs
        · cases hs
        · exact .inr (.inr hs)
      exact ⟨hs', fun he => hc (he ▸ hs'.mem_clients)⟩
  · obtain ⟨hnodup, hheld, hbehind⟩ := h
    have hnow : ({ l with lastGrant := some now } : Limiter ℚ ι).Orderly :=
      ⟨hnodup, hheld, hbehind⟩
    obtain ⟨called, hcalled, hs, hout⟩ := hnow.shifts_callIfFree hc
    have hcall : (l.granting now, callSignals l.line) =
        ({ l with lastGrant := some now } : Limiter ℚ ι).callIfFree := by
      rw [Limiter.callIfFree, if_pos (by simp [hfree]), callNext_eq, granting, hfree]
    have hgranting := congrArg Prod.fst hcall
    have hsignals := congrArg Prod.snd hcall
    dsimp only at hgranting hsignals
    rw [he, hgranting, hsignals, hcalled]
    exact .grants ⟨hs.orderly, hs.clients, hs.contenders, hs.stirs⟩ hout

omit [DecidableEq ι] in
theorem Orderly.reacts_request (h : l.Orderly) (hc : c ∉ l.clients) (now : ℚ) :
    l.Reacts c (l.request now c) := by
  rcases l.request_attempts_or_waits now c with ⟨hfree, hline, he⟩ | ⟨hne, he⟩
  · rw [he]
    exact h.reacts_attempt hfree (fun e hm => .inr (hline e hm)) hc now
  · have hclients : ({ l with line := l.line ++ [(c, .waiting)] } : Limiter ℚ ι).clients =
        l.clients ++ [c] := by simp [clients]
    have hcontenders : ({ l with line := l.line ++ [(c, .waiting)] } : Limiter ℚ ι).contenders =
        l.contenders ++ [c] := by
      simp [contenders, lineContending, Standing.contends]
    rw [he]
    refine .waits ⟨⟨?_, fun hheld e hm => ?_, fun e hm => ?_⟩, fun b hb => ?_, fun b hb hm => ?_,
      fun b hs => .inl ?_⟩ ?_
    · rw [hclients]
      exact h.nodup.append (List.nodup_singleton c) (by simpa using hc)
    · rcases List.mem_append.mp hm with hm | hm
      · exact h.held hheld e hm
      · rw [List.mem_singleton.mp hm]
        exact .inl rfl
    · cases hl : l.line with
      | nil => simp [hl] at hm
      | cons first rest =>
        simp only [hl, List.cons_append, List.tail_cons] at hm
        rcases List.mem_append.mp hm with hm | hm
        · exact h.behind e (by simpa [hl] using hm)
        · rw [List.mem_singleton.mp hm]
          exact .inl rfl
    · rw [hclients]
      simp [hb]
    · rw [hcontenders] at hm
      simpa [hb] using hm
    · have hs' : l.Stirs b := by
        rcases hs with hs | hs | ⟨s, hs, hne⟩
        · exact .inl hs
        · exact .inr (.inl hs)
        · rcases List.mem_append.mp hs with hs | hs
          · exact .inr (.inr ⟨s, hs, hne⟩)
          · cases List.mem_singleton.mp hs
            exact absurd rfl hne
      exact ⟨hs', fun he => hc (he ▸ hs'.mem_clients)⟩
    · rw [hclients]
      exact List.mem_append_right _ (List.mem_singleton_self c)

/-- One who has not given up takes the slot or sleeps, and one who has goes. -/
theorem Orderly.reacts_turn (h : l.Orderly) (now : ℚ) (c : ι) :
    (¬ l.Stirs c ∧ l.turn now c = (l, [])) ∨ c ∈ l.clients ∧ l.Reacts c (l.turn now c) ∧
      ((∃ l' signals, l.turn now c = (l', signals ++ [.left c])) ∨ c ∈ l.contenders) := by
  have hwithout := h.without c
  have hout : c ∉ (l.without c).clients := by simp
  cases h.turn now c with
  | takes ht he =>
    have hcont : c ∈ l.contenders := List.mem_of_mem_head? ht.first
    refine .inr ⟨(contenders_sublist l).subset hcont, ?_, .inr hcont⟩
    rw [he]
    exact (hwithout.reacts_attempt ht.free ht.uncalled hout now).of_without
  | leaves hc hcont hawake he =>
    obtain ⟨called, hcalled, hs, hgone⟩ := hwithout.shifts_callIfFree hout
    have hleave : l.leave c = ((l.without c).callIfFree.1, called.map .turn ++ [.left c]) := by
      rw [leave, ← hcalled]
    rw [he, hleave]
    exact .inr ⟨hc, .leaves hs.of_without hgone, .inl ⟨_, _, rfl⟩⟩
  | passes hcalm he => exact .inl ⟨hcalm, he⟩

end Limiter

namespace Desk

variable {κ : Type} {d d' d'' : Desk ℚ κ} {f f' : Fetch κ} {r : Reference}

inductive Turn where
  | fetch (r : Reference)
  | limiter (r : Reference)

def Turn.reference : Turn → Reference
  | .fetch r | .limiter r => r

def Signal.turn? : Signal ℚ κ → Option Turn
  | .fetchTurn r => some (.fetch r)
  | .limiterTurn r => some (.limiter r)
  | _ => none

def turnsIn (signals : List (Signal ℚ κ)) : List Turn := signals.filterMap Signal.turn?

/-- A fetch that is called off stands in the line only to leave it, or has a turn at which it
ends. One that is over is to be forgotten, and no one waits for it. -/
structure Fetch.Tended (due : Turn → Prop) (ended : List Reference) (l : Limiter ℚ Reference)
    (f : Fetch κ) : Prop where
  fresh : f.stage = .fresh → due (.fetch f.reference)
  line : f.stage = .inLine ↔ f.reference ∈ l.clients
  leaves : f.stage = .inLine → f.calledOff = true → f.reference ∉ l.contenders
  stops : f.stage = .fetching → f.calledOff = true → due (.fetch f.reference)
  isOver : f.IsOver ↔ f.reference ∈ ended
  alone : f.IsOver → f.callers = []

/-- All fetches are tended, when some turns are to come and some fetches are to be forgotten. -/
structure Tended (due : Turn → Prop) (ended : List Reference) (d : Desk ℚ κ) : Prop where
  nodup : (d.fetches.map (·.reference)).Nodup
  orderly : d.limiter.Orderly
  client : ∀ c ∈ d.limiter.clients, ∃ f ∈ d.fetches, f.reference = c
  stirs : ∀ c, d.limiter.Stirs c → due (.limiter c)
  fetches : ∀ f ∈ d.fetches, f.Tended due ended d.limiter
  once : ended.Nodup
  known : ∀ r ∈ ended, ∃ f ∈ d.fetches, f.reference = r

/-- What becomes of fetches and those who wait for them: no one is lost, and none but a fetch that
is not called off comes to an end of its own. -/
structure CarriesOn (d : Desk ℚ κ) (change : Desk ℚ κ × List (Signal ℚ κ)) : Prop where
  old : ∀ f' ∈ change.1.fetches, ∃ f ∈ d.fetches, f'.reference = f.reference ∧
    (f.calledOff = true → f'.calledOff = true) ∧
    (∀ outcome, f.stage = .finished outcome → f'.stage = .finished outcome) ∧
    f'.callers ⊆ f.callers
  kept : ∀ f ∈ d.fetches, ∀ c ∈ f.callers, (∃ f' ∈ change.1.fetches, c ∈ f'.callers) ∨
    ∃ outcome, .deliver c outcome ∈ change.2
  given : ∀ c outcome, .deliver c outcome ∈ change.2 → outcome = .stopped ∨
    ∃ f ∈ d.fetches, f.calledOff = false ∧ c ∈ f.callers ∧
      ∃ f' ∈ change.1.fetches, f'.reference = f.reference ∧ f'.stage = .finished outcome

variable {due due' : Turn → Prop} {ended ended' : List Reference}

theorem Fetch.Tended.mono (h : f.Tended due ended d.limiter) (hd : ∀ t, due t → due' t) :
    f.Tended due' ended d.limiter :=
  ⟨fun hs => hd _ (h.fresh hs), h.line, h.leaves, fun hs hc => hd _ (h.stops hs hc), h.isOver,
    h.alone⟩

theorem Tended.mono (h : d.Tended due ended) (hd : ∀ t, due t → due' t) : d.Tended due' ended :=
  ⟨h.nodup, h.orderly, h.client, fun c hc => hd _ (h.stirs c hc),
    fun f hf => (h.fetches f hf).mono hd, h.once, h.known⟩

theorem tended_new (hosts : Hosts) (timeout : Binary64) (cache : Cache ℚ) (interval : ℚ) :
    ({ hosts, timeout, cache, limiter := { interval } } : Desk ℚ κ).Tended due [] := by
  refine ⟨List.nodup_nil, ⟨List.nodup_nil, fun hne => absurd rfl hne, nofun⟩, nofun, ?_, nofun,
    List.nodup_nil, nofun⟩
  rintro c (hc | hc | ⟨s, hs, -⟩)
  · cases hc
  · cases hc
  · cases hs

theorem Tended.eq_of_reference (h : d.Tended due ended) (hf : f ∈ d.fetches) (hf' : f' ∈ d.fetches)
    (hr : f.reference = f'.reference) : f = f' :=
  List.inj_on_of_nodup_map h.nodup hf hf' hr

theorem turnsIn_append (signals more : List (Signal ℚ κ)) :
    turnsIn (signals ++ more) = turnsIn signals ++ turnsIn more :=
  List.filterMap_append

theorem carriesOn_same {change : Desk ℚ κ × List (Signal ℚ κ)}
    (hf : change.1.fetches = d.fetches) (hs : ∀ c outcome, .deliver c outcome ∉ change.2) :
    d.CarriesOn change :=
  ⟨fun f hm => ⟨f, hf ▸ hm, rfl, id, fun _ => id, fun _ => id⟩,
    fun f hm _ hc => .inl ⟨f, hf ▸ hm, hc⟩, fun c outcome hm => absurd hm (hs c outcome)⟩

/-! A fetch that goes on to another stage -/

/-- One fetch is replaced, while its client may have come or gone at the limiter. -/
theorem Tended.replace (h : d.Tended due ended) (hf : f ∈ d.fetches)
    (hfetches : d'.fetches = (d.setFetch f').fetches) (hr : f'.reference = f.reference)
    (horderly : d'.limiter.Orderly)
    (hclients : ∀ c, c ≠ f.reference → (c ∈ d'.limiter.clients ↔ c ∈ d.limiter.clients))
    (hcontenders : ∀ c, c ≠ f.reference → c ∈ d'.limiter.contenders → c ∈ d.limiter.contenders)
    (hstirs : ∀ c, d'.limiter.Stirs c →
      d.limiter.Stirs c ∧ c ≠ f.reference ∨ due' (.limiter c))
    (hdue : ∀ t : Turn, t.reference ≠ f.reference → due t → due' t)
    (hover : ended' = ended ∨ ended' = ended ++ [f.reference] ∧ f.reference ∉ ended)
    (hf' : f'.Tended due' ended' d'.limiter) : d'.Tended due' ended' := by
  have hmem {g : Fetch κ} : g ∈ d'.fetches ↔ g ∈ d.fetches ∧ g.reference ≠ f.reference ∨
      g = f' := by
    rw [hfetches, mem_setFetch, hr]
    exact or_congr_right (and_iff_left ⟨f, hf, rfl⟩)
  have hrefs {c : Reference} (hc : ∃ g ∈ d.fetches, g.reference = c) :
      ∃ g ∈ d'.fetches, g.reference = c := by
    obtain ⟨g, hg, rfl⟩ := hc
    by_cases he : g.reference = f.reference
    · exact ⟨f', hmem.mpr (.inr rfl), hr.trans he.symm⟩
    · exact ⟨g, hmem.mpr (.inl ⟨hg, he⟩), rfl⟩
  have hin {c : Reference} (hc : c ≠ f.reference) : c ∈ ended' ↔ c ∈ ended := by
    rcases hover with rfl | ⟨rfl, -⟩
    · exact Iff.rfl
    · simp [hc]
  refine ⟨?_, horderly, fun c hc => ?_, fun c hc => ?_, fun g hg => ?_, ?_, fun c hc => ?_⟩
  · rw [hfetches, setFetch_references]
    exact h.nodup
  · by_cases he : c = f.reference
    · exact ⟨f', hmem.mpr (.inr rfl), hr.trans he.symm⟩
    · exact hrefs (h.client c ((hclients c he).mp hc))
  · rcases hstirs c hc with ⟨hc, he⟩ | hc
    · exact hdue _ he (h.stirs c hc)
    · exact hc
  · rcases hmem.mp hg with ⟨hg, he⟩ | rfl
    · have ht := h.fetches g hg
      exact ⟨fun hs => hdue _ he (ht.fresh hs), ht.line.trans (hclients _ he).symm,
        fun hs hc hm => ht.leaves hs hc (hcontenders _ he hm),
        fun hs hc => hdue _ he (ht.stops hs hc), ht.isOver.trans (hin he).symm, ht.alone⟩
    · exact hf'
  · rcases hover with rfl | ⟨rfl, hn⟩
    · exact h.once
    · exact h.once.append (List.nodup_singleton _) (by simpa using hn)
  · by_cases he : c = f.reference
    · exact ⟨f', hmem.mpr (.inr rfl), hr.trans he.symm⟩
    · exact hrefs (h.known c ((hin he).mp hc))

theorem carriesOn_replace {change : Desk ℚ κ × List (Signal ℚ κ)} (hf : f ∈ d.fetches)
    (hfetches : change.1.fetches = (d.setFetch f').fetches) (hr : f'.reference = f.reference)
    (hnd : (d.fetches.map (·.reference)).Nodup) (hoff : f.calledOff = true → f'.calledOff = true)
    (hover : ∀ outcome, f.stage = .finished outcome → f'.stage = .finished outcome)
    (hcallers : f'.callers = f.callers)
    (hs : ∀ c outcome, .deliver c outcome ∉ change.2) : d.CarriesOn change := by
  refine ⟨fun g hg => ?_, fun g hg c hc => .inl ?_, fun c outcome hm => absurd hm (hs c outcome)⟩
  · rw [hfetches] at hg
    rcases mem_setFetch.mp hg with ⟨hg, -⟩ | ⟨rfl, -⟩
    · exact ⟨g, hg, rfl, id, fun _ => id, fun _ => id⟩
    · exact ⟨f, hf, hr, hoff, hover, hcallers ▸ fun _ => id⟩
  · rw [hfetches]
    by_cases he : g.reference = f.reference
    · obtain rfl := List.inj_on_of_nodup_map hnd hg hf he
      exact ⟨f', mem_setFetch.mpr (.inr ⟨rfl, g, hg, hr.symm⟩), hcallers ▸ hc⟩
    · exact ⟨g, mem_setFetch.mpr (.inl ⟨hg, hr ▸ he⟩), hc⟩

/-- What is asked for is due, what is over is forgotten, and no one who waits is lost. -/
structure Continues (due : Turn → Prop) (ended : List Reference) (d : Desk ℚ κ)
    (change : Desk ℚ κ × List (Signal ℚ κ)) : Prop where
  tended : change.1.Tended (fun t => due t ∨ t ∈ turnsIn change.2) (ended ++ forgetsIn change.2)
  carriesOn : d.CarriesOn change

theorem Tended.continues (h : d.Tended due ended) {signals : List (Signal ℚ κ)}
    (hs : ∀ c outcome, .deliver c outcome ∉ signals) (hf : ∀ r, .forget r ∉ signals) :
    d.Continues due ended (d, signals) := by
  refine ⟨?_, carriesOn_same rfl hs⟩
  rw [forgetsIn_eq_nil hf, List.append_nil]
  exact h.mono fun _ => .inl

/-- What may come before the end of a fetch. -/
def Signal.IsPrelude : Signal ℚ κ → Prop
  | .note _ | .limiterTurn _ => True
  | _ => False

/-- A fetch ends: it is to be forgotten, and whoever waits for it is told the outcome. -/
theorem Tended.finish (h : d.Tended due ended) (hf : f ∈ d.fetches) (hn : ¬ f.IsOver)
    {outcome : Outcome} (ho : outcome = .stopped ∨ f.calledOff = false)
    {change : Desk ℚ κ × List (Signal ℚ κ)} {before : List (Signal ℚ κ)}
    (hfetches : change.1.fetches = (d.setFetch (f.finished outcome)).fetches)
    (hbefore : ∀ s ∈ before, s.IsPrelude)
    (hsignals : change.2 = before ++ .forget f.reference :: f.callers.map (.deliver · outcome))
    {called : List Reference} (hs : d.limiter.Shifts change.1.limiter f.reference called)
    (hgone : f.reference ∉ change.1.limiter.clients)
    (hcalled : ∀ c ∈ called, .limiterTurn c ∈ before)
    (hdue : ∀ t : Turn, t.reference ≠ f.reference → due t → due' t) :
    d.Continues due' ended change := by
  have hnot : f.reference ∉ ended := fun hm => hn ((h.fetches f hf).isOver.mpr hm)
  have hforgets : forgetsIn change.2 = [f.reference] := by
    have hnone : forgetsIn before = [] := forgetsIn_eq_nil fun r hm => hbefore _ hm
    have hcalls : forgetsIn (f.callers.map (Signal.deliver · outcome) : List (Signal ℚ κ)) = [] :=
      forgetsIn_eq_nil fun r hm => by
        obtain ⟨c, -, he⟩ := List.mem_map.mp hm
        cases he
    rw [hsignals, forgetsIn, List.filterMap_append]
    exact congrArg₂ (· ++ ·) hnone (congrArg (f.reference :: ·) hcalls)
  have hmem : f.finished outcome ∈ change.1.fetches := by
    rw [hfetches]
    exact mem_setFetch.mpr (.inr ⟨rfl, f, hf, rfl⟩)
  refine ⟨?_, fun g hg => ?_, fun g hg c hc => ?_, fun c o hm => ?_⟩
  · rw [hforgets]
    refine h.replace hf hfetches rfl hs.orderly hs.clients
      hs.contenders (fun c hc => ?_) (fun t ht hd => .inl (hdue t ht hd)) (.inr ⟨rfl, hnot⟩)
      ⟨by rintro ⟨⟩, ⟨by rintro ⟨⟩, fun hm => absurd hm hgone⟩, by rintro ⟨⟩, by rintro ⟨⟩, ?_,
        fun _ => rfl⟩
    · refine (hs.stirs c hc).imp_right fun hm => .inr ?_
      rw [hsignals, turnsIn_append]
      exact List.mem_append_left _ (List.mem_filterMap.mpr ⟨_, hcalled c hm, rfl⟩)
    · exact ⟨fun _ => List.mem_append_right _ (List.mem_singleton_self _),
        fun _ => ⟨outcome, rfl⟩⟩
  · rw [hfetches] at hg
    rcases mem_setFetch.mp hg with ⟨hg, -⟩ | ⟨rfl, -⟩
    · exact ⟨g, hg, rfl, id, fun _ => id, fun _ => id⟩
    · exact ⟨f, hf, rfl, id, fun o hs => absurd ⟨o, hs⟩ hn, by rintro _ ⟨⟩⟩
  · by_cases he : g.reference = f.reference
    · obtain rfl := h.eq_of_reference hg hf he
      refine .inr ⟨outcome, ?_⟩
      rw [hsignals]
      exact List.mem_append_right _ (List.mem_cons_of_mem _ (List.mem_map_of_mem hc))
    · refine .inl ⟨g, ?_, hc⟩
      rw [hfetches]
      exact mem_setFetch.mpr (.inl ⟨hg, he⟩)
  · rw [hsignals] at hm
    rcases List.mem_append.mp hm with hm | hm
    · exact (hbefore _ hm).elim
    · rcases List.mem_cons.mp hm with hm | hm
      · cases hm
      · obtain ⟨c', hc', he⟩ := List.mem_map.mp hm
        cases he
        exact ho.imp_right fun hoff => ⟨f, hf, hoff, hc', f.finished outcome, hmem, rfl, rfl⟩

/-- A fetch that is at no client of the limiter ends. -/
theorem Tended.finishHere (h : d.Tended due ended) (hf : f ∈ d.fetches) (hn : ¬ f.IsOver)
    (hline : f.stage ≠ .inLine) {outcome : Outcome}
    (ho : outcome = .stopped ∨ f.calledOff = false) {cache : Cache ℚ}
    (before : List (Signal ℚ κ)) (hbefore : ∀ s ∈ before, s.IsPrelude)
    (hdue : ∀ t : Turn, t.reference ≠ f.reference → due t → due' t) :
    d.Continues due' ended ({ d with cache }.setFetch (f.finished outcome),
      before ++ .forget f.reference :: f.callers.map (.deliver · outcome)) := by
  have hgone : f.reference ∉ d.limiter.clients := fun hm => hline ((h.fetches f hf).line.mpr hm)
  exact h.finish hf hn ho rfl hbefore rfl (.same h.orderly fun hs => hgone hs.mem_clients) hgone
    nofun hdue

end Desk

end CommitMessage
