import CommitMessage.Proofs.Lookup.Fetches

/-! What turns at a desk can do. A desk stays live, and neither its cache nor those who wait for its
fetches change. -/

namespace CommitMessage.Desk

variable {κ : Type} {d d' : Desk ℚ κ} {f f' : Fetch κ} {r c : Reference} {due : Wake → Prop}

/-- The fetch of a reference gets into the line of the limiter. -/
def enter (d : Desk ℚ κ) (f : Fetch κ) : Desk ℚ κ := d.setFetch { f with stage := .inLine }

def withLine (d : Desk ℚ κ) (line : List (Reference × Limiter.Standing)) : Desk ℚ κ :=
  { d with limiter := { d.limiter with line } }

theorem Live.enter_taking (h : d.Live due (some f.reference)) (hf : f ∈ d.fetches)
    (hh : d.limiter.holder = none) (hl : d.limiter.line = []) :
    (d.enter f).Taking due f.reference := by
  have hmem : { f with stage := .inLine } ∈ (d.enter f).fetches :=
    mem_setFetch.mpr (.inr ⟨rfl, f, hf, rfl⟩)
  have hline : (d.enter f).limiter.line = [] := hl
  refine ⟨?_, fun g hg => ?_, by simp [hline], by simp [hline], fun c hc => ?_, fun g hg hr => ?_⟩
  · rw [enter, setFetch_references]
    exact h.nodup
  · rcases mem_setFetch.mp hg with ⟨hg, -⟩ | ⟨rfl, -⟩
    · exact h.calledOff g hg
    · exact h.calledOff f hf
  · rw [hline] at hc
    obtain rfl : c = f.reference := by simpa using hc
    exact ⟨_, hmem, rfl, rfl⟩
  · rcases mem_setFetch.mp hg with ⟨hg, -⟩ | ⟨rfl, -⟩
    · have ha := h.attended g hg (by simpa using Ne.symm hr)
      have hclients : d.limiter.clients = (d.enter f).limiter.line.map (·.1) := by
        simp [Limiter.clients, hh, hl, hline]
      exact hclients ▸ ha
    · exact absurd rfl hr

theorem Live.enter_line (h : d.Live due (some f.reference)) (hf : f ∈ d.fetches)
    (hs : f.stage ≠ .inLine) (hne : d.limiter.holder = none → d.limiter.line ≠ []) :
    ((d.enter f).withLine (d.limiter.line ++ [(f.reference, .waiting)])).Live due none := by
  have hmem : { f with stage := .inLine } ∈ (d.enter f).fetches :=
    mem_setFetch.mpr (.inr ⟨rfl, f, hf, rfl⟩)
  have hclients : ({ d.limiter with line := d.limiter.line ++ [(f.reference, .waiting)] } :
      Limiter ℚ Reference).clients = d.limiter.clients ++ [f.reference] := by
    simp [Limiter.clients]
  have hnew := h.not_mem_clients hf hs
  have hfair : ({ d.limiter with line := d.limiter.line ++ [(f.reference, .waiting)] } :
      Limiter ℚ Reference).Fair := by
    refine ⟨?_, h.fair.holding, fun hh e he => ?_, fun hh first rest hl => ?_⟩
    · rw [hclients]
      exact h.fair.nodup.append (List.nodup_singleton _) (List.disjoint_singleton.mpr hnew)
    · rcases List.mem_append.mp he with he | he
      · exact h.fair.held hh e he
      · rw [List.mem_singleton.mp he]
    · obtain ⟨first', rest', hl'⟩ := List.exists_cons_of_ne_nil (hne hh)
      obtain ⟨hfirst, hrest⟩ := h.fair.free hh first' rest' hl'
      simp only [hl', List.cons_append, List.cons.injEq] at hl
      obtain ⟨rfl, rfl⟩ := hl
      refine ⟨hfirst, fun e he => ?_⟩
      rcases List.mem_append.mp he with he | he
      · exact hrest e he
      · rw [List.mem_singleton.mp he]
  refine ⟨?_, fun g hg => ?_, hfair, fun c hc => ?_, fun g hg _ => ?_, h.sleeping, h.awake,
    fun c hc => ?_⟩
  · rw [withLine, enter, setFetch_references]
    exact h.nodup
  · rcases mem_setFetch.mp hg with ⟨hg, -⟩ | ⟨rfl, -⟩
    · exact h.calledOff g hg
    · exact h.calledOff f hf
  · have hc : c ∈ d.limiter.clients ++ [f.reference] := hclients ▸ hc
    rcases List.mem_append.mp hc with hc | hc
    · obtain ⟨g, hg, rfl, hgs⟩ := h.client c hc
      exact ⟨g, mem_setFetch.mpr (.inl ⟨hg, fun hr => hnew (hr ▸ hc)⟩), rfl, hgs⟩
    · exact ⟨_, hmem, (List.mem_singleton.mp hc).symm, rfl⟩
  · have hsub : ∀ c ∈ d.limiter.clients,
        c ∈ ((d.enter f).withLine (d.limiter.line ++ [(f.reference, .waiting)])).limiter.clients :=
      fun c hc => hclients ▸ List.mem_append_left _ hc
    rcases mem_setFetch.mp hg with ⟨hg, hr⟩ | ⟨rfl, -⟩
    · have ha := h.attended g hg (by simpa using Ne.symm hr)
      exact ⟨ha.fresh, fun hs => hsub _ (ha.inLine hs), ha.fetching, ha.finished⟩
    · refine ⟨by simp, fun _ => ?_, by simp, by simp⟩
      exact hclients ▸ List.mem_append_right _ List.mem_cons_self
  · rcases List.mem_append.mp hc with hc | hc
    · exact h.called c hc
    · cases List.mem_singleton.mp hc

/-- The first turn of a fetch is an attempt at the slot, or it gets into the line. -/
theorem fetchTurn_fresh (h : d.Live (fun w => due w ∨ w = .fetch f.reference) none)
    (hf : f ∈ d.fetches) (hs : f.stage = .fresh) (now : ℚ) :
    (d.limiter.holder = none ∧ d.limiter.line = [] ∧
        d.fetchTurn now f.reference = (d.enter f).attempt now f.reference ∧
        (d.enter f).Taking due f.reference) ∨
      d.fetchTurn now f.reference =
          ((d.enter f).withLine (d.limiter.line ++ [(f.reference, .waiting)]), []) ∧
        ((d.enter f).withLine (d.limiter.line ++ [(f.reference, .waiting)])).Live due none := by
  have hbusy := h.take (.inl rfl)
  have he : d.fetchTurn now f.reference =
      (d.enter f).withLimiter (d.limiter.request now f.reference) := by
    simp [fetchTurn, fetch?_of_mem h.nodup hf, hs, h.calledOff f hf, enter]
  rcases Limiter.request_cases h.fair now f.reference with ⟨hh, hl, hr⟩ | ⟨hne, hr⟩
  · rw [hr] at he
    exact .inl ⟨hh, hl, he, hbusy.enter_taking hf hh hl⟩
  · rw [hr] at he
    exact .inr ⟨he, hbusy.enter_line hf (by simp [hs]) hne⟩

theorem fetchTurn_cases (h : d.Live (fun w => due w ∨ w = .fetch r) none) (now : ℚ) :
    (d.fetchTurn now r = (d, []) ∧ d.Live due none) ∨
    ∃ f ∈ d.fetches, f.reference = r ∧ f.stage = .fresh ∧
      ((d.limiter.holder = none ∧ d.fetchTurn now r = (d.enter f).attempt now r ∧
          (d.enter f).Taking due r) ∨
        d.fetchTurn now r =
            ((d.enter f).withLine (d.limiter.line ++ [(r, .waiting)]), []) ∧
          ((d.enter f).withLine (d.limiter.line ++ [(r, .waiting)])).Live due none) := by
  have hbusy := h.take (.inl rfl)
  cases hf : d.fetch? r with
  | none =>
    refine .inl ⟨by simp [fetchTurn, hf], hbusy.free fun f hm hr => ?_⟩
    exact absurd hr (fetch?_eq_none hf f hm)
  | some f =>
    obtain ⟨hm, rfl⟩ := mem_of_fetch? hf
    have hc := h.calledOff f hm
    have hstay (hs : f.stage ≠ .fresh) : d.Live due none := by
      refine hbusy.free fun g hg hr => ?_
      obtain rfl := List.inj_on_of_nodup_map h.nodup hg hm hr
      have ha := h.attended g hg (by simp)
      exact ⟨fun hf => absurd hf hs, ha.inLine, fun hf => (ha.fetching hf).resolve_right (by simp),
        ha.finished⟩
    cases hs : f.stage with
    | inLine => exact .inl ⟨by simp [fetchTurn, hf, hs], hstay (by simp [hs])⟩
    | fetching => exact .inl ⟨by simp [fetchTurn, hf, hs, hc], hstay (by simp [hs])⟩
    | finished outcome => exact .inl ⟨by simp [fetchTurn, hf, hs], hstay (by simp [hs])⟩
    | fresh =>
      refine .inr ⟨f, hm, rfl, hs, ?_⟩
      exact (fetchTurn_fresh h hm hs now).imp_left fun ⟨hh, _, he, ht⟩ => ⟨hh, he, ht⟩

/-- The turn of one who is awake or called is an attempt at the slot. -/
theorem limiterTurn_cases (h : d.Live (fun w => due w ∨ w = .limiter r) none) (now : ℚ) :
    (d.limiterTurn now r = (d, []) ∧ d.Live due none) ∨
    (d.limiter.holder = some (r, .awake) ∧ d.limiterTurn now r = d.attempt now r ∧
      d.Taking due r) ∨
    ∃ line, d.limiter.holder = none ∧ d.limiter.line = (r, .called) :: line ∧
      d.limiterTurn now r = (d.withLine line).attempt now r ∧ (d.withLine line).Taking due r := by
  have hother {w : Wake} (h : due w ∨ w = .limiter r) (hne : w ≠ .limiter r) : due w :=
    h.resolve_right hne
  have hatt {clients : List Reference} (hc : d.limiter.clients = r :: clients) :
      ∀ f ∈ d.fetches, f.reference ≠ r → f.Attended due clients := fun f hf hr => by
    have ha := h.attended f hf (by simp)
    refine ⟨fun hs => hother (ha.fresh hs) (by simp), fun hs => ?_,
      fun hs => hother (ha.fetching hs) (by simp), ha.finished⟩
    exact (List.mem_cons.mp (hc ▸ ha.inLine hs)).resolve_left hr
  rcases Limiter.turn_cases h.fair now r with ⟨hh, he⟩ | ⟨hh, line, hl, he⟩ | ⟨hn, hl, he⟩
  · have hclients : d.limiter.clients = r :: d.limiter.line.map (·.1) := by
      simp [Limiter.clients, hh]
    refine .inr (.inl ⟨hh, by rw [limiterTurn, he, attempt], h.nodup, h.calledOff, ?_,
      h.fair.held (by simp [hh]), ?_, hatt hclients⟩)
    · exact hclients ▸ h.fair.nodup
    · exact hclients ▸ h.client
  · have hclients : d.limiter.clients = r :: line.map (·.1) := by
      simp [Limiter.clients, hh, hl]
    refine .inr (.inr ⟨line, hh, hl, by rw [limiterTurn, he]; rfl, h.nodup, h.calledOff, ?_,
      (h.fair.free hh _ _ hl).2, ?_, hatt hclients⟩)
    · exact hclients ▸ h.fair.nodup
    · exact hclients ▸ h.client
  · refine .inl ⟨by rw [limiterTurn, he]; rfl, h.nodup, h.calledOff, h.fair, h.client,
      fun f hf _ => ?_, fun c hc => hother (h.sleeping c hc) (by simp), fun c hc => ?_,
      fun c hc => ?_⟩
    · have ha := h.attended f hf (by simp)
      exact ⟨fun hs => hother (ha.fresh hs) (by simp), ha.inLine,
        fun hs => hother (ha.fetching hs) (by simp), ha.finished⟩
    · exact hother (h.awake c hc) fun he => by cases he; exact hn hc
    · exact hother (h.called c hc) fun he => by cases he; exact hl hc

theorem limiterWake_cases (d : Desk ℚ κ) (r : Reference) :
    (d.limiter.holder = some (r, .sleeping) ∧ d.limiterWake r =
      ({ d with limiter := { d.limiter with holder := some (r, .awake) } }, [.limiterTurn r])) ∨
    d.limiter.holder ≠ some (r, .sleeping) ∧ d.limiterWake r = (d, []) := by
  rcases Limiter.wake_cases d.limiter r with ⟨hh, he⟩ | ⟨hn, he⟩
  · exact .inl ⟨hh, by rw [Desk.limiterWake, he]; rfl⟩
  · exact .inr ⟨hn, by rw [Desk.limiterWake, he]; rfl⟩

/-- A sleeper that is woken has a turn coming. -/
theorem Live.limiterWake (h : d.Live (fun w => due w ∨ w = .sleep r) none) :
    (d.limiterWake r).1.Live (fun w => due w ∨ w ∈ wakes (d.limiterWake r).2) none := by
  have hother {w : Wake} (h : due w ∨ w = .sleep r) (hne : w ≠ .sleep r) : due w :=
    h.resolve_right hne
  have hatt : ∀ f ∈ d.fetches, f.Attended due d.limiter.clients := fun f hf => by
    have ha := h.attended f hf (by simp)
    exact ⟨fun hs => hother (ha.fresh hs) (by simp), ha.inLine,
      fun hs => hother (ha.fetching hs) (by simp), ha.finished⟩
  rcases limiterWake_cases d r with ⟨hh, he⟩ | ⟨hn, he⟩
  · have hclients : ({ d.limiter with holder := some (r, .awake) } :
        Limiter ℚ Reference).clients = d.limiter.clients := by
      simp [Limiter.clients, hh]
    have hfair : ({ d.limiter with holder := some (r, .awake) } : Limiter ℚ Reference).Fair := by
      refine ⟨hclients ▸ h.fair.nodup, fun c s hs => ?_, fun _ => h.fair.held (by simp [hh]),
        fun hn => by cases hn⟩
      cases hs
      simp
    rw [he]
    refine ⟨h.nodup, h.calledOff, hfair, hclients ▸ h.client, fun f hf _ => ?_,
      (fun c hc => by cases hc), fun c hc => ?_, fun c hc => ?_⟩
    · exact hclients ▸ (hatt f hf).mono fun _ => .inl
    · cases hc
      exact .inr List.mem_cons_self
    · exact .inl (hother (h.called c hc) (by simp))
  · rw [he]
    refine ⟨h.nodup, h.calledOff, h.fair, h.client, fun f hf _ => (hatt f hf).mono fun _ => .inl,
      fun c hc => .inl (hother (h.sleeping c hc) fun he => by cases he; exact hn hc),
      fun c hc => .inl (hother (h.awake c hc) (by simp)),
      fun c hc => .inl (hother (h.called c hc) (by simp))⟩

theorem Live.fetchTurn (h : d.Live (fun w => due w ∨ w = .fetch r) none) (now : ℚ) :
    (d.fetchTurn now r).1.Live (fun w => due w ∨ w ∈ wakes (d.fetchTurn now r).2) none := by
  rcases fetchTurn_cases h now with ⟨he, hl⟩ | ⟨f, hf, rfl, hs, ⟨-, he, ht⟩ | ⟨he, hl⟩⟩
  · rw [he]
    exact hl.mono fun _ => .inl
  · rw [he]
    exact ht.attempt now
  · rw [he]
    exact hl.mono fun _ => .inl

theorem Live.limiterTurn (h : d.Live (fun w => due w ∨ w = .limiter r) none) (now : ℚ) :
    (d.limiterTurn now r).1.Live (fun w => due w ∨ w ∈ wakes (d.limiterTurn now r).2) none := by
  rcases limiterTurn_cases h now with ⟨he, hl⟩ | ⟨-, he, ht⟩ | ⟨line, -, -, he, ht⟩
  · rw [he]
    exact hl.mono fun _ => .inl
  · rw [he]
    exact ht.attempt now
  · rw [he]
    exact ht.attempt now

/-! What turns leave alone -/

/-- Two states of one fetch, both over or both not. -/
structure Fetch.Like (f f' : Fetch κ) : Prop where
  reference : f'.reference = f.reference
  callers : f'.callers = f.callers
  finished : ∀ outcome, f'.stage = .finished outcome ↔ f.stage = .finished outcome

structure Like (d d' : Desk ℚ κ) : Prop where
  hosts : d'.hosts = d.hosts
  cache : d'.cache = d.cache
  old : ∀ f' ∈ d'.fetches, ∃ f ∈ d.fetches, f.Like f'
  new : ∀ f ∈ d.fetches, ∃ f' ∈ d'.fetches, f.Like f'

/-- Asks for no more than another turn, a sleep, or the page of a fetch. -/
def Signal.IsTurn (d : Desk ℚ κ) : Signal ℚ κ → Prop
  | .limiterTurn _ | .sleep _ _ => True
  | .request r url => (∃ f ∈ d.fetches, f.reference = r) ∧ url = r.url d.hosts
  | _ => False

/-- What a turn does to a desk. -/
structure Turned (d : Desk ℚ κ) (change : Desk ℚ κ × List (Signal ℚ κ)) : Prop where
  like : d.Like change.1
  signals : ∀ s ∈ change.2, s.IsTurn d
  one : ∀ r r' url url', .request r url ∈ change.2 → .request r' url' ∈ change.2 → r = r'

theorem Fetch.Like.refl (f : Fetch κ) : f.Like f := ⟨rfl, rfl, fun _ => Iff.rfl⟩

theorem Fetch.Like.trans {f'' : Fetch κ} (h : f.Like f') (h' : f'.Like f'') : f.Like f'' :=
  ⟨h'.reference.trans h.reference, h'.callers.trans h.callers,
    fun outcome => (h'.finished outcome).trans (h.finished outcome)⟩

theorem Like.refl (d : Desk ℚ κ) : d.Like d :=
  ⟨rfl, rfl, fun f hf => ⟨f, hf, .refl f⟩, fun f hf => ⟨f, hf, .refl f⟩⟩

theorem Like.trans {d'' : Desk ℚ κ} (h : d.Like d') (h' : d'.Like d'') : d.Like d'' := by
  refine ⟨h'.hosts.trans h.hosts, h'.cache.trans h.cache, fun f'' hf'' => ?_, fun f hf => ?_⟩
  · obtain ⟨f', hf', hl'⟩ := h'.old f'' hf''
    obtain ⟨f, hf, hl⟩ := h.old f' hf'
    exact ⟨f, hf, hl.trans hl'⟩
  · obtain ⟨f', hf', hl⟩ := h.new f hf
    obtain ⟨f'', hf'', hl'⟩ := h'.new f' hf'
    exact ⟨f'', hf'', hl.trans hl'⟩

theorem like_withLimiter (d : Desk ℚ κ) (limiter : Limiter ℚ Reference) :
    d.Like { d with limiter } :=
  ⟨rfl, rfl, fun f hf => ⟨f, hf, .refl f⟩, fun f hf => ⟨f, hf, .refl f⟩⟩

theorem like_setFetch (hnd : (d.fetches.map (·.reference)).Nodup) (hf : f ∈ d.fetches)
    (hl : f.Like f') : d.Like (d.setFetch f') := by
  refine ⟨rfl, rfl, fun g hg => ?_, fun g hg => ?_⟩
  · rcases mem_setFetch.mp hg with ⟨hg, -⟩ | ⟨rfl, -⟩
    · exact ⟨g, hg, .refl g⟩
    · exact ⟨f, hf, hl⟩
  · by_cases hr : g.reference = f.reference
    · obtain rfl := List.inj_on_of_nodup_map hnd hg hf hr
      exact ⟨f', mem_setFetch.mpr (.inr ⟨rfl, g, hg, hl.reference.symm⟩), hl⟩
    · exact ⟨g, mem_setFetch.mpr (.inl ⟨hg, hl.reference ▸ hr⟩), .refl g⟩

theorem like_enter (hnd : (d.fetches.map (·.reference)).Nodup) (hf : f ∈ d.fetches)
    (hs : f.stage = .fresh) : d.Like (d.enter f) :=
  like_setFetch hnd hf ⟨rfl, rfl, by simp [hs]⟩

theorem Like.turned {change : Desk ℚ κ × List (Signal ℚ κ)} (hl : d.Like d')
    (ht : d'.Turned change) : d.Turned change := by
  refine ⟨hl.trans ht.like, fun s hs => ?_, ht.one⟩
  have hq := ht.signals s hs
  cases s with
  | request r url =>
    obtain ⟨⟨f', hf', rfl⟩, hu⟩ := hq
    obtain ⟨f, hf, hlf⟩ := hl.old f' hf'
    exact ⟨⟨f, hf, hlf.reference.symm⟩, hl.hosts ▸ hu⟩
  | limiterTurn r => trivial
  | sleep r delay => trivial
  | _ => exact hq.elim

theorem turned_nil (hl : d.Like d') : d.Turned (d', []) := ⟨hl, nofun, nofun⟩

theorem mem_callTurns {line : List (Reference × Limiter.Standing)} {s : Signal ℚ κ}
    (hs : s ∈ callTurns line) : ∃ r, s = .limiterTurn r := by
  unfold callTurns at hs
  split at hs
  · exact ⟨_, List.mem_singleton.mp hs⟩
  · cases hs

theorem Taking.turned_attempt (h : d.Taking due c) (now : ℚ) : d.Turned (d.attempt now c) := by
  rcases h.attempt_cases now with ⟨last, delay, -, -, -, he⟩ | ⟨-, f, hf, rfl, hs, he⟩
  · rw [he]
    refine ⟨like_withLimiter d _, fun s hs => ?_, by simp⟩
    rw [List.mem_singleton.mp hs]
    trivial
  · rw [he]
    refine ⟨(like_withLimiter d _).trans (like_setFetch h.nodup hf ⟨rfl, rfl, by simp [hs]⟩),
      fun s hs => ?_, fun r r' url url' hr hr' => ?_⟩
    · rcases List.mem_append.mp hs with hs | hs
      · obtain ⟨r, rfl⟩ := mem_callTurns hs
        trivial
      · rw [List.mem_singleton.mp hs]
        exact ⟨⟨f, hf, rfl⟩, rfl⟩
    · have hone {r : Reference} {url : Text} (hr : (.request r url : Signal ℚ κ) ∈
          callTurns d.limiter.line ++ [.request f.reference (f.reference.url d.hosts)]) :
          r = f.reference := by
        rcases List.mem_append.mp hr with hr | hr
        · obtain ⟨_, he⟩ := mem_callTurns hr
          cases he
        · cases List.mem_singleton.mp hr
          rfl
      rw [hone hr, hone hr']

theorem Live.turned_fetchTurn (h : d.Live (fun w => due w ∨ w = .fetch r) none) (now : ℚ) :
    d.Turned (d.fetchTurn now r) := by
  rcases fetchTurn_cases h now with ⟨he, -⟩ | ⟨f, hf, rfl, hs, ⟨-, he, ht⟩ | ⟨he, -⟩⟩
  · rw [he]
    exact turned_nil (.refl d)
  · rw [he]
    exact (like_enter h.nodup hf hs).turned (ht.turned_attempt now)
  · rw [he]
    exact turned_nil ((like_enter h.nodup hf hs).trans (like_withLimiter _ _))

theorem Live.turned_limiterTurn (h : d.Live (fun w => due w ∨ w = .limiter r) none) (now : ℚ) :
    d.Turned (d.limiterTurn now r) := by
  rcases limiterTurn_cases h now with ⟨he, -⟩ | ⟨-, he, ht⟩ | ⟨line, -, -, he, ht⟩
  · rw [he]
    exact turned_nil (.refl d)
  · rw [he]
    exact ht.turned_attempt now
  · rw [he]
    exact (like_withLimiter d _).turned (ht.turned_attempt now)

theorem turned_limiterWake (d : Desk ℚ κ) (r : Reference) : d.Turned (d.limiterWake r) := by
  rcases limiterWake_cases d r with ⟨-, he⟩ | ⟨-, he⟩
  · rw [he]
    refine ⟨like_withLimiter d _, fun s hs => ?_, by simp⟩
    rw [List.mem_singleton.mp hs]
    trivial
  · rw [he]
    exact turned_nil (.refl d)

end CommitMessage.Desk
