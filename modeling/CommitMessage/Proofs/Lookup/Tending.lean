import CommitMessage.Proofs.Lookup.Stopping

/-! The turns of a desk whose fetches may be called off. Each leaves the fetches tended, loses no
one who waits, and lets no fetch that is called off give anything but that it was stopped. -/

namespace CommitMessage.Desk

variable {κ : Type} {d : Desk ℚ κ} {f f' : Fetch κ} {r : Reference}
  {change : Desk ℚ κ × List (Signal ℚ κ)} {due due' : Turn → Prop} {ended : List Reference}

theorem setFetch_setFetch (hr : f.reference = f'.reference) :
    (d.setFetch f).setFetch f' = d.setFetch f' := by
  have hone (g : Fetch κ) : (if (if g.reference = f.reference then f else g).reference =
      f'.reference then f' else if g.reference = f.reference then f else g) =
      if g.reference = f'.reference then f' else g := by
    rw [← hr]
    by_cases hg : g.reference = f.reference <;> simp [hg]
  simp only [setFetch, List.map_map, Function.comp_def, hone]

theorem setFetch_self (hnd : (d.fetches.map (·.reference)).Nodup) (hf : f ∈ d.fetches) :
    d.setFetch f = d := by
  have hsame : (d.fetches.map fun g => if g.reference = f.reference then f else g) = d.fetches := by
    refine (List.map_congr_left fun g hg => ?_).trans (List.map_id _)
    split
    · next he => exact (List.inj_on_of_nodup_map hnd hg hf he).symm
    · rfl
  rw [setFetch, hsame]

/-! What the limiter asks for -/

theorem limiterSignal_eq (d : Desk ℚ κ) (signals : List (Signal ℚ κ))
    (s : Limiter.Signal ℚ Reference) : limiterSignal (d, signals) s =
      ((limiterSignal (d, []) s).1, signals ++ (limiterSignal (d, []) s).2) := by
  cases s with
  | turn r => rfl
  | sleep r delay => rfl
  | granted r =>
    simp only [limiterSignal]
    split <;> simp
  | left r =>
    simp only [limiterSignal]
    split <;> simp

theorem foldl_limiterSignal (d : Desk ℚ κ) (before : List (Signal ℚ κ))
    (signals : List (Limiter.Signal ℚ Reference)) : signals.foldl limiterSignal (d, before) =
      ((signals.foldl limiterSignal (d, [])).1,
        before ++ (signals.foldl limiterSignal (d, [])).2) := by
  induction signals generalizing d before with
  | nil => simp
  | cons s signals ih =>
    rw [List.foldl_cons, limiterSignal_eq, ih, List.foldl_cons]
    conv_rhs => rw [← Prod.mk.eta (p := limiterSignal (d, []) s), ih]
    rw [List.append_assoc]

theorem withLimiter_turns (l : Limiter ℚ Reference) (called : List Reference)
    (signals : List (Limiter.Signal ℚ Reference)) :
    d.withLimiter (l, called.map .turn ++ signals) = ((d.withLimiter (l, signals)).1,
      called.map .limiterTurn ++ (d.withLimiter (l, signals)).2) := by
  have hturns (d : Desk ℚ κ) (before : List (Signal ℚ κ)) :
      (called.map Limiter.Signal.turn).foldl limiterSignal (d, before) =
        (d, before ++ called.map .limiterTurn) := by
    induction called generalizing before with
    | nil => simp
    | cons c called ih => simp [limiterSignal, ih]
  rw [withLimiter, List.foldl_append, hturns, foldl_limiterSignal, List.nil_append]
  rfl

/-- Nothing is told but that a fetch was stopped. -/
def TellsStopped (change : Desk ℚ κ × List (Signal ℚ κ)) : Prop :=
  ∀ c outcome, .deliver c outcome ∈ change.2 → outcome = .stopped

/-- The fetch of a client stays at the limiter, or leaves it for its request. -/
theorem Tended.shift (h : d.Tended due ended) (hf : f ∈ d.fetches) (hn : ¬ f.IsOver)
    (hoff : f.calledOff = false) (hdue : ∀ t : Turn, t.reference ≠ f.reference → due t → due' t)
    {l : Limiter ℚ Reference} {stage : Stage} {called : List Reference}
    {signals : List (Signal ℚ κ)} (hs : d.limiter.Shifts l f.reference called)
    (hstage : stage = .inLine ∧ f.reference ∈ l.clients ∨
      stage = .fetching ∧ f.reference ∉ l.clients)
    (hcalled : ∀ c ∈ called, .limiterTurn c ∈ signals)
    (hforgets : ∀ r, .forget r ∉ signals) (hnone : ∀ c o, .deliver c o ∉ signals) :
    d.Continues due' ended ({ d.setFetch { f with stage } with limiter := l }, signals) ∧
      TellsStopped ({ d.setFetch { f with stage } with limiter := l }, signals) := by
  have hnot : f.reference ∉ ended := fun hm => hn ((h.fetches f hf).isOver.mpr hm)
  have hfetches : ({ d.setFetch { f with stage } with limiter := l } : Desk ℚ κ).fetches =
      (d.setFetch { f with stage }).fetches := rfl
  refine ⟨⟨?_, carriesOn_replace hf hfetches rfl h.nodup id (fun o ho => absurd ⟨o, ho⟩ hn)
    rfl hnone⟩, fun c o hm => absurd hm (hnone c o)⟩
  rw [forgetsIn_eq_nil hforgets, List.append_nil]
  refine h.replace hf hfetches rfl hs.orderly hs.clients hs.contenders
    (fun c hc => ?_) (fun t ht hd => .inl (hdue t ht hd)) (.inl rfl) ?_
  · exact (hs.stirs c hc).imp_right fun hm =>
      .inr (List.mem_filterMap.mpr ⟨_, hcalled c hm, rfl⟩)
  · have hno {P : Prop} (hc : f.calledOff = true) : P := by
      rw [hoff] at hc
      cases hc
    rcases hstage with ⟨rfl, hm⟩ | ⟨rfl, hm⟩
    · exact ⟨nofun, ⟨fun _ => hm, fun _ => rfl⟩, fun _ => hno, nofun,
        ⟨nofun, fun hm => absurd hm hnot⟩, nofun⟩
    · exact ⟨nofun, ⟨nofun, fun hc => absurd hc hm⟩, nofun, fun _ => hno,
        ⟨nofun, fun hm => absurd hm hnot⟩, nofun⟩

/-- What the limiter does for the client of a fetch that stands in line, or comes to it. -/
theorem Tended.react (h : d.Tended due ended) (hf : f ∈ d.fetches) (hn : ¬ f.IsOver)
    {change : Limiter ℚ Reference × List (Limiter.Signal ℚ Reference)}
    (hreacts : d.limiter.Reacts f.reference change)
    (hoff : f.calledOff = false ∨ ∃ l' signals, change = (l', signals ++ [.left f.reference]))
    (hdue : ∀ t : Turn, t.reference ≠ f.reference → due t → due' t) :
    d.Continues due' ended ((d.setFetch { f with stage := .inLine }).withLimiter change) ∧
      TellsStopped ((d.setFetch { f with stage := .inLine }).withLimiter change) := by
  have hget (l : Limiter ℚ Reference) : ({ d.setFetch { f with stage := .inLine } with
      limiter := l } : Desk ℚ κ).fetch? f.reference = some { f with stage := .inLine } := by
    refine fetch?_of_mem (f := { f with stage := .inLine }) ?_
      (mem_setFetch.mpr (.inr ⟨rfl, f, hf, rfl⟩))
    rw [setFetch_references]
    exact h.nodup
  have hset (f' : Fetch κ) (hr : f'.reference = f.reference) (l : Limiter ℚ Reference) :
      ({ d.setFetch { f with stage := .inLine } with limiter := l } : Desk ℚ κ).setFetch f' =
        { d.setFetch f' with limiter := l } := by
    have hboth := setFetch_setFetch (d := d) (f := { f with stage := .inLine }) hr.symm
    exact congrArg (fun d : Desk ℚ κ => { d with limiter := l }) hboth
  have hstays {l : Limiter ℚ Reference} {signals : List (Limiter.Signal ℚ Reference)}
      (hlast : signals.getLast? ≠ some (.left f.reference))
      (hoff : f.calledOff = false ∨
        ∃ l' before, (l, signals) = (l', before ++ [.left f.reference])) :
      f.calledOff = false := by
    refine hoff.resolve_right ?_
    rintro ⟨l', before, he⟩
    cases he
    simp at hlast
  cases hreacts with
  | waits hs hc =>
    exact h.shift hf hn (hstays (by simp) hoff) hdue hs (.inl ⟨rfl, hc⟩) nofun nofun nofun
  | sleeps delay hs hc =>
    exact h.shift hf hn (hstays (by simp) hoff) hdue hs (.inl ⟨rfl, hc⟩) nofun (by simp) (by simp)
  | @grants l' called hs hc =>
    have he : (d.setFetch { f with stage := .inLine }).withLimiter
        (l', called.map .turn ++ [.granted f.reference]) =
        ({ d.setFetch { f with stage := .fetching } with limiter := l' },
          called.map .limiterTurn ++ [.request f.reference (f.reference.url d.hosts)]) := by
      rw [withLimiter_turns]
      simp only [withLimiter, List.foldl_cons, List.foldl_nil, limiterSignal, hget l',
        hset { f with stage := .fetching } rfl, List.nil_append]
      rfl
    rw [he]
    exact h.shift hf hn (hstays (by simp) hoff) hdue hs (.inr ⟨rfl, hc⟩)
      (fun c hm => by simpa using hm) (by simp) (by simp)
  | @leaves l' called hs hc =>
    have he : (d.setFetch { f with stage := .inLine }).withLimiter
        (l', called.map .turn ++ [.left f.reference]) =
        ({ d.setFetch (f.finished .stopped) with limiter := l' }, called.map .limiterTurn ++
          .forget f.reference :: f.callers.map (.deliver · .stopped)) := by
      rw [withLimiter_turns]
      simp only [withLimiter, List.foldl_cons, List.foldl_nil, limiterSignal, hget l', Desk.finish,
        hset { f with stage := .finished .stopped, callers := [] } rfl, List.nil_append]
      rfl
    rw [he]
    refine ⟨h.finish hf hn (.inl rfl) rfl (fun s hm => ?_) rfl hs hc
      (fun c hm => List.mem_map_of_mem hm) hdue, fun c o hm => ?_⟩
    · obtain ⟨c, -, rfl⟩ := List.mem_map.mp hm
      trivial
    · simp only [List.mem_append, List.mem_map, List.mem_cons, reduceCtorEq, and_false,
        exists_false, false_or] at hm
      obtain ⟨c', -, he⟩ := hm
      cases he
      rfl

/-! Turns -/

/-- A turn that nothing needs. -/
theorem Tended.drop (h : d.Tended due ended) (hdue : ∀ t, due t → due' t ∨
      (∃ r, t = .fetch r ∧ ∀ f ∈ d.fetches, f.reference = r →
        f.stage ≠ .fresh ∧ ¬ (f.stage = .fetching ∧ f.calledOff = true)) ∨
      ∃ r, t = .limiter r ∧ ¬ d.limiter.Stirs r) : d.Tended due' ended := by
  have hfetch {f : Fetch κ} (hf : f ∈ d.fetches) (hd : due (.fetch f.reference))
      (hs : f.stage = .fresh ∨ f.stage = .fetching ∧ f.calledOff = true) :
      due' (.fetch f.reference) := by
    rcases hdue _ hd with hd | ⟨r, he, hr⟩ | ⟨r, he, -⟩
    · exact hd
    · cases he
      obtain ⟨hfresh, hstops⟩ := hr f hf rfl
      exact absurd hs (not_or.mpr ⟨hfresh, hstops⟩)
    · cases he
  refine ⟨h.nodup, h.orderly, h.client, fun c hc => ?_, fun f hf => ?_, h.once, h.known⟩
  · rcases hdue _ (h.stirs c hc) with hd | ⟨r, he, -⟩ | ⟨r, he, hr⟩
    · exact hd
    · cases he
    · cases he
      exact absurd hc hr
  · have ht := h.fetches f hf
    exact ⟨fun hs => hfetch hf (ht.fresh hs) (.inl hs), ht.line, ht.leaves,
      fun hs hc => hfetch hf (ht.stops hs hc) (.inr ⟨hs, hc⟩), ht.isOver, ht.alone⟩

theorem tellsStopped_nil (d : Desk ℚ κ) : TellsStopped (d, []) := nofun

theorem tellsStopped_finish (d : Desk ℚ κ) (callers : List κ) (r : Reference) :
    TellsStopped (d, .forget r :: callers.map (.deliver · .stopped)) := by
  intro c o hm
  rcases List.mem_cons.mp hm with hm | hm
  · cases hm
  · obtain ⟨c', -, he⟩ := List.mem_map.mp hm
    cases he
    rfl

theorem Tended.fetchTurn (h : d.Tended (fun t => due t ∨ t = .fetch r) ended) (now : ℚ) :
    d.Continues due ended (d.fetchTurn now r) ∧ TellsStopped (d.fetchTurn now r) := by
  have hdue : ∀ t : Turn, t.reference ≠ r → (due t ∨ t = .fetch r) → due t := by
    rintro t ht (hd | rfl)
    · exact hd
    · exact absurd rfl ht
  have hidle (hs : ∀ f ∈ d.fetches, f.reference = r →
      f.stage ≠ .fresh ∧ ¬ (f.stage = .fetching ∧ f.calledOff = true)) :
      d.Continues due ended (d, []) ∧ TellsStopped (d, []) := by
    have hdrop : d.Tended due ended := h.drop fun t hd => hd.imp_right fun he => .inl ⟨r, he, hs⟩
    exact ⟨hdrop.continues (by simp) (by simp), tellsStopped_nil d⟩
  cases hget : d.fetch? r with
  | none =>
    simp only [Desk.fetchTurn, hget]
    exact hidle fun f hf hr => absurd hr (fetch?_eq_none hget f hf)
  | some f =>
    obtain ⟨hf, rfl⟩ := mem_of_fetch? hget
    have hends (hn : ¬ f.IsOver) (hline : f.stage ≠ .inLine) :
        d.Continues due ended (d.finish f .stopped) ∧ TellsStopped (d.finish f .stopped) :=
      ⟨h.finishHere hf hn hline (.inl rfl) [] (by simp) hdue,
        tellsStopped_finish _ f.callers f.reference⟩
    have hother (hs : f.stage ≠ .fresh ∧ ¬ (f.stage = .fetching ∧ f.calledOff = true)) :
        d.Continues due ended (d, []) ∧ TellsStopped (d, []) :=
      hidle fun g hg hr => by rwa [h.eq_of_reference hg hf hr]
    cases hs : f.stage with
    | fresh =>
      have hn : ¬ f.IsOver := by simp [Fetch.IsOver, hs]
      cases hc : f.calledOff with
      | true =>
        simp only [Desk.fetchTurn, hget, hs, hc, if_true]
        exact hends hn (by simp [hs])
      | false =>
        simp only [Desk.fetchTurn, hget, hs, hc, Bool.false_eq_true, if_false]
        have hout : f.reference ∉ d.limiter.clients := fun hm => by
          have hline := (h.fetches f hf).line.mpr hm
          simp [hs] at hline
        have hreact := h.react hf hn (h.orderly.reacts_request hout now) (.inl hc) hdue
        rwa [hc] at hreact
    | fetching =>
      cases hc : f.calledOff with
      | true =>
        simp only [Desk.fetchTurn, hget, hs, hc, if_true]
        exact hends (by simp [Fetch.IsOver, hs]) (by simp [hs])
      | false =>
        simp only [Desk.fetchTurn, hget, hs, hc, Bool.false_eq_true, if_false]
        exact hother (by simp [hs, hc])
    | inLine =>
      simp only [Desk.fetchTurn, hget, hs]
      exact hother (by simp [hs])
    | finished outcome =>
      simp only [Desk.fetchTurn, hget, hs]
      exact hother (by simp [hs])

theorem Tended.limiterTurn (h : d.Tended (fun t => due t ∨ t = .limiter r) ended) (now : ℚ) :
    d.Continues due ended (d.limiterTurn now r) ∧ TellsStopped (d.limiterTurn now r) := by
  rcases h.orderly.reacts_turn now r with ⟨hcalm, he⟩ | ⟨hr, hreacts, hlast⟩
  · have hdrop : d.Tended due ended :=
      h.drop fun t hd => hd.imp_right fun ht => .inr ⟨r, ht, hcalm⟩
    rw [Desk.limiterTurn, he]
    exact ⟨hdrop.continues (by simp) (by simp), tellsStopped_nil d⟩
  · obtain ⟨f, hf, rfl⟩ := h.client r hr
    have hs : f.stage = .inLine := (h.fetches f hf).line.mpr hr
    have hself : d.setFetch { f with stage := .inLine } = d := by
      rw [← hs]
      exact setFetch_self h.nodup hf
    have hoff : f.calledOff = false ∨
        ∃ l' signals, d.limiter.turn now f.reference = (l', signals ++ [.left f.reference]) := by
      refine hlast.symm.imp_left fun hm => ?_
      by_contra hc
      exact (h.fetches f hf).leaves hs (by simpa using hc) hm
    have hdue : ∀ t : Turn, t.reference ≠ f.reference → (due t ∨ t = .limiter f.reference) →
        due t := fun t ht hd => hd.resolve_right fun he => ht (by rw [he]; rfl)
    have hreact := h.react hf (by simp [Fetch.IsOver, hs]) hreacts hoff hdue
    rwa [hself] at hreact

/-- The limiter changes, and no client comes or goes. -/
theorem Tended.setLimiter (h : d.Tended due ended) {l : Limiter ℚ Reference} (horderly : l.Orderly)
    (hclients : l.clients = d.limiter.clients) (hcontenders : l.contenders ⊆ d.limiter.contenders)
    (hstirs : ∀ c, l.Stirs c → d.limiter.Stirs c ∨ due' (.limiter c))
    (hdue : ∀ t, due t → due' t) : Tended due' ended { d with limiter := l } := by
  refine ⟨h.nodup, horderly, fun c hc => h.client c (hclients ▸ hc), fun c hc => ?_, fun f hf => ?_,
    h.once, h.known⟩
  · exact (hstirs c hc).elim (fun hc => hdue _ (h.stirs c hc)) id
  · have ht := h.fetches f hf
    refine ⟨fun hs => hdue _ (ht.fresh hs), ?_, fun hs hc hm => ht.leaves hs hc (hcontenders hm),
      fun hs hc => hdue _ (ht.stops hs hc), ht.isOver, ht.alone⟩
    rw [hclients]
    exact ht.line

theorem Tended.limiterWake (h : d.Tended due ended) (r : Reference) :
    d.Continues due ended (d.limiterWake r) ∧ TellsStopped (d.limiterWake r) := by
  have hidle : d.Continues due ended (d.withLimiter (d.limiter, [])) ∧
      TellsStopped (d.withLimiter (d.limiter, [])) :=
    ⟨h.continues nofun nofun, tellsStopped_nil d⟩
  unfold Desk.limiterWake Limiter.wake
  split
  · next holder hh =>
    split
    · next he =>
      subst he
      let awake : Limiter ℚ Reference := { d.limiter with holder := some (holder, .awake) }
      have hclients : awake.clients = d.limiter.clients := by simp [awake, Limiter.clients, hh]
      have hcontenders : awake.contenders = d.limiter.contenders := by
        simp [awake, Limiter.contenders, hh, Limiter.holderContending, Limiter.Holding.contends]
      have horderly : awake.Orderly :=
        ⟨hclients ▸ h.orderly.nodup, fun _ => h.orderly.held (by simp [hh]), h.orderly.behind⟩
      have hwake : d.withLimiter (awake, [.turn holder]) =
          ({ d with limiter := awake }, [.limiterTurn holder]) := rfl
      rw [hwake]
      refine ⟨⟨?_, carriesOn_same rfl (by simp)⟩, by simp [TellsStopped]⟩
      rw [forgetsIn_eq_nil (by simp), List.append_nil]
      refine h.setLimiter horderly hclients (fun c hm => hcontenders ▸ hm) (fun c hc => ?_)
        fun t ht => .inl ht
      rcases hc with hc | hc | hc
      · cases hc
        exact .inr (.inr (List.mem_singleton_self _))
      · cases hc
      · exact .inl (.inr (.inr hc))
    · exact hidle
  · exact hidle

theorem Tended.reply (h : d.Tended due ended) (now : ℚ) (r : Reference) (reply : Reply) :
    d.Continues due ended (d.reply now r reply) := by
  cases hget : d.fetch? r with
  | none =>
    simp only [Desk.reply, hget]
    exact h.continues (by simp) (by simp)
  | some f =>
    obtain ⟨hf, rfl⟩ := mem_of_fetch? hget
    by_cases hs : f.stage = .fetching
    · have hn : ¬ f.IsOver := by simp [Fetch.IsOver, hs]
      cases hc : f.calledOff with
      | true =>
        have he : d.reply now f.reference reply = d.finish f .stopped := by
          simp [Desk.reply, hget, hs, hc]
        rw [he]
        exact h.finishHere hf hn (by simp [hs]) (.inl rfl) [] (by simp) fun _ _ hd => hd
      | false =>
        obtain ⟨notes, hnotes, he⟩ := reply_fetching hget hs hc now reply
        rw [he]
        refine h.finishHere hf hn (by simp [hs]) (.inr hc) notes (fun s hm => ?_) fun _ _ hd => hd
        obtain ⟨e, rfl⟩ := hnotes s hm
        trivial
    · have he : d.reply now f.reference reply = (d, []) := by simp [Desk.reply, hget, hs]
      rw [he]
      exact h.continues (by simp) (by simp)

/-- A fetch that is over is forgotten, and no one waited for it. -/
theorem Tended.forget (h : d.Tended due (r :: ended)) : d.Continues due ended (d.forget r) := by
  obtain ⟨he, hnotes⟩ := forget_cases d r
  obtain ⟨hr, honce⟩ := List.nodup_cons.mp h.once
  have hno {s : Signal ℚ κ} (hs : ∀ e, s ≠ .note e) : s ∉ (d.forget r).2 := fun hm => by
    obtain ⟨e, he⟩ := hnotes s hm
    exact hs e he
  have hmem {f : Fetch κ} : f ∈ (d.forget r).1.fetches ↔ f ∈ d.fetches ∧ f.reference ≠ r := by
    simp [he]
  have hlimiter : (d.forget r).1.limiter = d.limiter := by rw [he]
  have hover : ∀ f ∈ d.fetches, f.reference = r → f.IsOver := fun f hf hfr =>
    (h.fetches f hf).isOver.mpr (hfr ▸ List.mem_cons_self)
  refine ⟨?_, fun f hf => ?_, fun f hf c hc => ?_, fun c o hm => absurd hm (hno nofun)⟩
  · rw [forgetsIn_eq_nil fun r' => hno nofun, List.append_nil]
    refine ⟨?_, hlimiter ▸ h.orderly, fun c hc => ?_, fun c hc => ?_, fun f hf => ?_, honce,
      fun c hc => ?_⟩
    · rw [he]
      exact h.nodup.sublist (List.filter_sublist.map _)
    · rw [hlimiter] at hc
      obtain ⟨f, hf, rfl⟩ := h.client c hc
      refine ⟨f, hmem.mpr ⟨hf, fun hfr => ?_⟩, rfl⟩
      obtain ⟨outcome, ho⟩ := hover f hf hfr
      rw [(h.fetches f hf).line.mpr hc] at ho
      cases ho
    · rw [hlimiter] at hc
      exact .inl (h.stirs c hc)
    · obtain ⟨hf, hne⟩ := hmem.mp hf
      have ht := h.fetches f hf
      rw [hlimiter]
      refine ⟨fun hs => .inl (ht.fresh hs), ht.line, ht.leaves, fun hs hc => .inl (ht.stops hs hc),
        ht.isOver.trans ?_, ht.alone⟩
      simp [hne]
    · obtain ⟨f, hf, rfl⟩ := h.known c (List.mem_cons_of_mem _ hc)
      exact ⟨f, hmem.mpr ⟨hf, fun hfr => hr (hfr ▸ hc)⟩, rfl⟩
  · exact ⟨f, (hmem.mp hf).1, rfl, id, fun _ => id, fun _ => id⟩
  · refine .inl ⟨f, hmem.mpr ⟨hf, fun hfr => ?_⟩, hc⟩
    rw [(h.fetches f hf).alone (hover f hf hfr)] at hc
    cases hc

/-! Those who ask and leave -/

/-- One who gets no outcome at once waits, and so does everyone who waited before. -/
theorem Tended.ask (h : d.Tended due ended) (now : ℚ) (caller : κ) (pass : Option Text)
    (r : Reference) :
    (d.ask now caller pass r).2.1.Tended
        (fun t => due t ∨ t ∈ turnsIn (d.ask now caller pass r).2.2) ended ∧
      ((d.ask now caller pass r).1 = none → (d.ask now caller pass r).2.1.Waits caller) ∧
      ∀ c, d.Waits c → (d.ask now caller pass r).2.1.Waits c := by
  rcases ask_eq d now caller pass r with
    ⟨outcome, notes, he, hnotes, -⟩ | ⟨-, -, ⟨f, hget, hn, he⟩ | ⟨hget, he⟩⟩
  · rw [he]
    exact ⟨h.mono fun _ => .inl, nofun, fun _ hc => hc⟩
  · obtain ⟨hf, rfl⟩ := mem_of_fetch? hget
    have ht := h.fetches f hf
    rw [he]
    have hnew : { f with callers := f.callers ++ [caller] } ∈
        (d.setFetch { f with callers := f.callers ++ [caller] }).fetches :=
      mem_setFetch.mpr (.inr ⟨rfl, f, hf, rfl⟩)
    refine ⟨?_, fun _ => ⟨_, hnew, by simp⟩, fun c ⟨g, hg, hc⟩ => ?_⟩
    · have hset : (d.setFetch { f with callers := f.callers ++ [caller] }).fetches =
          (d.setFetch { f with callers := f.callers ++ [caller] }).fetches := rfl
      refine h.replace hf hset rfl h.orderly (fun _ _ => Iff.rfl) (fun _ _ hm => hm)
        (fun c hc => .inr (.inl (h.stirs c hc))) (fun t _ hd => .inl hd) (.inl rfl)
        ⟨fun hs => .inl (ht.fresh hs), ht.line, ht.leaves, fun hs hc => .inl (ht.stops hs hc),
          ht.isOver, fun ho => absurd ho hn⟩
    · by_cases hr : g.reference = f.reference
      · obtain rfl := h.eq_of_reference hg hf hr
        exact ⟨_, hnew, List.mem_append_left _ hc⟩
      · exact ⟨g, mem_setFetch.mpr (.inl ⟨hg, hr⟩), hc⟩
  · rw [he]
    have hnone := fetch?_eq_none hget
    have hover : r ∉ ended := fun hm => by
      obtain ⟨f, hf, hr⟩ := h.known r hm
      exact hnone f hf hr
    have hout : r ∉ d.limiter.clients := fun hm => by
      obtain ⟨f, hf, hr⟩ := h.client r hm
      exact hnone f hf hr
    refine ⟨⟨?_, h.orderly, fun c hc => ?_, fun c hc => .inl (h.stirs c hc), fun f hf => ?_, h.once,
      fun c hc => ?_⟩, fun _ => ⟨_, List.mem_append_right _ List.mem_cons_self,
        List.mem_cons_self⟩, fun c ⟨g, hg, hc⟩ => ⟨g, List.mem_append_left _ hg, hc⟩⟩
    · rw [List.map_append]
      exact h.nodup.append (List.nodup_singleton _) (by simpa using hnone)
    · obtain ⟨f, hf, hr⟩ := h.client c hc
      exact ⟨f, List.mem_append_left _ hf, hr⟩
    · rcases List.mem_append.mp hf with hf | hf
      · exact (h.fetches f hf).mono fun _ => .inl
      · rw [List.mem_singleton.mp hf]
        exact ⟨fun _ => .inr (List.mem_singleton_self _),
          ⟨nofun, fun hm => absurd hm hout⟩, nofun, nofun,
          ⟨nofun, fun hm => absurd hm hover⟩, nofun⟩
    · obtain ⟨f, hf, hr⟩ := h.known c hc
      exact ⟨f, List.mem_append_left _ hf, hr⟩

theorem Tended.leave [DecidableEq κ] (h : d.Tended due ended) (caller : κ) :
    (d.leave caller).Tended due ended := by
  have hrefs : (d.leave caller).fetches.map (·.reference) = d.fetches.map (·.reference) := by
    simp [Desk.leave, Function.comp_def]
  have hkept {c : Reference} (hc : ∃ f ∈ d.fetches, f.reference = c) :
      ∃ f ∈ (d.leave caller).fetches, f.reference = c := by
    obtain ⟨f, hf, rfl⟩ := hc
    exact ⟨_, List.mem_map_of_mem hf, rfl⟩
  refine ⟨hrefs ▸ h.nodup, h.orderly, fun c hc => hkept (h.client c hc), h.stirs, fun f hf => ?_,
    h.once, fun c hc => hkept (h.known c hc)⟩
  obtain ⟨g, hg, rfl⟩ := List.mem_map.mp hf
  have ht := h.fetches g hg
  exact ⟨ht.fresh, ht.line, ht.leaves, ht.stops, ht.isOver, fun ho => by simp [ht.alone ho]⟩

theorem Waits.leave [DecidableEq κ] {c caller : κ} (h : d.Waits c) (hne : c ≠ caller) :
    (d.leave caller).Waits c := by
  obtain ⟨f, hf, hc⟩ := h
  exact ⟨_, List.mem_map_of_mem hf, List.mem_filter.mpr ⟨hc, by simpa using hne⟩⟩

theorem Tended.leaveAll [DecidableEq κ] (h : d.Tended due ended) (callers : List κ) :
    (callers.foldl Desk.leave d).Tended due ended :=
  List.foldlRecOn (motive := fun d : Desk ℚ κ => d.Tended due ended) callers Desk.leave h
    fun _ hd c _ => hd.leave c

theorem Waits.leaveAll [DecidableEq κ] {c : κ} {callers : List κ} (h : d.Waits c)
    (hc : c ∉ callers) : (callers.foldl Desk.leave d).Waits c :=
  List.foldlRecOn (motive := fun d : Desk ℚ κ => d.Waits c) callers Desk.leave h
    fun _ hd _ hb => hd.leave fun he => hc (he ▸ hb)

end CommitMessage.Desk
