import CommitMessage.Proofs.Lookup.Tending

/-! Calling off the fetches of a kind. Those that stand in line give up their places there, those
whose page is awaited get a turn, and afterwards no fetch of the kind goes on. -/

namespace CommitMessage.Desk

variable {κ : Type} {d : Desk ℚ κ} {f : Fetch κ} {change change' : Desk ℚ κ × List (Signal ℚ κ)}
  {due : Turn → Prop} {ended : List Reference}

theorem CarriesOn.trans (h : d.CarriesOn change) (h' : change.1.CarriesOn change')
    (hs : TellsStopped change) : d.CarriesOn (change'.1, change.2 ++ change'.2) := by
  refine ⟨fun f'' hf'' => ?_, fun f hf c hc => ?_, fun c o hm => ?_⟩
  · obtain ⟨f', hf', hr', hoff', hover', hcallers'⟩ := h'.old f'' hf''
    obtain ⟨f, hf, hr, hoff, hover, hcallers⟩ := h.old f' hf'
    exact ⟨f, hf, hr'.trans hr, hoff' ∘ hoff, fun o => hover' o ∘ hover o,
      fun _ hc => hcallers (hcallers' hc)⟩
  · rcases h.kept f hf c hc with ⟨f', hf', hc'⟩ | ⟨o, hm⟩
    · exact (h'.kept f' hf' c hc').imp_right fun ⟨o, hm⟩ => ⟨o, List.mem_append_right _ hm⟩
    · exact .inr ⟨o, List.mem_append_left _ hm⟩
  · rcases List.mem_append.mp hm with hm | hm
    · exact .inl (hs c o hm)
    · refine (h'.given c o hm).imp_right ?_
      rintro ⟨f', hf', hoff', hc', f'', hf'', hr'', ho''⟩
      obtain ⟨f, hf, hr, hoff, -, hcallers⟩ := h.old f' hf'
      refine ⟨f, hf, ?_, hcallers hc', f'', hf'', hr''.trans hr, ho''⟩
      by_contra hc
      simp [hoff (by simpa using hc)] at hoff'

theorem Continues.trans (h : d.Continues due ended change)
    (h' : change.1.Continues (fun t => due t ∨ t ∈ turnsIn change.2)
      (ended ++ forgetsIn change.2) change') (hs : TellsStopped change) :
    d.Continues due ended (change'.1, change.2 ++ change'.2) := by
  refine ⟨?_, h.carriesOn.trans h'.carriesOn hs⟩
  have hover : ended ++ forgetsIn (change.2 ++ change'.2) =
      ended ++ forgetsIn change.2 ++ forgetsIn change'.2 := by
    rw [forgetsIn, List.filterMap_append, ← List.append_assoc]
    rfl
  rw [hover]
  refine h'.tended.mono fun t ht => ?_
  rw [turnsIn_append, List.mem_append, ← or_assoc]
  exact ht

/-- A fetch is marked as called off while the limiter becomes `l` and the signals go out: enough for
it is that a fetch in line has left the line, and that one whose page is awaited gets a turn. -/
theorem Tended.markCalledOff (h : d.Tended due ended) (hf : f ∈ d.fetches)
    (l : Limiter ℚ Reference) (signals : List (Signal ℚ κ))
    (hl : l.Orderly) (hclients : l.clients = d.limiter.clients)
    (hcontenders : l.contenders ⊆ d.limiter.contenders)
    (hstirs : ∀ c, l.Stirs c → d.limiter.Stirs c ∨ .limiterTurn c ∈ signals)
    (hleaves : f.stage = .inLine → f.reference ∉ l.contenders)
    (hstops : f.stage = .fetching → .fetchTurn f.reference ∈ signals)
    (hnone : ∀ c o, .deliver c o ∉ signals) (hforgets : ∀ r, .forget r ∉ signals) :
    d.Continues due ended
        ({ d.setFetch { f with calledOff := true } with limiter := l }, signals) ∧
      TellsStopped ({ d.setFetch { f with calledOff := true } with limiter := l }, signals) ∧
      (∀ g ∈ (d.setFetch { f with calledOff := true }).fetches, g.reference = f.reference →
        g.calledOff = true ∨ g.IsOver) ∧
      ∀ g ∈ d.fetches, g.reference ≠ f.reference →
        g ∈ (d.setFetch { f with calledOff := true }).fetches := by
  have ht := h.fetches f hf
  have hfetches : ({ d.setFetch { f with calledOff := true } with limiter := l } :
      Desk ℚ κ).fetches = (d.setFetch { f with calledOff := true }).fetches := rfl
  refine ⟨⟨?_, carriesOn_replace hf hfetches rfl h.nodup (fun _ => rfl) (fun _ ho => ho) rfl
    hnone⟩, fun c o hm => absurd hm (hnone c o), fun g hg hr => ?_,
    fun g hg hr => mem_setFetch.mpr (.inl ⟨hg, hr⟩)⟩
  · rw [forgetsIn_eq_nil hforgets, List.append_nil]
    refine h.replace hf hfetches rfl hl (fun c _ => by rw [hclients])
      (fun c _ hm => hcontenders hm) (fun c hc => .inr ?_) (fun t _ hd => .inl hd) (.inl rfl)
      ⟨fun hs => .inl (ht.fresh hs), hclients ▸ ht.line, fun hs _ => hleaves hs,
        fun hs _ => .inr (List.mem_filterMap.mpr ⟨_, hstops hs, rfl⟩), ht.isOver, ht.alone⟩
    exact (hstirs c hc).imp (h.stirs c) fun hm => List.mem_filterMap.mpr ⟨_, hm, rfl⟩
  · rcases mem_setFetch.mp hg with ⟨-, hne⟩ | ⟨rfl, -⟩
    · exact absurd hr hne
    · exact .inl rfl

/-- A fetch is called off: it has a turn coming at which it ends, or stands in line to leave. -/
theorem Tended.callOff (h : d.Tended due ended) (hf : f ∈ d.fetches) :
    d.Continues due ended (d.callOff f) ∧ TellsStopped (d.callOff f) ∧
      (∀ g ∈ (d.callOff f).1.fetches, g.reference = f.reference →
        g.calledOff = true ∨ g.IsOver) ∧
      ∀ g ∈ d.fetches, g.reference ≠ f.reference → g ∈ (d.callOff f).1.fetches := by
  have hidle (hn : f.calledOff = true ∨ f.IsOver) : d.Continues due ended (d, []) ∧
      TellsStopped (d, []) ∧ (∀ g ∈ d.fetches, g.reference = f.reference →
        g.calledOff = true ∨ g.IsOver) ∧
      ∀ g ∈ d.fetches, g.reference ≠ f.reference → g ∈ d.fetches :=
    ⟨h.continues nofun nofun, tellsStopped_nil d,
      fun g hg hr => h.eq_of_reference hg hf hr ▸ hn, fun g hg _ => hg⟩
  have hsame (hs : f.stage ≠ .inLine) (signals : List (Signal ℚ κ)) :=
    h.markCalledOff hf d.limiter signals h.orderly rfl (fun _ hm => hm) (fun c hc => .inl hc)
      fun he => absurd he hs
  unfold Desk.callOff
  split
  · next hc => exact hidle (.inl hc)
  · split
    · next hs => exact hsame (by simp [hs]) [] (by simp [hs]) nofun nofun
    · next hs =>
      obtain ⟨called, hcancel, hstirs⟩ := h.orderly.cancel f.reference
      have he : (d.setFetch { f with calledOff := true }).withLimiter
          (d.limiter.cancel f.reference) =
          ({ d.setFetch { f with calledOff := true } with limiter := d.limiter.giveUp f.reference },
            called.map .limiterTurn) := by
        have hturns := withLimiter_turns (d := d.setFetch { f with calledOff := true })
          (d.limiter.giveUp f.reference) called []
        rw [List.append_nil] at hturns
        rw [hcancel, hturns]
        simp [withLimiter]
      have hcontenders := Limiter.contenders_giveUp d.limiter f.reference
      refine he ▸ h.markCalledOff hf (d.limiter.giveUp f.reference) (called.map .limiterTurn)
        (h.orderly.giveUp _) (Limiter.clients_giveUp _ _) (fun c hc => ?_) (fun c hc => ?_)
        (fun _ => by simp [hcontenders]) (by simp [hs]) (by simp) (by simp)
      · rw [hcontenders] at hc
        exact List.mem_of_mem_filter hc
      · by_cases hne : c = f.reference
        · subst hne
          exact (hstirs hc).imp_right fun hm => List.mem_map_of_mem hm
        · exact .inl (Limiter.stirs_giveUp hc hne)
    · next hs =>
      exact hsame (by simp [hs]) [.withdraw f.reference, .fetchTurn f.reference] (fun _ => by simp)
        (by simp) (by simp)
    · next outcome hs => exact hidle (.inr ⟨outcome, hs⟩)

/-- Fetches called off one after the other. -/
def callOffAll (fs : List (Fetch κ)) (change : Desk ℚ κ × List (Signal ℚ κ)) :
    Desk ℚ κ × List (Signal ℚ κ) :=
  fs.foldl (fun change f =>
    let (d, signals) := change.1.callOff f
    (d, change.2 ++ signals)) change

theorem callOffAll_eq (fs : List (Fetch κ)) (d : Desk ℚ κ) (signals : List (Signal ℚ κ)) :
    callOffAll fs (d, signals) =
      ((callOffAll fs (d, [])).1, signals ++ (callOffAll fs (d, [])).2) := by
  induction fs generalizing d signals with
  | nil => simp [callOffAll]
  | cons f fs ih =>
    have hcons (signals : List (Signal ℚ κ)) : callOffAll (f :: fs) (d, signals) =
        callOffAll fs ((d.callOff f).1, signals ++ (d.callOff f).2) := rfl
    rw [hcons, hcons, ih, ih _ ([] ++ (d.callOff f).2), List.nil_append, List.append_assoc]

theorem Tended.callOffAll (h : d.Tended due ended) (fs : List (Fetch κ))
    (hnd : (fs.map (·.reference)).Nodup) (hfs : ∀ f ∈ fs, f ∈ d.fetches) :
    d.Continues due ended (callOffAll fs (d, [])) ∧ TellsStopped (Desk.callOffAll fs (d, [])) ∧
      ∀ g ∈ (Desk.callOffAll fs (d, [])).1.fetches, g.reference ∈ fs.map (·.reference) →
        g.calledOff = true ∨ g.IsOver := by
  induction fs generalizing d due ended with
  | nil => exact ⟨h.continues nofun nofun, tellsStopped_nil d, nofun⟩
  | cons f fs ih =>
    obtain ⟨hfirst, hnd⟩ := List.nodup_cons.mp hnd
    obtain ⟨hone, htells, hoff, hkept⟩ := h.callOff (hfs f List.mem_cons_self)
    have hne : ∀ g ∈ fs, g.reference ≠ f.reference := fun g hg he =>
      hfirst (List.mem_map.mpr ⟨g, hg, he⟩)
    obtain ⟨hrest, htells', hoff'⟩ := ih hone.tended hnd
      fun g hg => hkept g (hfs g (List.mem_cons_of_mem _ hg)) (hne g hg)
    have he : Desk.callOffAll (f :: fs) (d, []) =
        ((Desk.callOffAll fs ((d.callOff f).1, [])).1,
          (d.callOff f).2 ++ (Desk.callOffAll fs ((d.callOff f).1, [])).2) :=
      callOffAll_eq fs _ ([] ++ (d.callOff f).2)
    rw [he]
    refine ⟨hone.trans hrest htells, fun c o hm => ?_, fun g' hg' hr => ?_⟩
    · exact (List.mem_append.mp hm).elim (htells c o) (htells' c o)
    · rcases List.mem_cons.mp hr with hr | hr
      · obtain ⟨g, hg, hgr, hc, ho, -⟩ := hrest.carriesOn.old g' hg'
        rcases hoff g hg (hgr.symm.trans hr) with hg | ⟨outcome, hs⟩
        · exact .inl (hc hg)
        · exact .inr ⟨outcome, ho outcome hs⟩
      · exact hoff' g' hg' hr

theorem Tended.callOffKind (h : d.Tended due ended) (kind : Reference.Kind) :
    d.Continues due ended (d.callOffKind kind) ∧ TellsStopped (d.callOffKind kind) ∧
      ∀ g ∈ (d.callOffKind kind).1.fetches, g.reference.kind = kind →
        g.calledOff = true ∨ g.IsOver := by
  obtain ⟨hall, htells, hoff⟩ := h.callOffAll (d.fetchesOf kind)
    (h.nodup.sublist (List.filter_sublist.map _)) fun f hf => List.mem_of_mem_filter hf
  refine ⟨hall, htells, fun g' hg' hk => hoff g' hg' ?_⟩
  obtain ⟨g, hg, hr, -⟩ := hall.carriesOn.old g' hg'
  refine hr ▸ List.mem_map_of_mem (List.mem_filter.mpr ⟨hg, ?_⟩)
  simpa [hr] using hk

end CommitMessage.Desk
