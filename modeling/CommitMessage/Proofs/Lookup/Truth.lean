import CommitMessage.Proofs.Lookup.Answers

/-! When the answers of a network do not change, a desk that has never held another one gives no
other: not from its cache, and not through a fetch that many share. -/

namespace CommitMessage.Desk

variable {κ : Type} {d d' : Desk ℚ κ} {f : Fetch κ} {r : Reference} {due : Wake → Prop}

/-- Nothing at a desk disagrees with the answers, and those who wait have asked for what they
wait for. -/
structure Truthful (answer : Reference → Option Resolution) (wanted : κ → Reference → Prop)
    (d : Desk ℚ κ) : Prop where
  valid : ∀ f ∈ d.fetches, f.reference.isValid = true
  kept : ∀ r entry, (r, entry) ∈ d.cache.entries → answer r = some (.ofVerdict r entry.verdict)
  finished : ∀ f ∈ d.fetches, ∀ outcome, f.stage = .finished outcome →
    outcome.IsFor (answer f.reference)
  wanted : ∀ f ∈ d.fetches, ∀ c ∈ f.callers, wanted c f.reference

def forgetsIn (signals : List (Signal ℚ κ)) : List Reference :=
  signals.filterMap fun
    | .forget r => some r
    | _ => none

def Waits (d : Desk ℚ κ) (c : κ) : Prop := ∃ f ∈ d.fetches, c ∈ f.callers

/-- A reference whose fetch is over and not forgotten. -/
def IsOver (d : Desk ℚ κ) (r : Reference) : Prop := ∃ f ∈ d.fetches, f.reference = r ∧ f.IsOver

/-- A change that keeps to the truth, and leaves no one waiting for nothing. -/
structure Honest (answer : Reference → Option Resolution) (wanted : κ → Reference → Prop)
    (d : Desk ℚ κ) (change : Desk ℚ κ × List (Signal ℚ κ)) : Prop where
  hosts : change.1.hosts = d.hosts
  truthful : change.1.Truthful answer wanted
  delivered : ∀ c o, .deliver c o ∈ change.2 → ∃ r, wanted c r ∧ o.IsFor (answer r)
  requested : ∀ r url, .request r url ∈ change.2 → r.isValid = true ∧ url = r.url d.hosts
  withdrawn : ∀ r, .withdraw r ∉ change.2
  waits : ∀ c, d.Waits c → change.1.Waits c ∨ ∃ o, .deliver c o ∈ change.2
  once : (forgetsIn change.2).Nodup
  forgotten : ∀ r ∈ forgetsIn change.2, ¬ d.IsOver r ∧ change.1.IsOver r

section

variable {answer : Reference → Option Resolution} {wanted : κ → Reference → Prop} {caller : κ}
  {now : ℚ} {change : Desk ℚ κ × List (Signal ℚ κ)}

theorem truthful_new (hosts : Hosts) (timeout : Binary64) (capacity : Int)
    (lifetime : Reference.Kind → ℚ) (limiter : Limiter ℚ Reference) :
    Truthful answer wanted
      ({ hosts, timeout, cache := { capacity, lifetime }, limiter } : Desk ℚ κ) :=
  ⟨fun _ hf => absurd hf List.not_mem_nil, fun _ _ hm => absurd hm List.not_mem_nil,
    fun _ hf => absurd hf List.not_mem_nil, fun _ hf => absurd hf List.not_mem_nil⟩

theorem Truthful.like (h : d.Truthful answer wanted) (hl : d.Like d') :
    d'.Truthful answer wanted := by
  refine ⟨fun f' hf' => ?_, hl.cache ▸ h.kept, fun f' hf' outcome ho => ?_, fun f' hf' c hc => ?_⟩
  all_goals obtain ⟨f, hf, hlf⟩ := hl.old f' hf'
  · exact hlf.reference ▸ h.valid f hf
  · exact hlf.reference ▸ h.finished f hf outcome ((hlf.finished outcome).mp ho)
  · exact hlf.reference ▸ h.wanted f hf c (hlf.callers ▸ hc)

theorem Like.waits (hl : d.Like d') (h : d.Waits caller) : d'.Waits caller := by
  obtain ⟨f, hf, hc⟩ := h
  obtain ⟨f', hf', hlf⟩ := hl.new f hf
  exact ⟨f', hf', hlf.callers ▸ hc⟩

theorem Like.isOver (hl : d.Like d') (h : d.IsOver r) : d'.IsOver r := by
  obtain ⟨f, hf, rfl, outcome, ho⟩ := h
  obtain ⟨f', hf', hlf⟩ := hl.new f hf
  exact ⟨f', hf', hlf.reference, outcome, (hlf.finished outcome).mpr ho⟩

/-- A fetch ends truthfully: all who waited for it get an outcome that brings the answer. -/
theorem Ends.truthful
    (he : d.Ends now f (answer f.reference) change) (h : d.Truthful answer wanted)
    (hf : f ∈ d.fetches) :
    change.1.Truthful answer wanted ∧
      ∀ c o, .deliver c o ∈ change.2 → ∃ r, wanted c r ∧ o.IsFor (answer r) := by
  obtain ⟨cache, notes, outcome, ho, hn, hc, rfl⟩ := he
  refine ⟨⟨fun g hg => ?_, fun r entry hm => ?_, fun g hg o hs => ?_, fun g hg c hgc => ?_⟩,
    fun c o hm => ?_⟩
  · rcases mem_setFetch.mp hg with ⟨hg, -⟩ | ⟨rfl, -⟩
    · exact h.valid g hg
    · exact h.valid f hf
  · rcases hc with rfl | ⟨verdict, ha, rfl⟩
    · exact h.kept r entry hm
    · rcases Cache.mem_put hm with he | hm
      · cases he
        exact ha
      · exact h.kept r entry hm
  · rcases mem_setFetch.mp hg with ⟨hg, -⟩ | ⟨rfl, -⟩
    · exact h.finished g hg o hs
    · cases hs
      exact ho
  · rcases mem_setFetch.mp hg with ⟨hg, -⟩ | ⟨rfl, -⟩
    · exact h.wanted g hg c hgc
    · cases hgc
  · rcases List.mem_append.mp hm with hm | hm
    · obtain ⟨e, he⟩ := hn _ hm
      cases he
    · rcases List.mem_cons.mp hm with he | hm
      · cases he
      · obtain ⟨c', hc', he⟩ := List.mem_map.mp hm
        cases he
        exact ⟨f.reference, h.wanted f hf c hc', ho⟩

theorem Ends.waits {a : Option Resolution}
    (he : d.Ends now f a change) (hnd : (d.fetches.map (·.reference)).Nodup) (hf : f ∈ d.fetches)
    (h : d.Waits caller) : change.1.Waits caller ∨ ∃ o, .deliver caller o ∈ change.2 := by
  obtain ⟨cache, notes, outcome, -, -, -, rfl⟩ := he
  obtain ⟨g, hg, hc⟩ := h
  by_cases hr : g.reference = f.reference
  · obtain rfl := List.inj_on_of_nodup_map hnd hg hf hr
    refine .inr ⟨outcome, List.mem_append_right _ (List.mem_cons_of_mem _ ?_)⟩
    exact List.mem_map.mpr ⟨caller, hc, rfl⟩
  · exact .inl ⟨g, mem_setFetch.mpr (.inl ⟨hg, hr⟩), hc⟩

theorem Ends.isOver {a : Option Resolution}
    (he : d.Ends now f a change) (hf : f ∈ d.fetches) (h : d.IsOver r ∨ r = f.reference) :
    change.1.IsOver r := by
  obtain ⟨cache, notes, outcome, -, -, -, rfl⟩ := he
  have hnew : ({ d with cache }.setFetch (f.finished outcome)).IsOver f.reference :=
    ⟨f.finished outcome, mem_setFetch.mpr (.inr ⟨rfl, f, hf, rfl⟩), rfl, outcome, rfl⟩
  rcases h with ⟨g, hg, rfl, ho⟩ | rfl
  · by_cases hr : g.reference = f.reference
    · exact hr ▸ hnew
    · exact ⟨g, mem_setFetch.mpr (.inl ⟨hg, hr⟩), rfl, ho⟩
  · exact hnew

theorem Truthful.forget (h : d.Truthful answer wanted) (r : Reference) :
    (d.forget r).1.Truthful answer wanted := by
  rw [(forget_cases d r).1]
  have hsub : ∀ f ∈ d.fetches.filter fun f => f.reference ≠ r, f ∈ d.fetches := fun f hf =>
    (List.mem_filter.mp hf).1
  exact ⟨fun f hf => h.valid f (hsub f hf), h.kept, fun f hf => h.finished f (hsub f hf),
    fun f hf => h.wanted f (hsub f hf)⟩

/-- An outcome at hand brings the answer. -/
theorem Truthful.ask (h : d.Truthful answer wanted)
    (ha : ∀ r, r.isValid = false → answer r = some (.missing r)) (hw : wanted caller r) (now : ℚ)
    (pass : Option Text) :
    (d.ask now caller pass r).2.1.Truthful answer wanted ∧
      ∀ o, (d.ask now caller pass r).1 = some o → o.IsFor (answer r) := by
  rcases ask_cases d now caller pass r with
    ⟨outcome, notes, he, -, ho⟩ | ⟨f, hf, rfl, hn, he⟩ | ⟨hv, hr, he⟩
  · rw [he]
    refine ⟨h, fun o hh => ?_⟩
    cases hh
    rcases ho with ⟨hv, rfl⟩ | ⟨entry, hm, rfl⟩ | ⟨f, hf, rfl, hs⟩
    · exact ha r hv
    · exact h.kept r entry hm
    · exact h.finished f hf _ hs
  · rw [he]
    refine ⟨⟨fun g hg => ?_, h.kept, fun g hg o hs => ?_, fun g hg c hc => ?_⟩, nofun⟩
    all_goals rcases mem_setFetch.mp hg with ⟨hg, -⟩ | ⟨rfl, -⟩
    · exact h.valid g hg
    · exact h.valid f hf
    · exact h.finished g hg o hs
    · exact absurd ⟨o, hs⟩ hn
    · exact h.wanted g hg c hc
    · rcases List.mem_append.mp hc with hc | hc
      · exact h.wanted f hf c hc
      · rwa [List.mem_singleton.mp hc]
  · rw [he]
    refine ⟨⟨fun g hg => ?_, h.kept, fun g hg o hs => ?_, fun g hg c hc => ?_⟩, nofun⟩
    all_goals rcases List.mem_append.mp hg with hg | hg
    · exact h.valid g hg
    · rwa [List.mem_singleton.mp hg]
    · exact h.finished g hg o hs
    · rw [List.mem_singleton.mp hg] at hs
      cases hs
    · exact h.wanted g hg c hc
    · rw [List.mem_singleton.mp hg] at hc ⊢
      rwa [List.mem_singleton.mp hc]

/-- One who gets no outcome at once waits, and so does everyone who waited before. -/
theorem Live.waits_ask (h : d.Live due none) (now : ℚ) (caller : κ) (pass : Option Text)
    (r : Reference) :
    ((d.ask now caller pass r).1 = none → (d.ask now caller pass r).2.1.Waits caller) ∧
      ∀ c, d.Waits c → (d.ask now caller pass r).2.1.Waits c := by
  rcases ask_cases d now caller pass r with ⟨outcome, notes, he, -⟩ | ⟨f, hf, rfl, -, he⟩ |
    ⟨-, -, he⟩
  · rw [he]
    exact ⟨nofun, fun _ => id⟩
  · rw [he]
    have hnew : { f with callers := f.callers ++ [caller] } ∈
        (d.setFetch { f with callers := f.callers ++ [caller] }).fetches :=
      mem_setFetch.mpr (.inr ⟨rfl, f, hf, rfl⟩)
    refine ⟨fun _ => ⟨_, hnew, by simp⟩, fun c ⟨g, hg, hc⟩ => ?_⟩
    by_cases hr : g.reference = f.reference
    · obtain rfl := List.inj_on_of_nodup_map h.nodup hg hf hr
      exact ⟨_, hnew, List.mem_append_left _ hc⟩
    · exact ⟨g, mem_setFetch.mpr (.inl ⟨hg, hr⟩), hc⟩
  · rw [he]
    exact ⟨fun _ => ⟨_, List.mem_append_right _ List.mem_cons_self, List.mem_cons_self⟩,
      fun c ⟨g, hg, hc⟩ => ⟨g, List.mem_append_left _ hg, hc⟩⟩

theorem Live.isOver_ask (h : d.Live due none) (now : ℚ) (caller : κ) (pass : Option Text)
    (r : Reference) {r' : Reference} (ho : d.IsOver r') :
    (d.ask now caller pass r).2.1.IsOver r' := by
  obtain ⟨g, hg, rfl, ho⟩ := ho
  rcases ask_cases d now caller pass r with ⟨outcome, notes, he, -⟩ | ⟨f, hf, rfl, hn, he⟩ |
    ⟨-, -, he⟩
  · rw [he]
    exact ⟨g, hg, rfl, ho⟩
  · rw [he]
    refine ⟨g, mem_setFetch.mpr (.inl ⟨hg, fun hr => hn ?_⟩), rfl, ho⟩
    rwa [← List.inj_on_of_nodup_map h.nodup hg hf hr]
  · rw [he]
    exact ⟨g, List.mem_append_left _ hg, rfl, ho⟩

/-! Honest changes -/

theorem mem_forgetsIn {signals : List (Signal ℚ κ)} :
    r ∈ forgetsIn signals ↔ .forget r ∈ signals := by
  rw [forgetsIn, List.mem_filterMap]
  constructor
  · rintro ⟨s, hs, he⟩
    cases s with
    | forget r' =>
      cases he
      exact hs
    | _ => cases he
  · exact fun hm => ⟨_, hm, rfl⟩

theorem forgetsIn_eq_nil {signals : List (Signal ℚ κ)} (h : ∀ r, .forget r ∉ signals) :
    forgetsIn signals = [] :=
  List.eq_nil_iff_forall_not_mem.mpr fun r hr => h r (mem_forgetsIn.mp hr)

/-- A change that forgets nothing and delivers nothing. -/
theorem Honest.of_waits (hh : change.1.hosts = d.hosts) (ht : change.1.Truthful answer wanted)
    (hd : ∀ c o, .deliver c o ∉ change.2)
    (hr : ∀ r url, .request r url ∈ change.2 → r.isValid = true ∧ url = r.url d.hosts)
    (hw : ∀ r, .withdraw r ∉ change.2) (hc : ∀ c, d.Waits c → change.1.Waits c)
    (hf : ∀ r, .forget r ∉ change.2) : d.Honest answer wanted change := by
  have hnil := forgetsIn_eq_nil hf
  exact ⟨hh, ht, fun c o hm => absurd hm (hd c o), hr, hw, fun c h => .inl (hc c h),
    hnil ▸ List.nodup_nil, fun r hm => absurd (mem_forgetsIn.mp hm) (hf r)⟩

theorem Turned.honest (ht : d.Turned change) (h : d.Truthful answer wanted) :
    d.Honest answer wanted change := by
  refine .of_waits ht.like.hosts (h.like ht.like) (fun c o hm => ht.signals _ hm)
    (fun r url hm => ?_) (fun r hm => ht.signals _ hm) (fun c => ht.like.waits)
    fun r hm => ht.signals _ hm
  obtain ⟨⟨f, hf, rfl⟩, hu⟩ := ht.signals _ hm
  exact ⟨h.valid f hf, hu⟩

theorem Ends.signals {a : Option Resolution} (he : d.Ends now f a change) {s : Signal ℚ κ}
    (hm : s ∈ change.2) :
    (∃ e, s = .note e) ∨ s = .forget f.reference ∨ ∃ c o, s = .deliver c o := by
  obtain ⟨cache, notes, outcome, -, hn, -, rfl⟩ := he
  rcases List.mem_append.mp hm with hm | hm
  · exact .inl (hn s hm)
  · rcases List.mem_cons.mp hm with he | hm
    · exact .inr (.inl he)
    · obtain ⟨c, -, he⟩ := List.mem_map.mp hm
      exact .inr (.inr ⟨c, outcome, he.symm⟩)

theorem Ends.honest (he : d.Ends now f (answer f.reference) change)
    (h : d.Truthful answer wanted) (hnd : (d.fetches.map (·.reference)).Nodup)
    (hf : f ∈ d.fetches) (hs : f.stage = .fetching) : d.Honest answer wanted change := by
  obtain ⟨htruth, hdel⟩ := he.truthful h hf
  have hwaits {c : κ} (hc : d.Waits c) := he.waits hnd hf hc
  have hover : change.1.IsOver f.reference := he.isOver hf (.inr rfl)
  have hnot : ¬ d.IsOver f.reference := fun ⟨g, hg, hr, outcome, ho⟩ => by
    rw [List.inj_on_of_nodup_map hnd hg hf hr, hs] at ho
    cases ho
  have hsig {s : Signal ℚ κ} (hm : s ∈ change.2) := he.signals hm
  obtain ⟨cache, notes, outcome, -, hn, -, rfl⟩ := he
  have hforgets : forgetsIn
      (notes ++ .forget f.reference :: f.callers.map (Signal.deliver · outcome)) =
        [f.reference] := by
    have hnotes : forgetsIn notes = [] := forgetsIn_eq_nil fun r hm => by
      obtain ⟨e, he⟩ := hn _ hm
      cases he
    have hcalls : forgetsIn (f.callers.map (Signal.deliver · outcome) : List (Signal ℚ κ)) = [] :=
      forgetsIn_eq_nil fun r hm => by
        obtain ⟨c, -, he⟩ := List.mem_map.mp hm
        cases he
    rw [forgetsIn, List.filterMap_append]
    exact congrArg₂ (· ++ ·) hnotes (congrArg (f.reference :: ·) hcalls)
  refine ⟨rfl, htruth, hdel, fun r url hm => ?_, fun r hm => ?_, fun c => hwaits, ?_,
    fun r hm => ?_⟩
  · rcases hsig hm with ⟨e, he⟩ | he | ⟨c, o, he⟩ <;> cases he
  · rcases hsig hm with ⟨e, he⟩ | he | ⟨c, o, he⟩ <;> cases he
  · rw [hforgets]
    exact List.nodup_singleton _
  · rw [hforgets] at hm
    rw [List.mem_singleton.mp hm]
    exact ⟨hnot, hover⟩

theorem honest_nil (h : d.Truthful answer wanted) : d.Honest answer wanted (d, []) :=
  (turned_nil (.refl d)).honest h

theorem Live.honest_reply (hl : d.Live due none) (h : d.Truthful answer wanted) {reply : Reply}
    (hr : reply.answer r = answer r) (now : ℚ) :
    d.Honest answer wanted (d.reply now r reply) := by
  rcases reply_cases hl now r reply with ⟨he, -⟩ | ⟨f, hf, rfl, hs, he⟩
  · rw [he]
    exact honest_nil h
  · rw [hr] at he
    exact he.honest h hl.nodup hf hs

theorem Live.request_not_mem_reply (hl : d.Live due none) (now : ℚ) (reply : Reply)
    (r' : Reference) (url : Text) : .request r' url ∉ (d.reply now r reply).2 := by
  rcases reply_cases hl now r reply with ⟨he, -⟩ | ⟨f, -, -, -, he⟩
  · rw [he]
    nofun
  · intro hm
    rcases he.signals hm with ⟨e, he⟩ | he | ⟨c, o, he⟩ <;> cases he

theorem Live.isOver_reply (hl : d.Live due none) (now : ℚ) (reply : Reply) {r' : Reference}
    (ho : d.IsOver r') : (d.reply now r reply).1.IsOver r' := by
  rcases reply_cases hl now r reply with ⟨he, -⟩ | ⟨f, hf, rfl, -, he⟩
  · rw [he]
    exact ho
  · exact he.isOver hf (.inl ho)

/-- A fetch that is over is forgotten, and no one waited for it. -/
theorem Live.honest_forget (hl : d.Live due none) (h : d.Truthful answer wanted)
    (hr : ∀ f ∈ d.fetches, f.reference = r → f.IsOver) :
    d.Honest answer wanted (d.forget r) := by
  have htruth := h.forget r
  obtain ⟨he, hn⟩ := forget_cases d r
  have hno {s : Signal ℚ κ} (hs : ∀ e, s ≠ .note e) : s ∉ (d.forget r).2 := fun hm => by
    obtain ⟨e, he⟩ := hn s hm
    exact hs e he
  refine .of_waits (by rw [he]) htruth (fun c o => hno nofun)
    (fun r url hm => absurd hm (hno nofun)) (fun r => hno nofun)
    (fun c ⟨f, hf, hc⟩ => ?_) fun r => hno nofun
  rw [he]
  refine ⟨f, List.mem_filter.mpr ⟨hf, ?_⟩, hc⟩
  by_contra hne
  obtain ⟨outcome, ho⟩ := hr f hf (by simpa using hne)
  rw [(hl.attended f hf nofun).finished outcome ho] at hc
  cases hc

theorem isOver_forget {r' : Reference} (hne : r' ≠ r) (ho : d.IsOver r') :
    (d.forget r).1.IsOver r' := by
  obtain ⟨f, hf, rfl, ho⟩ := ho
  rw [(forget_cases d r).1]
  exact ⟨f, List.mem_filter.mpr ⟨hf, by simpa using hne⟩, rfl, ho⟩

theorem ask_signals (d : Desk ℚ κ) (now : ℚ) (caller : κ) (pass : Option Text) (r : Reference) :
    ∀ s ∈ (d.ask now caller pass r).2.2, (∃ e, s = .note e) ∨ s = .fetchTurn r := by
  rcases ask_cases d now caller pass r with ⟨_, notes, he, hn, -⟩ | ⟨f, -, -, -, he⟩ | ⟨-, -, he⟩
  · rw [he]
    exact fun s hs => .inl (hn s hs)
  · rw [he]
    nofun
  · rw [he]
    exact fun s hs => .inr (List.mem_singleton.mp hs)

theorem Live.honest_ask (hl : d.Live due none) (h : d.Truthful answer wanted)
    (ha : ∀ r, r.isValid = false → answer r = some (.missing r)) (hw : wanted caller r) (now : ℚ)
    (pass : Option Text) : d.Honest answer wanted (d.ask now caller pass r).2 := by
  have htruth := (h.ask ha hw now pass).1
  have hwaits := (hl.waits_ask now caller pass r).2
  have hno {s : Signal ℚ κ} (hs : ∀ e, s ≠ .note e) (hs' : s ≠ .fetchTurn r) :
      s ∉ (d.ask now caller pass r).2.2 := fun hm => by
    rcases ask_signals d now caller pass r s hm with ⟨e, he⟩ | he
    · exact hs e he
    · exact hs' he
  have hhosts : (d.ask now caller pass r).2.1.hosts = d.hosts := by
    rcases ask_cases d now caller pass r with ⟨_, _, he, -⟩ | ⟨f, -, -, -, he⟩ | ⟨-, -, he⟩
    all_goals rw [he]
    rfl
  exact .of_waits hhosts htruth (fun c o => hno nofun nofun)
    (fun r url hm => absurd hm (hno nofun nofun)) (fun r => hno nofun nofun) hwaits
    fun r => hno nofun nofun

end

end CommitMessage.Desk
