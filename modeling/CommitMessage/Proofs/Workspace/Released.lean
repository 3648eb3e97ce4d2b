import CommitMessage.Proofs.Workspace.Passive

/-! What becomes of calls while nothing is asked of a workspace. None is new, none is forgotten, and
one that ends without being stopped has been told whatever it was still without. -/

namespace CommitMessage.Workspace

variable {told : Asker → Outcome → Prop} {w w' start : Workspace ℚ} {id place : Nat} {c c' : Call}
  {outcome : Outcome}

/-- One who asks for a name of a call, or for the call as a whole. -/
def Asker.IsAt (id place : Nat) : Asker → Prop
  | .slot _ _ => False
  | .call i => i = id
  | .member i p => i = id ∧ p = place

/-- The results that a call can have when its askers are told so much. -/
inductive Call.Ends (told : Asker → Outcome → Prop) (id : Nat) (c : Call) : CallResult → Prop
  | stopped : c.Ends told id .stopped
  /-- It was over before. -/
  | ready {outcome : Outcome} (hs : c.stage = .ready outcome) : c.Ends told id (c.result outcome)
  | failed {a : Asker} {f : Failure} (ha : a.IsOf id) (ht : told a (.failed f)) :
    c.Ends told id (.failed f)
  | resolved {r : Resolution} (ht : told (.call id) (.resolved r)) : c.Ends told id (.resolved r)
  | profiles {names : List (Text × Option Resolution)} (answers : List (Text × Resolution))
    (hw : c.wanted = .profiles names)
    (ht : ∀ place name, names[place]? = some (name, none) →
      ∃ a r, Asker.IsAt id place a ∧ told a (.resolved r)) : c.Ends told id (.profiles answers)

/-- What a call is later on, when its askers have been told so much. -/
inductive Call.GoesOn (told : Asker → Outcome → Prop) (id : Nat) (c : Call) : Call → Prop
  | same : c.GoesOn told id c
  /-- Some of the answers have come. -/
  | waiting {names names' : List (Text × Option Resolution)} (hw : c.wanted = .profiles names)
    (hs : c.stage = .waiting)
    (hn : ∀ place name, names[place]? = some (name, none) → names'[place]? = some (name, none) ∨
      ∃ a r, Asker.IsAt id place a ∧ told a (.resolved r)) :
    c.GoesOn told id { c with wanted := .profiles names' }
  | ready {names names' : List (Text × Option Resolution)} {outcome : Outcome}
    (hw : c.wanted = .profiles names)
    (he : c.Ends told id (Call.result { c with wanted := .profiles names' } outcome)) :
    c.GoesOn told id { c with wanted := .profiles names', stage := .ready outcome }

/-- What has become of a call since the record was so long: it is over, or goes on. -/
def Call.Fares (told : Asker → Outcome → Prop) (since : List (Entry ℚ)) (id : Nat) (c : Call)
    (w : Workspace ℚ) : Prop :=
  (∃ result more, w.record = more ++ since ∧ .answered c.tag result ∈ more ∧
    c.Ends told id result) ∨ ∃ c', w.calls.get? id = some c' ∧ c.GoesOn told id c'

/-- Nothing more has been asked for since the start, and the calls of then fare as they are told. -/
structure Watched (told : Asker → Outcome → Prop) (start w : Workspace ℚ) : Prop where
  asked : w.Asked
  answers : ∀ a outcome, .answer a outcome ∈ w.agenda.jobs → outcome = .stopped ∨ told a outcome
  record : start.record <:+ w.record
  calls : ∀ id c, start.calls.get? id = some c → c.Fares told start.record id w

theorem Call.Fares.grow {since : List (Entry ℚ)} (h : c.Fares told since id w)
    (hc : ∀ c', w.calls.get? id = some c' → w'.calls.get? id = some c')
    (hr : w.record <:+ w'.record) : c.Fares told since id w' := by
  refine h.imp ?_ fun ⟨c', hget, hgoes⟩ => ⟨c', hc c' hget, hgoes⟩
  rintro ⟨result, more, hmore, hm, hends⟩
  obtain ⟨more', hmore'⟩ := hr
  exact ⟨result, more' ++ more, by rw [← hmore', hmore, List.append_assoc],
    List.mem_append_right _ hm, hends⟩

theorem Watched.tells (h : Watched told start w) (ht : Tells told w w') :
    Watched told start w' := by
  refine ⟨fun i c hget hoff => ?_, fun a outcome hm => ?_, h.record.trans ht.record,
    fun i c hget => (h.calls i c hget).grow (fun c' hc => ht.calls ▸ hc) ht.record⟩
  · obtain ⟨hs, hplaces⟩ := h.asked i c (ht.calls ▸ hget) hoff
    exact ⟨hs, fun place hm => (ht.jobs _ hm).elim (hplaces place) fun hj => hj⟩
  · exact (ht.jobs _ hm).elim (h.answers a outcome) fun hj => hj

/-! One call -/

theorem Call.GoesOn.tag (h : c.GoesOn told id c') : c'.tag = c.tag := by
  cases h <;> rfl

theorem Call.GoesOn.ends_ready (h : c.GoesOn told id c') (hs : c'.stage = .ready outcome) :
    c.Ends told id (c'.result outcome) := by
  cases h with
  | same => exact .ready hs
  | waiting _ hw => exact absurd (hw.symm.trans hs) nofun
  | ready _ he =>
    obtain rfl := CallStage.ready.inj hs
    exact he

theorem Call.GoesOn.wanted {names' : List (Text × Option Resolution)} (h : c.GoesOn told id c')
    (hw : c'.wanted = .profiles names') : ∃ names, c.wanted = .profiles names := by
  cases h with
  | same => exact ⟨names', hw⟩
  | waiting hw₀ => exact ⟨_, hw₀⟩
  | ready hw₀ => exact ⟨_, hw₀⟩

theorem Call.GoesOn.ends_told (h : c.GoesOn told id c')
    (ht : outcome = .stopped ∨ told (.call id) outcome) : c.Ends told id (c'.result outcome) := by
  cases outcome with
  | stopped => exact .stopped
  | failed f => exact .failed (a := .call id) rfl (ht.resolve_left nofun)
  | resolved r =>
    have ht := ht.resolve_left nofun
    simp only [Call.result]
    split
    · exact .resolved ht
    · next names' hw =>
      obtain ⟨names, hw⟩ := h.wanted hw
      exact .profiles _ hw fun place name _ => ⟨.call id, r, rfl, ht⟩

/-- A call that waits for names. -/
theorem Call.GoesOn.names {names' : List (Text × Option Resolution)} (h : c.GoesOn told id c')
    (hs : c'.stage = .waiting) (hw : c'.wanted = .profiles names') :
    c' = { c with wanted := .profiles names' } ∧ c.stage = .waiting ∧
      ∃ names, c.wanted = .profiles names ∧ ∀ place name, names[place]? = some (name, none) →
        names'[place]? = some (name, none) ∨
          ∃ a r, Asker.IsAt id place a ∧ told a (.resolved r) := by
  cases h with
  | same => exact ⟨by rw [← hw], hs, names', hw, fun _ _ hn => .inl hn⟩
  | waiting hw₀ hs₀ hn =>
    obtain rfl := Wanted.profiles.inj hw
    exact ⟨rfl, hs₀, _, hw₀, hn⟩
  | ready => cases hs

/-- One of the names has its answer. -/
theorem open_or_told {names names' : List (Text × Option Resolution)} {r : Resolution}
    (hn : ∀ place name, names[place]? = some (name, none) → names'[place]? = some (name, none) ∨
      ∃ a r, Asker.IsAt id place a ∧ told a (.resolved r))
    (ht : told (.member id place) (.resolved r)) (p : Nat) (name : Text)
    (hp : names[p]? = some (name, none)) :
    (names'.modify place fun entry => (entry.1, some r))[p]? = some (name, none) ∨
      ∃ a r, Asker.IsAt id p a ∧ told a (.resolved r) := by
  by_cases he : p = place
  · exact .inr ⟨.member id place, r, ⟨rfl, he.symm⟩, ht⟩
  · refine (hn p name hp).imp_left fun hopen => ?_
    rw [List.getElem?_modify, hopen]
    simp [Ne.symm he]

/-! Calls that change -/

theorem Watched.setCall (h : Watched told start w) {c'' : Call} (hget : w.calls.get? id = some c')
    (hs : c''.stage ≠ .fresh) (hoff : c''.calledOff = c'.calledOff)
    (hg : ∀ c : Call, c.GoesOn told id c' → c.GoesOn told id c'') :
    Watched told start (w.setCall id c'') := by
  have hset (i : Nat) : (w.setCall id c'').calls.get? i =
      if i = id then some c'' else w.calls.get? i := Register.get?_set _ _ _ _
  refine ⟨fun i c hc hoff' => ?_, h.answers, h.record, fun i c hc => ?_⟩
  · rw [hset] at hc
    split at hc
    · next hi =>
      cases hc
      subst hi
      exact ⟨hs, (h.asked i c' hget (hoff ▸ hoff')).2⟩
    · exact h.asked i c hc hoff'
  · refine (h.calls i c hc).imp_right ?_
    rintro ⟨c₁, hc₁, hgoes⟩
    rw [hset]
    split
    · next hi =>
      subst hi
      obtain rfl := Option.some.inj (hget.symm.trans hc₁)
      exact ⟨c'', rfl, hg c hgoes⟩
    · exact ⟨c₁, hc₁, hgoes⟩

theorem Watched.endCall (h : Watched told start w) {result : CallResult}
    (hget : w.calls.get? id = some c')
    (he : ∀ c : Call, c.GoesOn told id c' → c.Ends told id result) :
    Watched told start (w.endCall id c' result) := by
  have herase (i : Nat) : (w.endCall id c' result).calls.get? i =
      if i = id then none else w.calls.get? i := Register.get?_erase _ _ _
  refine ⟨fun i c hc hoff => ?_, h.answers, h.record.trans (List.suffix_cons _ _), fun i c hc => ?_⟩
  · rw [herase] at hc
    split at hc
    · cases hc
    · exact h.asked i c hc hoff
  · rcases h.calls i c hc with ⟨other, more, hmore, hm, hends⟩ | ⟨c₁, hc₁, hgoes⟩
    · exact .inl ⟨other, .answered c'.tag result :: more, congrArg _ hmore,
        List.mem_cons_of_mem _ hm, hends⟩
    · by_cases hi : i = id
      · subst hi
        obtain rfl := Option.some.inj (hget.symm.trans hc₁)
        obtain ⟨more, hmore⟩ := h.record
        exact .inl ⟨result, .answered c'.tag result :: more, congrArg _ hmore.symm,
          hgoes.tag ▸ List.mem_cons_self, he c hgoes⟩
      · exact .inr ⟨c₁, by rw [herase, if_neg hi, hc₁], hgoes⟩

theorem Watched.callTurn (h : Watched told start w) (id : Nat) :
    Watched told start (w.callTurn id) := by
  cases hget : w.calls.get? id with
  | none =>
    rw [Workspace.callTurn, hget]
    exact h
  | some c' =>
    rcases callTurn_cases w hget fun hoff => (h.asked id c' hget hoff).1 with
      ⟨-, he⟩ | ⟨outcome, hs, he⟩ | he
    · rw [he]
      exact h.endCall hget fun _ _ => .stopped
    · rw [he]
      exact h.endCall hget fun _ hgoes => hgoes.ends_ready hs
    · rw [he]
      exact h

theorem Watched.callAnswer (h : Watched told start w)
    (ht : outcome = .stopped ∨ told (.call id) outcome) :
    Watched told start (w.callAnswer id outcome) := by
  unfold Workspace.callAnswer
  split
  · next c' hget =>
    split
    · exact h
    · exact h.endCall hget fun _ hgoes => hgoes.ends_told ht
  · exact h

theorem Watched.memberAnswer (h : Watched told start w)
    (ht : outcome = .stopped ∨ told (.member id place) outcome) :
    Watched told start (w.memberAnswer id place outcome) := by
  have hsoon {w : Workspace ℚ} (h : Watched told start w) :
      Watched told start (w.soon (.call id)) :=
    h.tells (tells_soon w trivial)
  unfold Workspace.memberAnswer
  split
  · next c' hget =>
    split
    · next names' r hw hs =>
      have ht := ht.resolve_left nofun
      dsimp only
      split
      · refine h.setCall hget (by rw [hs]; nofun) rfl fun c hgoes => ?_
        obtain ⟨rfl, hs₀, names, hw₀, hn⟩ := hgoes.names hs hw
        exact .waiting hw₀ hs₀ (open_or_told hn ht)
      · next hopen =>
        refine hsoon (h.setCall hget nofun rfl fun c hgoes => ?_)
        obtain ⟨rfl, -, names, hw₀, hn⟩ := hgoes.names hs hw
        refine .ready hw₀ (.profiles _ hw₀ fun p name hp => ?_)
        refine (open_or_told hn ht p name hp).resolve_left fun hnone => hopen ?_
        exact List.any_eq_true.mpr ⟨_, List.mem_of_getElem? hnone, rfl⟩
    · next o _ _ _ names' hw hs hne =>
      refine hsoon (h.setCall hget nofun rfl fun c hgoes => ?_)
      obtain ⟨rfl, -, names, hw₀, hn⟩ := hgoes.names hs hw
      refine .ready hw₀ ?_
      cases o with
      | stopped => exact .stopped
      | failed f => exact .failed (a := .member id place) rfl (ht.resolve_left nofun)
      | resolved r => exact (hne r rfl).elim
    · exact h
  · exact h

end CommitMessage.Workspace
