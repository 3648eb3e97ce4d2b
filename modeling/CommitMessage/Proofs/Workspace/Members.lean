import CommitMessage.Proofs.Lookup.Waiting
import CommitMessage.Proofs.Workspace.Foretelling
import CommitMessage.Proofs.Workspace.Sparing

/-! The names of a call. Each is asked for at its own turn, of which it has one, and what the call
knows of it is what has been said in return. So it goes on from one job to the next, under its tag,
until it ends with what has come of its names. -/

namespace CommitMessage.Workspace

open Desk (Happening outcomesOf asksOf)

variable {w w' w'' : Workspace ℚ} {history hs : List (Happening Asker)} {x : Happening Asker}
  {id place : Nat} {c c' : Call} {stage : CallStage} {names : List (Text × Option Resolution)}
  {outcome : Outcome} {tag : Text} {r : Reference} {pass : Option Text}

/-! Happenings -/

/-- One who asks in the course of a call, or is told. -/
def concerns (id : Nat) : Happening Asker → Prop
  | .asked a _ _ | .told a _ => a.IsOf id
  | _ => False

/-- Why a name of a call could not be looked up. -/
def failure? (id : Nat) : Happening Asker → Option Failure
  | .asked (.member i _) _ (.given (.failed f)) | .told (.member i _) (.failed f) =>
    if i = id then some f else none
  | _ => none

/-- The first failure of those. -/
def firstFailure (id : Nat) (history : List (Happening Asker)) : Option Failure :=
  history.findSome? (failure? id)

theorem firstFailure_append (id : Nat) (history more : List (Happening Asker)) :
    firstFailure id (history ++ more) = (firstFailure id history).or (firstFailure id more) :=
  List.findSome?_append

theorem firstFailure_aside (hno : ∀ x ∈ hs, ¬ concerns id x) : firstFailure id hs = none := by
  refine List.findSome?_eq_none_iff.mpr fun x hx => ?_
  by_contra hf
  refine hno x hx ?_
  unfold failure? at hf
  split at hf
  · next i _ _ _ =>
    by_contra hi
    exact hf (if_neg hi)
  · next i _ _ =>
    by_contra hi
    exact hf (if_neg hi)
  · exact absurd rfl hf

theorem asksOf_aside {a : Asker} (ha : a.IsOf id) (hno : ∀ x ∈ hs, ¬ concerns id x) :
    asksOf a hs = 0 := by
  refine List.countP_eq_zero.mpr fun x hx hasks => hno x hx ?_
  cases x with
  | asked a' r how =>
    obtain rfl : a' = a := of_decide_eq_true hasks
    exact ha
  | _ => cases hasks

/-! What calls know -/

/-- What a call knows of its names goes back to what has happened. -/
structure Accounted (history : List (Happening Asker)) (id : Nat) (stage : CallStage)
    (names : List (Text × Option Resolution)) : Prop where
  single : asksOf (.call id) history = 0
  asked : ∀ place r how, .asked (.member id place) r how ∈ history →
    ∃ e, names[place]? = some e ∧ r = ⟨.profile, e.1⟩
  answered : ∀ place name r, names[place]? = some (name, some r) →
    .resolved r ∈ outcomesOf (.member id place) history
  unready : (∀ outcome, stage ≠ .ready outcome) → firstFailure id history = none
  ready : ∀ outcome, stage = .ready outcome →
    (∃ r, outcome = .resolved r) ∧ isOpen names = false ∨
      ∃ f, outcome = .failed f ∧ firstFailure id history = some f

theorem Accounted.grow (h : Accounted history id stage names)
    (hno : ∀ x ∈ hs, ¬ concerns id x) : Accounted (history ++ hs) id stage names := by
  have hfirst : firstFailure id (history ++ hs) = firstFailure id history := by
    rw [firstFailure_append, firstFailure_aside hno, Option.or_none]
  refine ⟨?_, fun place r how hx => ?_, fun place name r he => ?_, fun hs => ?_, fun o ho => ?_⟩
  · have hcall : Asker.IsOf id (.call id) := rfl
    rw [Desk.asksOf_append, h.single, asksOf_aside hcall hno]
  · refine h.asked place r how ((List.mem_append.mp hx).resolve_right fun hx => ?_)
    exact hno _ hx rfl
  · rw [Desk.outcomesOf_append]
    exact List.mem_append_left _ (h.answered place name r he)
  · rw [hfirst]
    exact h.unready hs
  · rw [hfirst]
    exact h.ready o ho

/-- Nobody has been asked or told in the course of a new call. -/
theorem Accounted.new (hcall : asksOf (.call id) history = 0)
    (hasks : ∀ place, asksOf (.member id place) history = 0)
    (htold : ∀ place, outcomesOf (.member id place) history = [])
    (hnone : ∀ e ∈ names, e.2 = none) : Accounted history id .fresh names := by
  refine ⟨hcall, fun place r how hx => ?_, fun place name r he => ?_, fun _ => ?_, nofun⟩
  · exact absurd (hasks place) (Desk.asksOf_pos hx).ne'
  · exact absurd (hnone _ (List.mem_of_getElem? he)) nofun
  · refine List.findSome?_eq_none_iff.mpr fun x hx => ?_
    have hno (place : Nat) (f : Failure) : ¬(.told (.member id place) (.failed f) ∈ history ∨
        ∃ r, .asked (.member id place) r (.given (.failed f)) ∈ history) := fun hsaid => by
      have hm := Desk.mem_outcomesOf.mpr hsaid
      rw [htold] at hm
      cases hm
    unfold failure?
    split
    · next i place r f =>
      rw [if_neg]
      rintro rfl
      exact hno place f (.inr ⟨r, hx⟩)
    · next i place f =>
      rw [if_neg]
      rintro rfl
      exact hno place f (.inl hx)
    · rfl

/-- A call that waits is not ready either. -/
theorem Accounted.wait (h : Accounted history id .fresh names) :
    Accounted history id .waiting names :=
  ⟨h.single, h.asked, h.answered, fun _ => h.unready nofun, nofun⟩

/-- One of the names is asked for, and there may be an answer at once. -/
def IsReport (id place : Nat) (names : List (Text × Option Resolution)) (x : Happening Asker) :
    Prop :=
  (∃ outcome, x = .told (.member id place) outcome) ∨
    ∃ e how, names[place]? = some e ∧ x = .asked (.member id place) ⟨.profile, e.1⟩ how

theorem IsReport.failure?_eq (hx : IsReport id place names x)
    (ho : x.outcome? (.member id place) = some outcome) :
    failure? id x = match outcome with
      | .failed f => some f
      | _ => none := by
  rcases hx with ⟨o, rfl⟩ | ⟨e, how, -, rfl⟩
  · obtain rfl : o = outcome := by simpa [Happening.outcome?] using ho
    cases o <;> simp [failure?]
  · cases how with
    | given o =>
      obtain rfl : o = outcome := by simpa [Happening.outcome?] using ho
      cases o <;> simp [failure?]
    | _ => simp [Happening.outcome?] at ho

/-- Whatever is said of a name, it is asked for under that name only. -/
theorem Accounted.heard (h : Accounted history id stage names) (hx : IsReport id place names x) :
    asksOf (.call id) (history ++ [x]) = 0 ∧
      ∀ place r how, .asked (.member id place) r how ∈ history ++ [x] →
        ∃ e, names[place]? = some e ∧ r = ⟨.profile, e.1⟩ := by
  refine ⟨?_, fun p r how hm => ?_⟩
  · rw [Desk.asksOf_append, h.single, Nat.zero_add]
    rcases hx with ⟨o, rfl⟩ | ⟨e, how, -, rfl⟩ <;> rfl
  · rcases List.mem_append.mp hm with hm | hm
    · exact h.asked p r how hm
    · rcases hx with ⟨o, rfl⟩ | ⟨e, how', he, rfl⟩
      · cases List.mem_singleton.mp hm
      · cases List.mem_singleton.mp hm
        exact ⟨e, he, rfl⟩

theorem Accounted.answered_grow (h : Accounted history id stage names) (p : Nat) (name : Text)
    (r : Resolution) (he : names[p]? = some (name, some r)) :
    .resolved r ∈ outcomesOf (.member id p) (history ++ hs) := by
  rw [Desk.outcomesOf_append]
  exact List.mem_append_left _ (h.answered p name r he)

/-- A name whose lookup goes on. -/
theorem Accounted.open (h : Accounted history id stage names) (hx : IsReport id place names x)
    (hf : failure? id x = none) : Accounted (history ++ [x]) id stage names := by
  have hfirst : firstFailure id (history ++ [x]) = firstFailure id history := by
    rw [firstFailure_append, firstFailure, firstFailure, List.findSome?_singleton, hf,
      Option.or_none]
  obtain ⟨hsingle, hasked⟩ := h.heard hx
  refine ⟨hsingle, hasked, h.answered_grow, fun hs => ?_, fun o ho => ?_⟩
  · rw [hfirst]
    exact h.unready hs
  · rw [hfirst]
    exact h.ready o ho

/-- What is said too late makes no difference. -/
theorem Accounted.late {outcome : Outcome} (h : Accounted history id (.ready outcome) names)
    (hx : IsReport id place names x) : Accounted (history ++ [x]) id (.ready outcome) names := by
  obtain ⟨hsingle, hasked⟩ := h.heard hx
  refine ⟨hsingle, hasked, h.answered_grow, fun hs => absurd rfl (hs outcome), fun o ho => ?_⟩
  refine (h.ready o ho).imp_right ?_
  rintro ⟨f, he, hf⟩
  exact ⟨f, he, by rw [firstFailure_append, hf, Option.some_or]⟩

theorem Accounted.resolved {r : Resolution} (h : Accounted history id stage names)
    (hx : IsReport id place names x) (ho : x.outcome? (.member id place) = some (.resolved r))
    (hs : ∀ outcome, stage ≠ .ready outcome) {stage' : CallStage}
    (hs' : stage' = .waiting ∨ stage' = .ready (.resolved r) ∧
      isOpen (names.modify place fun e => (e.1, some r)) = false) :
    Accounted (history ++ [x]) id stage' (names.modify place fun e => (e.1, some r)) := by
  have hfirst : firstFailure id (history ++ [x]) = none := by
    rw [firstFailure_append, h.unready hs, Option.none_or, firstFailure, List.findSome?_singleton,
      hx.failure?_eq ho]
  obtain ⟨hsingle, hasked⟩ := h.heard hx
  refine ⟨hsingle, fun p r' how hm => ?_, fun p name r' he => ?_, fun _ => hfirst,
    fun o hready => ?_⟩
  · obtain ⟨e, he, hr⟩ := hasked p r' how hm
    rw [List.getElem?_modify, he]
    refine ⟨_, rfl, ?_⟩
    split <;> exact hr
  · rw [List.getElem?_modify] at he
    obtain ⟨e, hold, hnew⟩ := Option.map_eq_some_iff.mp he
    by_cases hp : place = p
    · rw [if_pos hp] at hnew
      cases hnew
      subst hp
      rw [Desk.outcomesOf_append]
      refine List.mem_append_right _ (List.mem_filterMap.mpr ⟨x, List.mem_singleton_self x, ho⟩)
    · rw [if_neg hp] at hnew
      obtain rfl : e = (name, some r') := hnew
      exact h.answered_grow p name r' hold
  · rcases hs' with he | ⟨he, hopen⟩
    · exact absurd (he.symm.trans hready) nofun
    · obtain rfl := CallStage.ready.inj (he.symm.trans hready)
      exact .inl ⟨⟨r, rfl⟩, hopen⟩

theorem Accounted.failed {f : Failure} (h : Accounted history id stage names)
    (hx : IsReport id place names x) (ho : x.outcome? (.member id place) = some (.failed f))
    (hs : ∀ outcome, stage ≠ .ready outcome) :
    Accounted (history ++ [x]) id (.ready (.failed f)) names := by
  obtain ⟨hsingle, hasked⟩ := h.heard hx
  refine ⟨hsingle, hasked, h.answered_grow, fun hs' => absurd rfl (hs' _), fun o hready => ?_⟩
  obtain rfl := CallStage.ready.inj hready
  refine .inr ⟨f, rfl, ?_⟩
  rw [firstFailure_append, h.unready hs, Option.none_or, firstFailure, List.findSome?_singleton,
    hx.failure?_eq ho]

/-! Turns and questions -/

/-- How often a name has been asked for, or is going to be. -/
def due (history : List (Happening Asker)) (w : Workspace ℚ) (id place : Nat) : Nat :=
  asksOf (.member id place) history + w.memberTurns.count (id, place)

structure Tally (history : List (Happening Asker)) (w : Workspace ℚ) : Prop where
  bounded : ∀ id c, w.calls.get? id = some c → id < w.nextCall
  unborn : ∀ id, w.nextCall ≤ id →
    asksOf (.call id) history = 0 ∧ ∀ place, due history w id place = 0
  fresh : ∀ id c, w.calls.get? id = some c → c.stage = .fresh → ∀ place, due history w id place = 0
  once : ∀ id place, due history w id place ≤ 1

/-- No call is new, and no name has become due. -/
theorem Tally.grow (h : Tally history w) (hn : w'.nextCall = w.nextCall)
    (hcalls : ∀ i c', w'.calls.get? i = some c' →
      ∃ c, w.calls.get? i = some c ∧ (c'.stage = .fresh → c.stage = .fresh))
    (hdue : ∀ i p, due (history ++ hs) w' i p ≤ due history w i p)
    (hcall : ∀ i, w.nextCall ≤ i → asksOf (.call i) hs = 0) : Tally (history ++ hs) w' := by
  have hzero (i p : Nat) (h0 : due history w i p = 0) : due (history ++ hs) w' i p = 0 :=
    Nat.eq_zero_of_le_zero (h0 ▸ hdue i p)
  refine ⟨fun i c' hc' => ?_, fun i hi => ?_, fun i c' hc' hs' p => ?_, fun i p => ?_⟩
  · obtain ⟨c, hc, -⟩ := hcalls i c' hc'
    rw [hn]
    exact h.bounded i c hc
  · rw [hn] at hi
    refine ⟨?_, fun p => hzero i p ((h.unborn i hi).2 p)⟩
    rw [Desk.asksOf_append, (h.unborn i hi).1, hcall i hi]
  · obtain ⟨c, hc, hfresh⟩ := hcalls i c' hc'
    exact hzero i p (h.fresh i c hc (hfresh hs') p)
  · exact (hdue i p).trans (h.once i p)

/-- A call that has changed is fresh only if it was. -/
theorem calls_of_set (hget : w.calls.get? id = some c) (hc : w'.calls = w.calls.set id c')
    (hs : c'.stage = .fresh → c.stage = .fresh) (i : Nat) (c₁ : Call)
    (hget₁ : w'.calls.get? i = some c₁) :
    ∃ c₀, w.calls.get? i = some c₀ ∧ (c₁.stage = .fresh → c₀.stage = .fresh) := by
  rw [hc, Register.get?_set] at hget₁
  split at hget₁
  · next hi =>
    cases hget₁
    exact ⟨c, hi ▸ hget, hs⟩
  · exact ⟨c₁, hget₁, fun hs => hs⟩

theorem due_aside (hno : ∀ x ∈ hs, ¬ concerns id x) (ht : w'.memberTurns = w.memberTurns)
    (place : Nat) : due (history ++ hs) w' id place = due history w id place := by
  have hmember : Asker.IsOf id (.member id place) := rfl
  rw [due, due, ht, Desk.asksOf_append, asksOf_aside hmember hno, Nat.add_zero]

/-! From one state to the next -/

structure Ledger (history : List (Happening Asker)) (w : Workspace ℚ) : Prop where
  tally : Tally history w
  known : ∀ id c names, w.calls.get? id = some c → c.wanted = .profiles names →
    Accounted history id c.stage names

/-- What a call for profiles ends with. -/
def Call.EndsWith (c : Call) (result : CallResult) : Prop :=
  (∃ outcome, c.stage = .ready outcome ∧ result = c.result outcome) ∨
    c.wanted = .profiles [] ∧ result = .profiles []

/-- What becomes of a call for profiles. -/
inductive Call.Becomes (since : List (Entry ℚ)) (w' : Workspace ℚ) (id : Nat) (c : Call)
    (names : List (Text × Option Resolution)) : Prop
  | goesOn {c' : Call} {names' : List (Text × Option Resolution)}
    (hget : w'.calls.get? id = some c') (htag : c'.tag = c.tag)
    (hw : c'.wanted = .profiles names') (hnames : names'.map Prod.fst = names.map Prod.fst)
  | ends (result : CallResult) (hget : w'.calls.get? id = none)
    (hrecord : w'.record = .answered c.tag result :: since)
    (hresult : c.calledOff = false → c.EndsWith result)

structure Passage (history : List (Happening Asker)) (w : Workspace ℚ)
    (hs : List (Happening Asker)) (w' : Workspace ℚ) : Prop where
  ledger : Ledger (history ++ hs) w'
  nextCall : w.nextCall ≤ w'.nextCall
  gone : ∀ id, id < w.nextCall → w.calls.get? id = none → w'.calls.get? id = none
  becomes : ∀ id c names, w.calls.get? id = some c → c.wanted = .profiles names →
    c.Becomes w.record w' id names

/-- Calls are as they were, and account for what has been said. -/
theorem passage_same (hc : w'.calls = w.calls)
    (ht : Tally (history ++ hs) w') (hn : w'.nextCall = w.nextCall)
    (hown : ∀ i c names, w.calls.get? i = some c → c.wanted = .profiles names →
      Accounted (history ++ hs) i c.stage names) : Passage history w hs w' := by
  refine ⟨⟨ht, fun i c names hget hw => hown i c names (hc ▸ hget) hw⟩, hn.ge,
    fun i _ hnone => hc ▸ hnone, fun i c names hget hw => ?_⟩
  exact .goesOn (by rw [hc, hget]) rfl hw rfl

theorem Tally.spared (h : Tally history w) (hc : SparesCalls w w')
    (hno : ∀ id, ∀ x ∈ hs, ¬ concerns id x) : Tally (history ++ hs) w' := by
  refine h.grow hc.nextCall (fun i c' hc' => ⟨c', hc.calls ▸ hc', id⟩)
    (fun i p => (due_aside (hno i) hc.turns p).le) fun i _ => ?_
  have hcall : Asker.IsOf i (.call i) := rfl
  exact asksOf_aside hcall (hno i)

theorem Ledger.passage_spared (h : Ledger history w) (hc : SparesCalls w w')
    (hno : ∀ id, ∀ x ∈ hs, ¬ concerns id x) : Passage history w hs w' :=
  passage_same hc.calls (h.tally.spared hc hno) hc.nextCall
    fun i c names hget hw => (h.known i c names hget hw).grow (hno i)

theorem Ledger.spared (h : Ledger history w) (hc : SparesCalls w w') : Ledger history w' := by
  have hpassage : Passage history w [] w' := h.passage_spared hc fun _ => nofun
  have hledger := hpassage.ledger
  rwa [List.append_nil] at hledger

/-- Nothing more is done than what spares calls, and the record stays as it is. -/
theorem Passage.after (h : Passage history w hs w') (hc : SparesCalls w' w'')
    (hr : w''.record = w'.record) : Passage history w hs w'' := by
  refine ⟨h.ledger.spared hc, h.nextCall.trans hc.nextCall.ge,
    fun i hi hnone => hc.calls ▸ h.gone i hi hnone, fun i c names hget hw => ?_⟩
  cases h.becomes i c names hget hw with
  | goesOn hget' htag hw' hnames => exact .goesOn (by rw [hc.calls, hget']) htag hw' hnames
  | ends result hget' hrecord hresult =>
    exact .ends result (by rw [hc.calls, hget']) (hr.trans hrecord) hresult

/-- What has been done before spared all calls. -/
theorem Passage.before (h : Passage history w' hs w'') (hc : SparesCalls w w')
    (hr : w'.record = w.record) : Passage history w hs w'' := by
  refine ⟨h.ledger, hc.nextCall ▸ h.nextCall, fun i hi hnone => ?_, fun i c names hget hw => ?_⟩
  · exact h.gone i (hc.nextCall.symm ▸ hi) (by rw [hc.calls, hnone])
  · exact hr ▸ h.becomes i c names (by rw [hc.calls, hget]) hw

/-! One call -/

/-- One call has changed. -/
theorem Ledger.passage_set (h : Ledger history w) (hget : w.calls.get? id = some c)
    (hc : w'.calls = w.calls.set id c') (ht : Tally (history ++ hs) w')
    (hn : w'.nextCall = w.nextCall) (htag : c'.tag = c.tag)
    (hnames : ∀ names, c.wanted = .profiles names → ∃ names', c'.wanted = .profiles names' ∧
      names'.map Prod.fst = names.map Prod.fst)
    (hno : ∀ i, i ≠ id → ∀ x ∈ hs, ¬ concerns i x)
    (hown : ∀ names, c'.wanted = .profiles names → Accounted (history ++ hs) id c'.stage names) :
    Passage history w hs w' := by
  have hset (i : Nat) : w'.calls.get? i = if i = id then some c' else w.calls.get? i := by
    rw [hc, Register.get?_set]
  refine ⟨⟨ht, fun i c₁ names hget₁ hw => ?_⟩, hn.ge, fun i _ hnone => ?_,
    fun i c₁ names hget₁ hw => ?_⟩
  · rw [hset] at hget₁
    split at hget₁
    · next hi =>
      cases hget₁
      exact hi ▸ hown names hw
    · next hi => exact (h.known i c₁ names hget₁ hw).grow (hno i hi)
  · rw [hset, if_neg, hnone]
    rintro rfl
    cases hget.symm.trans hnone
  · by_cases hi : i = id
    · subst hi
      obtain rfl := Option.some.inj (hget.symm.trans hget₁)
      obtain ⟨names', hw', hmap⟩ := hnames names hw
      exact .goesOn ((hset i).trans (if_pos rfl)) htag hw' hmap
    · exact .goesOn ((hset i).trans ((if_neg hi).trans hget₁)) rfl hw rfl

/-- A call is over. -/
theorem Ledger.passage_end (h : Ledger history w) (hget : w.calls.get? id = some c)
    (hcalls : w'.calls = w.calls) (hn : w'.nextCall = w.nextCall)
    (ht : Tally (history ++ hs) w') {result : CallResult}
    (hno : ∀ i, i ≠ id → ∀ x ∈ hs, ¬ concerns i x)
    (hresult : ∀ names, c.wanted = .profiles names →
      w'.record = w.record ∧ (c.calledOff = false → c.EndsWith result)) :
    Passage history w hs (w'.endCall id c result) := by
  have herase (i : Nat) : (w'.endCall id c result).calls.get? i =
      if i = id then none else w.calls.get? i := by
    rw [← hcalls]
    exact Register.get?_erase ..
  refine ⟨⟨?_, fun i c₁ names hget₁ hw => ?_⟩, hn.ge, fun i _ hnone => ?_,
    fun i c₁ names hget₁ hw => ?_⟩
  · refine ⟨fun i c₁ hget₁ => ?_, ht.unborn, fun i c₁ hget₁ => ?_, ht.once⟩
    · rw [herase] at hget₁
      split at hget₁
      · cases hget₁
      · exact ht.bounded i c₁ (hcalls ▸ hget₁)
    · rw [herase] at hget₁
      split at hget₁
      · cases hget₁
      · exact ht.fresh i c₁ (hcalls ▸ hget₁)
  · rw [herase] at hget₁
    split at hget₁
    · cases hget₁
    · next hi => exact (h.known i c₁ names hget₁ hw).grow (hno i hi)
  · rw [herase, hnone, ite_self]
  · by_cases hi : i = id
    · subst hi
      obtain rfl := Option.some.inj (hget.symm.trans hget₁)
      obtain ⟨hrecord, hends⟩ := hresult names hw
      exact .ends result ((herase i).trans (if_pos rfl)) (congrArg (_ :: ·) hrecord) hends
    · exact .goesOn ((herase i).trans ((if_neg hi).trans hget₁)) rfl hw rfl

/-! Names -/

/-- Something is said of one of the names of a call. -/
structure Reports (history : List (Happening Asker)) (w : Workspace ℚ) (id place : Nat)
    (x : Happening Asker) (w' : Workspace ℚ) : Prop where
  calls : w'.calls = w.calls
  nextCall : w'.nextCall = w.nextCall
  due : ∀ i p, due (history ++ [x]) w' i p ≤ due history w i p
  report : ∀ c names, w.calls.get? id = some c → c.wanted = .profiles names →
    IsReport id place names x ∧ c.stage ≠ .fresh
  single : ∀ i, asksOf (.call i) [x] = 0
  others : ∀ i, i ≠ id → ∀ y ∈ [x], ¬ concerns i y

theorem Reports.spared (hr : Reports history w id place x w') (hc : SparesCalls w' w'') :
    Reports history w id place x w'' := by
  refine ⟨hc.calls.trans hr.calls, hc.nextCall.trans hr.nextCall, fun i p => ?_, hr.report,
    hr.single, hr.others⟩
  rw [Workspace.due, hc.turns]
  exact hr.due i p

theorem Reports.same (hr : Reports history w id place x w') (h : Ledger history w)
    (hown : ∀ c names, w.calls.get? id = some c → c.wanted = .profiles names →
      Accounted (history ++ [x]) id c.stage names) : Passage history w [x] w' := by
  have ht := h.tally.grow hr.nextCall (fun i c' hc' => ⟨c', hr.calls ▸ hc', fun hs => hs⟩) hr.due
    fun i _ => hr.single i
  refine passage_same hr.calls ht hr.nextCall fun i c names hget hw => ?_
  by_cases hi : i = id
  · subst hi
    exact hown c names hget hw
  · exact (h.known i c names hget hw).grow (hr.others i hi)

theorem Reports.set (hr : Reports history w id place x w') (h : Ledger history w)
    (hget : w.calls.get? id = some c) (hs : c'.stage ≠ .fresh) (htag : c'.tag = c.tag)
    (hnames : ∀ names, c.wanted = .profiles names → ∃ names', c'.wanted = .profiles names' ∧
      names'.map Prod.fst = names.map Prod.fst)
    (hown : ∀ names, c'.wanted = .profiles names → Accounted (history ++ [x]) id c'.stage names) :
    Passage history w [x] (w'.setCall id c') := by
  have hcalls : (w'.setCall id c').calls = w.calls.set id c' := congrArg (·.set id c') hr.calls
  have hn : (w'.setCall id c').nextCall = w.nextCall := hr.nextCall
  have ht := h.tally.grow hn (calls_of_set hget hcalls fun hfresh => absurd hfresh hs) hr.due
    fun i _ => hr.single i
  exact h.passage_set hget hcalls ht hn htag hnames hr.others hown

theorem map_fst_modify (names : List (Text × Option Resolution)) (place : Nat) (r : Resolution) :
    (names.modify place fun e => (e.1, some r)).map Prod.fst = names.map Prod.fst := by
  refine List.ext_getElem? fun p => ?_
  rw [List.getElem?_map, List.getElem?_map, List.getElem?_modify]
  cases names[p]? with
  | none => rfl
  | some e =>
    change some (if place = p then (e.1, some r) else e).1 = some e.1
    split <;> rfl

/-- A name of a call has its outcome. -/
theorem Reports.memberAnswer (hr : Reports history w id place x w') (h : Ledger history w)
    (ho : x.outcome? (.member id place) = some outcome) (hstop : outcome ≠ .stopped) :
    Passage history w [x] (w'.memberAnswer id place outcome) := by
  have hsoon {w₁ : Workspace ℚ} (hp : Passage history w [x] w₁) :
      Passage history w [x] (w₁.soon (.call id)) := hp.after (spares_soon w₁ rfl) rfl
  unfold Workspace.memberAnswer
  rw [hr.calls]
  split
  · next c hget =>
    split
    · next names r hw hs =>
      have hreport := (hr.report c names hget hw).1
      have hknown := h.known id c names hget hw
      have hunready : ∀ outcome, c.stage ≠ .ready outcome := fun o he => by simp [hs] at he
      have hmapped : ∀ names₀, c.wanted = .profiles names₀ → ∃ names',
          Wanted.profiles (names.modify place fun e => (e.1, some r)) = .profiles names' ∧
            names'.map Prod.fst = names₀.map Prod.fst := fun names₀ hw₀ => by
        obtain rfl := Wanted.profiles.inj (hw.symm.trans hw₀)
        exact ⟨_, rfl, map_fst_modify names place r⟩
      dsimp only
      split
      · refine hr.set h hget (by simp [hs]) rfl hmapped fun names' hw' => ?_
        obtain rfl := Wanted.profiles.inj hw'
        exact hknown.resolved hreport ho hunready (.inl hs)
      · next hopen =>
        refine hsoon (hr.set h hget nofun rfl hmapped fun names' hw' => ?_)
        obtain rfl := Wanted.profiles.inj hw'
        exact hknown.resolved hreport ho hunready (.inr ⟨rfl, by simpa using hopen⟩)
    · next o _ _ _ names hw hs hne =>
      cases o with
      | stopped => exact absurd rfl hstop
      | resolved r => exact (hne r rfl).elim
      | failed f =>
        refine hsoon (hr.set h hget nofun rfl (fun names₀ hw₀ => ⟨names₀, hw₀, rfl⟩)
          fun names' hw' => ?_)
        have hreport := (hr.report c names' hget hw').1
        refine (h.known id c names' hget hw').failed hreport ho fun o he => ?_
        rw [hs] at he
        cases he
    · next hnot _ =>
      refine hr.same h fun c₁ names hget₁ hw => ?_
      obtain rfl := Option.some.inj (hget.symm.trans hget₁)
      obtain ⟨hreport, hfresh⟩ := hr.report c names hget hw
      have hknown := h.known id c names hget hw
      cases hs : c.stage with
      | fresh => exact absurd hs hfresh
      | waiting => exact (hnot names hw hs).elim
      | ready o =>
        rw [hs] at hknown
        exact hknown.late hreport
  · next hnone =>
    refine hr.same h fun c names hget => ?_
    rw [hnone] at hget
    cases hget

end CommitMessage.Workspace
