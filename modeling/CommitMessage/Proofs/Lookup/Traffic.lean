import CommitMessage.Proofs.Lookup.Answers
import Mathlib

/-! The traffic at a desk, one step after the other. At every moment each fetch that is not over
waits in exactly one place: for its first turn, in the line of the limiter, or for its reply. -/

namespace CommitMessage.Desk

variable {κ : Type}

/-- How one who asks is received. -/
inductive Reception where
  /-- The outcome is at hand. -/
  | given (outcome : Outcome)
  /-- Waits for a fetch that is there already. -/
  | joined
  /-- Nothing is known and nothing is on its way: a fetch is made. -/
  | made
  deriving DecidableEq, Repr

def reception (d : Desk ℚ κ) (now : ℚ) (caller : κ) (pass : Option Text) (r : Reference) :
    Reception :=
  match (d.ask now caller pass r).1 with
  | some outcome => .given outcome
  | none => if (d.fetch? r).isSome then .joined else .made

/-- What happens at a desk, as far as it can be seen from outside. -/
inductive Happening (κ : Type) where
  | asked (caller : κ) (r : Reference) (how : Reception)
  /-- A request goes out; the reply is the one that will come. -/
  | begun (r : Reference) (reply : Reply) (time : ℚ)
  | received (r : Reference) (reply : Reply) (time : ℚ)
  /-- One who waited gets the outcome. -/
  | told (caller : κ) (outcome : Outcome)
  /-- Entries are taken out of the cache. -/
  | thinned
  deriving DecidableEq, Repr

/-- What there is at a desk, and what is on its way to it or from it. -/
structure Traffic (κ : Type) where
  now : ℚ
  hosts : Hosts
  cache : Cache ℚ
  interval : ℚ
  lastGrant : Option ℚ
  fetches : List (Fetch κ)
  /-- Those at the limiter. -/
  clients : List Reference
  /-- First turns of fetches. -/
  turns : List Reference
  replies : Multiset (Reference × Reply)
  forgets : List Reference
  answers : List (κ × Outcome)
  /-- What has been requested so far, and when. -/
  requests : List (Text × ℚ)

namespace Traffic

variable {gone : κ → Prop} {t t' t'' : Traffic κ} {hs hs' : List (Happening κ)}

/-- A step of the traffic, and what happens in it. Those who are gone may leave. -/
inductive Step (gone : κ → Prop) : Traffic κ → List (Happening κ) → Traffic κ → Prop
  | pass {t : Traffic κ} {time : ℚ} (h : t.now ≤ time) : Step gone t [] { t with now := time }
  | leave {t : Traffic κ} (stays : κ → Bool) (h : ∀ c, stays c = false → gone c) :
      Step gone t [] { t with
        fetches := t.fetches.map fun f => { f with callers := f.callers.filter stays } }
  | thin {t : Traffic κ} (stays : Reference × Cache.Entry ℚ → Bool) :
      Step gone t [.thinned] { t with cache.entries := t.cache.entries.filter stays }
  | give {t : Traffic κ} {c : κ} {r : Reference} {outcome : Outcome}
      (h : Gives t.cache t.fetches t.now r outcome) : Step gone t [.asked c r (.given outcome)] t
  | join {t : Traffic κ} {c : κ} {older newer : List (Fetch κ)} {f : Fetch κ}
      (hf : t.fetches = older ++ f :: newer) (ho : ¬ f.IsOver)
      (hc : t.cache.get? t.now f.reference = none) :
      Step gone t [.asked c f.reference .joined]
        { t with fetches := older ++ { f with callers := f.callers ++ [c] } :: newer }
  | make {t : Traffic κ} {c : κ} {r : Reference} {pass : Option Text} (hv : r.isValid = true)
      (hr : ∀ f ∈ t.fetches, f.reference ≠ r) (hc : t.cache.get? t.now r = none) :
      Step gone t [.asked c r .made]
        { t with
          fetches := t.fetches ++ [{ reference := r, pass, callers := [c] }]
          turns := t.turns ++ [r] }
  | enter {t : Traffic κ} {older newer : List (Fetch κ)} {f : Fetch κ} {turns : List Reference}
      (hf : t.fetches = older ++ f :: newer) (hs : f.stage = .fresh)
      (ht : t.turns = f.reference :: turns) :
      Step gone t []
        { t with
          fetches := older ++ { f with stage := .inLine } :: newer
          clients := t.clients ++ [f.reference]
          turns }
  | begin {t : Traffic κ} {older newer : List (Fetch κ)} {f : Fetch κ} {clients : List Reference}
      {reply : Reply} (hf : t.fetches = older ++ f :: newer) (hs : f.stage = .inLine)
      (hc : t.clients = f.reference :: clients)
      (hl : ∀ last, t.lastGrant = some last → last + t.interval ≤ t.now) :
      Step gone t [.begun f.reference reply t.now]
        { t with
          fetches := older ++ { f with stage := .fetching } :: newer
          clients
          lastGrant := some t.now
          replies := (f.reference, reply) ::ₘ t.replies
          requests := t.requests ++ [(f.reference.url t.hosts, t.now)] }
  | receive {t : Traffic κ} {older newer : List (Fetch κ)} {f : Fetch κ} {reply : Reply}
      {replies : Multiset (Reference × Reply)} (hf : t.fetches = older ++ f :: newer)
      (hs : f.stage = .fetching) (hr : t.replies = (f.reference, reply) ::ₘ replies) :
      Step gone t [.received f.reference reply t.now]
        { t with
          fetches := older ++ f.finished (reply.outcome f.reference) :: newer
          cache := t.cache.learn t.now f.reference (reply.verdict? f.reference)
          replies
          forgets := t.forgets ++ [f.reference]
          answers := t.answers ++ f.callers.map (·, reply.outcome f.reference) }
  | forget {t : Traffic κ} {older newer : List (Fetch κ)} {f : Fetch κ} {forgets : List Reference}
      (hf : t.fetches = older ++ f :: newer) (ho : f.IsOver)
      (hg : t.forgets = f.reference :: forgets) :
      Step gone t [] { t with fetches := older ++ newer, forgets }
  | tell {t : Traffic κ} {c : κ} {outcome : Outcome} {answers : List (κ × Outcome)}
      (ha : t.answers = (c, outcome) :: answers) :
      Step gone t [.told c outcome] { t with answers }

inductive Steps (gone : κ → Prop) : Traffic κ → List (Happening κ) → Traffic κ → Prop
  | refl (t : Traffic κ) : Steps gone t [] t
  | tail {t t' t'' : Traffic κ} {hs hs' : List (Happening κ)} (h : Steps gone t hs t')
      (h' : Step gone t' hs' t'') : Steps gone t (hs ++ hs') t''

theorem Step.steps (h : Step gone t hs t') : Steps gone t hs t' := .tail (.refl t) h

theorem Steps.trans (h : Steps gone t hs t') (h' : Steps gone t' hs' t'') :
    Steps gone t (hs ++ hs') t'' := by
  induction h' with
  | refl => simpa using h
  | tail _ hstep ih =>
    have hall := Steps.tail ih hstep
    rwa [List.append_assoc] at hall

theorem Step.mono {gone' : κ → Prop} (h : Step gone t hs t') (hg : ∀ c, gone c → gone' c) :
    Step gone' t hs t' := by
  cases h with
  | pass h => exact .pass h
  | leave stays h => exact .leave stays fun c hc => hg c (h c hc)
  | thin stays => exact .thin stays
  | give h => exact .give h
  | join hf ho hc => exact .join hf ho hc
  | make hv hr hc => exact .make hv hr hc
  | enter hf hs ht => exact .enter hf hs ht
  | begin hf hs hc hl => exact .begin hf hs hc hl
  | receive hf hs hr => exact .receive hf hs hr
  | forget hf ho hg => exact .forget hf ho hg
  | tell ha => exact .tell ha

theorem Steps.mono {gone' : κ → Prop} (h : Steps gone t hs t') (hg : ∀ c, gone c → gone' c) :
    Steps gone' t hs t' := by
  induction h with
  | refl => exact .refl _
  | tail _ hstep ih => exact .tail ih (hstep.mono hg)

/-! Where fetches wait -/

end Traffic

def Stage.isAhead : Stage → Bool
  | .fresh | .inLine => true
  | _ => false

def Stage.isFinished : Stage → Bool
  | .finished _ => true
  | _ => false

def refsAt (p : Stage → Bool) (fetches : List (Fetch κ)) : List Reference :=
  (fetches.filter fun f => p f.stage).map (·.reference)

@[simp] theorem refsAt_nil (p : Stage → Bool) : refsAt p ([] : List (Fetch κ)) = [] := rfl

@[simp] theorem refsAt_append (p : Stage → Bool) (older newer : List (Fetch κ)) :
    refsAt p (older ++ newer) = refsAt p older ++ refsAt p newer := by
  simp [refsAt]

@[simp] theorem refsAt_cons (p : Stage → Bool) (f : Fetch κ) (fetches : List (Fetch κ)) :
    refsAt p (f :: fetches) =
      if p f.stage then f.reference :: refsAt p fetches else refsAt p fetches := by
  by_cases hp : p f.stage = true <;> simp [refsAt, hp]

theorem mem_refsAt {p : Stage → Bool} {fetches : List (Fetch κ)} {r : Reference} :
    r ∈ refsAt p fetches ↔ ∃ f ∈ fetches, p f.stage = true ∧ f.reference = r := by
  simp [refsAt, and_assoc]

theorem isFinished_iff {f : Fetch κ} : f.stage.isFinished = true ↔ f.IsOver := by
  unfold Stage.isFinished Fetch.IsOver
  cases f.stage <;> simp

namespace Traffic

variable {gone : κ → Prop} {t t' t'' : Traffic κ} {hs hs' : List (Happening κ)}

structure Sound (t : Traffic κ) : Prop where
  nodup : (t.fetches.map (·.reference)).Nodup
  valid : ∀ f ∈ t.fetches, f.reference.isValid = true
  /-- Those at the limiter come first, and then those who have yet to get there. -/
  ahead : refsAt Stage.isAhead t.fetches = t.clients ++ t.turns
  fetching : t.replies.map (·.1) = ↑(refsAt (· = .fetching) t.fetches)
  finished : t.forgets.Perm (refsAt Stage.isFinished t.fetches)
  idle : ∀ f ∈ t.fetches, f.IsOver → f.callers = []

section

variable {older newer : List (Fetch κ)} {f f' : Fetch κ}

theorem Sound.nodup_replace (h : t.Sound) (hf : t.fetches = older ++ f :: newer)
    (hr : f'.reference = f.reference) : ((older ++ f' :: newer).map (·.reference)).Nodup := by
  have hn := h.nodup
  rw [hf] at hn
  simpa [hr] using hn

theorem mem_of_replace (hf : t.fetches = older ++ f :: newer) {g : Fetch κ}
    (hg : g ∈ older ++ f' :: newer) : g ∈ t.fetches ∨ g = f' := by
  rw [hf]
  rcases List.mem_append.mp hg with hg | hg
  · exact .inl (List.mem_append_left _ hg)
  · rcases List.mem_cons.mp hg with rfl | hg
    · exact .inr rfl
    · exact .inl (List.mem_append_right _ (List.mem_cons_of_mem _ hg))

theorem mem_of_split (hf : t.fetches = older ++ f :: newer) : f ∈ t.fetches := by
  rw [hf]
  simp

theorem Sound.valid_replace (h : t.Sound) (hf : t.fetches = older ++ f :: newer)
    (hr : f'.reference = f.reference) : ∀ g ∈ older ++ f' :: newer, g.reference.isValid = true := by
  intro g hg
  rcases mem_of_replace hf hg with hg | rfl
  · exact h.valid g hg
  · rw [hr]
    exact h.valid f (mem_of_split hf)

theorem Sound.idle_replace (h : t.Sound) (hf : t.fetches = older ++ f :: newer)
    (ho : f'.IsOver → f'.callers = []) : ∀ g ∈ older ++ f' :: newer, g.IsOver → g.callers = [] := by
  intro g hg
  rcases mem_of_replace hf hg with hg | rfl
  · exact h.idle g hg
  · exact ho

/-- The first of those at the limiter comes before all others that are ahead of their request. -/
theorem Sound.first {rest : List Reference} (h : t.Sound)
    (hf : t.fetches = older ++ f :: newer) (hs : f.stage.isAhead = true)
    (hr : t.clients ++ t.turns = f.reference :: rest) :
    refsAt Stage.isAhead older = [] ∧ refsAt Stage.isAhead newer = rest := by
  have ha := h.ahead
  rw [hf, hr, refsAt_append, refsAt_cons, if_pos hs] at ha
  -- an older one would come first, and so be for the same reference
  cases ho : refsAt Stage.isAhead older with
  | nil =>
    rw [ho] at ha
    exact ⟨rfl, (List.cons.inj ha).2⟩
  | cons r more =>
    rw [ho] at ha
    obtain rfl : r = f.reference := (List.cons.inj ha).1
    have hm : f.reference ∈ refsAt Stage.isAhead older := by
      rw [ho]
      exact List.mem_cons_self
    obtain ⟨g, hg, -, he⟩ := mem_refsAt.mp hm
    have hn := h.nodup
    rw [hf, List.map_append, List.map_cons] at hn
    have hd := (List.nodup_append.mp hn).2.2
    exact absurd he (hd _ (List.mem_map_of_mem hg) _ List.mem_cons_self)

end

theorem Step.sound (h : Step gone t hs t') (ht : t.Sound) : t'.Sound := by
  cases h with
  | pass h => exact ⟨ht.nodup, ht.valid, ht.ahead, ht.fetching, ht.finished, ht.idle⟩
  | leave stays h =>
    have hmap (p : Stage → Bool) : refsAt p (t.fetches.map fun f =>
        { f with callers := f.callers.filter stays }) = refsAt p t.fetches := by
      simp [refsAt, List.filter_map, Function.comp_def]
    refine ⟨?_, fun f hf => ?_, ?_, ?_, ?_, fun f hf ho => ?_⟩
    · simpa [Function.comp_def] using ht.nodup
    · obtain ⟨g, hg, rfl⟩ := List.mem_map.mp hf
      exact ht.valid g hg
    · rw [hmap]
      exact ht.ahead
    · rw [hmap]
      exact ht.fetching
    · rw [hmap]
      exact ht.finished
    · obtain ⟨g, hg, rfl⟩ := List.mem_map.mp hf
      have hi := ht.idle g hg ho
      simp [hi]
  | thin stays => exact ⟨ht.nodup, ht.valid, ht.ahead, ht.fetching, ht.finished, ht.idle⟩
  | give h => exact ht
  | join hf ho hc =>
    have ha := ht.ahead
    have hg := ht.fetching
    have hd := ht.finished
    rw [hf] at ha hg hd
    refine ⟨ht.nodup_replace hf rfl, ht.valid_replace hf rfl, ?_, ?_, ?_,
      ht.idle_replace hf fun h => absurd h ho⟩
    · simpa using ha
    · simpa using hg
    · simpa using hd
  | make hv hr hc =>
    refine ⟨?_, fun f hf => ?_, ?_, ?_, ?_, fun f hf ho => ?_⟩
    · rw [List.map_append]
      refine ht.nodup.append (List.nodup_singleton _) (List.disjoint_singleton.mpr fun hm => ?_)
      obtain ⟨f, hf, he⟩ := List.mem_map.mp hm
      exact hr f hf he
    · rcases List.mem_append.mp hf with hf | hf
      · exact ht.valid f hf
      · rwa [List.mem_singleton.mp hf]
    · have ha := ht.ahead
      simp [Stage.isAhead, ha]
    · simpa using ht.fetching
    · simpa [Stage.isFinished] using ht.finished
    · rcases List.mem_append.mp hf with hf | hf
      · exact ht.idle f hf ho
      · rw [List.mem_singleton.mp hf] at ho
        obtain ⟨outcome, ho⟩ := ho
        cases ho
  | enter hf hs htn =>
    have ha := ht.ahead
    have hg := ht.fetching
    have hd := ht.finished
    rw [hf] at ha hg hd
    refine ⟨ht.nodup_replace hf rfl, ht.valid_replace hf rfl, ?_, ?_, ?_, ht.idle_replace hf nofun⟩
    · simpa [hs, htn, Stage.isAhead] using ha
    · simpa [hs] using hg
    · simpa [hs, Stage.isFinished] using hd
  | begin hf hs hc hl =>
    have hg := ht.fetching
    have hd := ht.finished
    rw [hf] at hg hd
    refine ⟨ht.nodup_replace hf rfl, ht.valid_replace hf rfl, ?_, ?_, ?_, ht.idle_replace hf nofun⟩
    · obtain ⟨ho, hw⟩ := ht.first hf (by rw [hs]; rfl) (by rw [hc]; rfl)
      simp [Stage.isAhead, ho, hw]
    · simp only [hs, refsAt_append, refsAt_cons, reduceCtorEq, decide_false, Bool.false_eq_true,
        if_false] at hg
      simp only [Multiset.map_cons, hg, refsAt_append, refsAt_cons, decide_true, if_true,
        Multiset.cons_coe, Multiset.coe_eq_coe]
      exact List.perm_middle.symm
    · simpa [hs, Stage.isFinished] using hd
  | receive hf hs hr =>
    have ha := ht.ahead
    have hg := ht.fetching
    have hd := ht.finished
    rw [hf] at ha hg hd
    refine ⟨ht.nodup_replace hf rfl, ht.valid_replace hf rfl, ?_, ?_, ?_,
      ht.idle_replace hf fun _ => rfl⟩
    · simpa [hs, Stage.isAhead, Fetch.finished] using ha
    · simp only [hr, Multiset.map_cons, hs, refsAt_append, refsAt_cons, decide_true, if_true] at hg
      rw [Multiset.coe_eq_coe.mpr List.perm_middle, ← Multiset.cons_coe,
        Multiset.cons_inj_right] at hg
      simpa [Fetch.finished] using hg
    · simp only [hs, refsAt_append, refsAt_cons, Stage.isFinished, Bool.false_eq_true, if_false,
        Fetch.finished, if_true] at hd ⊢
      exact (hd.append_right _).trans ((List.perm_append_singleton _ _).trans List.perm_middle.symm)
  | forget hf ho hg =>
    have hn := ht.nodup
    have hv := ht.valid
    have ha := ht.ahead
    have hr := ht.fetching
    have hd := ht.finished
    have hi := ht.idle
    obtain ⟨outcome, ho⟩ := ho
    rw [hf] at hn hv ha hr hd hi
    refine ⟨hn.sublist (by simp), fun g hg => hv g ?_, ?_, ?_, ?_, fun g hg => hi g ?_⟩
    · exact (List.mem_append.mp hg).elim (List.mem_append_left _) fun hg => by simp [hg]
    · simpa [ho, Stage.isAhead] using ha
    · simpa [ho] using hr
    · simp only [hg, ho, refsAt_append, refsAt_cons, Stage.isFinished, if_true] at hd ⊢
      exact (hd.trans List.perm_middle).cons_inv
    · exact (List.mem_append.mp hg).elim (List.mem_append_left _) fun hg => by simp [hg]
  | tell ha => exact ⟨ht.nodup, ht.valid, ht.ahead, ht.fetching, ht.finished, ht.idle⟩

theorem Steps.sound (h : Steps gone t hs t') (ht : t.Sound) : t'.Sound := by
  induction h with
  | refl => exact ht
  | tail _ hstep ih => exact hstep.sound ih

end Traffic

end CommitMessage.Desk
