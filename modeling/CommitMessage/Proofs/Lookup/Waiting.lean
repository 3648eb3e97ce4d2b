import CommitMessage.Proofs.Lookup.Traffic
import Mathlib

/-! Those who wait for an outcome, or for whom one is on its way. As long as no one leaves, they
come when they ask and go when they are told, and no fetch goes on for no one. In any case nobody
comes to know more outcomes than he has asked for. -/

namespace CommitMessage.Desk

variable {κ : Type}

namespace Happening

/-- One who asks and has to wait. -/
def waits? : Happening κ → Option κ
  | asked c _ .joined | asked c _ .made => some c
  | _ => none

def told? : Happening κ → Option κ
  | told c _ => some c
  | _ => none

end Happening

namespace Traffic

variable {t t' : Traffic κ} {hs : List (Happening κ)}

def askers (t : Traffic κ) : Multiset κ :=
  (t.fetches.map fun f => (f.callers : Multiset κ)).sum + t.answers.map (·.1)

/-- Every fetch that is not over goes on for someone. -/
def Attended (t : Traffic κ) : Prop := ∀ f ∈ t.fetches, ¬ f.IsOver → f.callers ≠ []

theorem stays_of_no_one_gone {stays : κ → Bool} (h : ∀ c, stays c = false → False) (f : Fetch κ) :
    { f with callers := f.callers.filter stays } = f := by
  have hall : f.callers.filter stays = f.callers := by
    refine List.filter_eq_self.mpr fun c _ => ?_
    cases hc : stays c with
    | true => rfl
    | false => exact (h c hc).elim
  rw [hall]

theorem Step.askers (h : Step (fun _ => False) t hs t') (ht : t.Sound) :
    t'.askers + hs.filterMap Happening.told? = t.askers + hs.filterMap Happening.waits? := by
  cases h with
  | leave stays hgone => simp [Traffic.askers, stays_of_no_one_gone hgone]
  | join hf ho hc =>
    simp only [Traffic.askers, hf, List.map_append, List.map_cons, List.sum_append, List.sum_cons,
      List.filterMap_cons, Happening.told?, Happening.waits?, List.filterMap_nil,
      ← Multiset.coe_add]
    abel
  | make hv hr hc =>
    simp [Traffic.askers, List.filterMap_cons, Happening.told?, Happening.waits?, add_comm]
  | enter hf hs htn => simp [Traffic.askers, hf]
  | begin hf hs hc hl =>
    simp [Traffic.askers, hf, List.filterMap_cons, Happening.told?, Happening.waits?]
  | receive hf hs hr =>
    simp only [Traffic.askers, hf, Fetch.finished, List.map_append, List.map_cons, List.map_map,
      Function.comp_def, List.map_id', List.sum_append, List.sum_cons, List.filterMap_cons,
      Happening.told?, Happening.waits?, List.filterMap_nil, ← Multiset.coe_add, Multiset.coe_nil]
    abel
  | forget hf ho hg =>
    have hidle := ht.idle _ (mem_of_split hf) ho
    simp [Traffic.askers, hf, hidle]
  | tell ha =>
    simp only [Traffic.askers, ha, List.map_cons, List.filterMap_cons, Happening.told?,
      Happening.waits?, List.filterMap_nil, ← Multiset.cons_coe, ← Multiset.singleton_add,
      Multiset.coe_nil]
    abel
  | _ => simp [Traffic.askers, List.filterMap_cons, Happening.told?, Happening.waits?]

theorem Steps.askers (h : Steps (fun _ => False) t hs t') (ht : t.Sound) :
    t'.askers + hs.filterMap Happening.told? = t.askers + hs.filterMap Happening.waits? := by
  induction h with
  | refl => rfl
  | tail hsteps hstep ih =>
    have hone := hstep.askers (hsteps.sound ht)
    simp only [List.filterMap_append, ← Multiset.coe_add]
    rw [← add_assoc, add_right_comm, hone, add_right_comm, ih, add_assoc]

theorem Step.attended (h : Step (fun _ => False) t hs t') (ha : t.Attended) : t'.Attended := by
  have hreplace {older newer : List (Fetch κ)} {f f' : Fetch κ}
      (hf : t.fetches = older ++ f :: newer) (hf' : ¬ f'.IsOver → f'.callers ≠ []) :
      ∀ g ∈ older ++ f' :: newer, ¬ g.IsOver → g.callers ≠ [] := by
    intro g hg ho
    rcases mem_of_replace hf hg with hg | rfl
    · exact ha g hg ho
    · exact hf' ho
  have hold {older newer : List (Fetch κ)} {f : Fetch κ} (hf : t.fetches = older ++ f :: newer)
      (ho : ¬ f.IsOver) : f.callers ≠ [] := ha f (mem_of_split hf) ho
  cases h with
  | leave stays hgone =>
    intro g hg ho
    obtain ⟨f, hf, rfl⟩ := List.mem_map.mp hg
    have hsame := stays_of_no_one_gone hgone f
    rw [hsame] at ho ⊢
    exact ha f hf ho
  | join hf ho hc => exact hreplace hf fun _ => by simp
  | make hv hr hc =>
    intro g hg ho
    rcases List.mem_append.mp hg with hg | hg
    · exact ha g hg ho
    · rw [List.mem_singleton.mp hg]
      exact List.cons_ne_nil _ _
  | enter hf hs htn =>
    have hne := hold hf fun ⟨_, ho⟩ => by simp [hs] at ho
    exact hreplace hf fun _ => hne
  | begin hf hs hc hl =>
    have hne := hold hf fun ⟨_, ho⟩ => by simp [hs] at ho
    exact hreplace hf fun _ => hne
  | receive hf hs hr => exact hreplace hf fun ho => absurd ⟨_, rfl⟩ ho
  | forget hf ho hg =>
    intro g hg
    refine ha g ?_
    rw [hf]
    exact (List.mem_append.mp hg).elim (List.mem_append_left _) fun hg => by simp [hg]
  | _ => exact ha

theorem Steps.attended (h : Steps (fun _ => False) t hs t') (ha : t.Attended) : t'.Attended := by
  induction h with
  | refl => exact ha
  | tail _ hstep ih => exact hstep.attended ih

theorem mem_askers {c : κ} (h : (∃ f ∈ t.fetches, c ∈ f.callers) ∨ ∃ o, (c, o) ∈ t.answers) :
    c ∈ t.askers := by
  rcases h with ⟨f, hf, hc⟩ | ⟨o, ho⟩
  · obtain ⟨older, newer, hsplit⟩ := List.append_of_mem hf
    simp [askers, hsplit, hc]
  · exact Multiset.mem_add.mpr (.inr (Multiset.mem_coe.mpr (List.mem_map_of_mem ho)))

end Traffic

/-! Outcomes -/

section

variable [DecidableEq κ] {c : κ} {history : List (Happening κ)}

def Happening.isAskedBy (c : κ) : Happening κ → Bool
  | .asked c' _ _ => c' = c
  | _ => false

def Happening.outcome? (c : κ) : Happening κ → Option Outcome
  | .asked c' _ (.given outcome) | .told c' outcome => if c' = c then some outcome else none
  | _ => none

/-- What one who asks has come to know, first things first. -/
def outcomesOf (c : κ) (history : List (Happening κ)) : List Outcome :=
  history.filterMap (·.outcome? c)

/-- How often one has asked. -/
def asksOf (c : κ) (history : List (Happening κ)) : Nat := history.countP (·.isAskedBy c)

theorem outcomesOf_append (c : κ) (history more : List (Happening κ)) :
    outcomesOf c (history ++ more) = outcomesOf c history ++ outcomesOf c more :=
  List.filterMap_append

theorem asksOf_append (c : κ) (history more : List (Happening κ)) :
    asksOf c (history ++ more) = asksOf c history + asksOf c more :=
  List.countP_append

theorem mem_outcomesOf {outcome : Outcome} : outcome ∈ outcomesOf c history ↔
    .told c outcome ∈ history ∨ ∃ r, .asked c r (.given outcome) ∈ history := by
  rw [outcomesOf, List.mem_filterMap]
  constructor
  · rintro ⟨x, hx, ho⟩
    cases x with
    | asked c' r how =>
      cases how with
      | given o =>
        obtain ⟨rfl, rfl⟩ : c' = c ∧ o = outcome := by simpa [Happening.outcome?] using ho
        exact .inr ⟨r, hx⟩
      | _ => cases ho
    | told c' o =>
      obtain ⟨rfl, rfl⟩ : c' = c ∧ o = outcome := by simpa [Happening.outcome?] using ho
      exact .inl hx
    | _ => cases ho
  · rintro (hx | ⟨r, hx⟩)
    · exact ⟨_, hx, if_pos rfl⟩
    · exact ⟨_, hx, if_pos rfl⟩

theorem asksOf_pos {r : Reference} {how : Reception} (hx : .asked c r how ∈ history) :
    0 < asksOf c history :=
  List.countP_pos_iff.mpr ⟨_, hx, decide_eq_true rfl⟩

namespace Traffic

variable {gone : κ → Prop} {t t' : Traffic κ} {hs : List (Happening κ)}

theorem count_askers (t : Traffic κ) (c : κ) : t.askers.count c =
    (t.fetches.flatMap (·.callers)).count c + (t.answers.map Prod.fst).count c := by
  have hsum (fetches : List (Fetch κ)) :
      ((fetches.map fun f => (f.callers : Multiset κ)).sum).count c =
        (fetches.flatMap (·.callers)).count c := by
    induction fetches with
    | nil => rfl
    | cons f fetches ih =>
      rw [List.map_cons, List.sum_cons, Multiset.count_add, ih, List.flatMap_cons,
        List.count_append, Multiset.coe_count]
  rw [askers, Multiset.count_add, hsum, Multiset.coe_count]

theorem Step.outcomes_le (h : Step gone t hs t') (c : κ) :
    (outcomesOf c hs).length + t'.askers.count c ≤ t.askers.count c + asksOf c hs := by
  cases h with
  | pass h => exact (Nat.zero_add _).le
  | leave stays h =>
    have hflat : (t.fetches.map fun f => { f with callers := f.callers.filter stays }).flatMap
        (·.callers) = (t.fetches.flatMap (·.callers)).filter stays := by
      rw [List.flatMap_map, List.filter_flatMap]
    have hle : ((t.fetches.flatMap (·.callers)).filter stays).count c ≤
        (t.fetches.flatMap (·.callers)).count c := List.filter_sublist.count_le c
    simp only [count_askers, hflat, outcomesOf, asksOf, List.filterMap_nil, List.length_nil,
      List.countP_nil]
    omega
  | thin stays => exact (Nat.zero_add _).le
  | @give c' r outcome h =>
    have hone : (outcomesOf c [.asked c' r (.given outcome)]).length =
        asksOf c [.asked c' r (.given outcome)] := by
      by_cases he : c' = c <;>
        simp [outcomesOf, asksOf, Happening.outcome?, Happening.isAskedBy, he]
    omega
  | @join c' older newer f hf ho hc =>
    have hcount : ([c'] : List κ).count c = asksOf c [.asked c' f.reference .joined] := by
      by_cases he : c' = c <;> simp [asksOf, Happening.isAskedBy, he]
    simp only [count_askers, hf, List.flatMap_append, List.flatMap_cons, List.count_append, hcount]
    simp only [outcomesOf, Happening.outcome?, List.filterMap_cons, List.filterMap_nil,
      List.length_nil]
    omega
  | @make c' r pass hv hr hc =>
    have hcount : ([c'] : List κ).count c = asksOf c [.asked c' r .made] := by
      by_cases he : c' = c <;> simp [asksOf, Happening.isAskedBy, he]
    simp only [count_askers, List.flatMap_append, List.flatMap_cons, List.flatMap_nil, List.append_nil,
      List.count_append, hcount]
    simp only [outcomesOf, Happening.outcome?, List.filterMap_cons, List.filterMap_nil,
      List.length_nil]
    omega
  | enter hf hs ht => simp [count_askers, hf, outcomesOf, asksOf]
  | begin hf hs hc hl =>
    simp [count_askers, hf, outcomesOf, asksOf, Happening.outcome?, Happening.isAskedBy]
  | @receive older newer f reply replies hf hs hr =>
    -- those who waited for the fetch have their answers coming
    have hanswers : ((f.callers.map (·, reply.outcome f.reference)).map Prod.fst).count c =
        f.callers.count c := by
      rw [List.map_map]
      exact congrArg (List.count c) (List.map_id _)
    simp only [count_askers, hf, List.flatMap_append, List.flatMap_cons, List.count_append, List.map_append,
      hanswers, Fetch.finished, List.count_nil]
    simp only [outcomesOf, asksOf, Happening.outcome?, Happening.isAskedBy, List.filterMap_cons,
      List.filterMap_nil, List.length_nil, List.countP_cons, List.countP_nil, Bool.false_eq_true,
      if_false]
    omega
  | forget hf ho hg =>
    simp only [count_askers, hf, List.flatMap_append, List.flatMap_cons, List.count_append, outcomesOf,
      asksOf, List.filterMap_nil, List.length_nil, List.countP_nil]
    omega
  | @tell c' outcome answers ha =>
    have hcount : (outcomesOf c [.told c' outcome]).length = ([c'] : List κ).count c := by
      by_cases he : c' = c <;> simp [outcomesOf, Happening.outcome?, he]
    have hasks : asksOf c [.told c' outcome] = 0 := rfl
    have hone : ((c', outcome) :: answers).map Prod.fst = [c'] ++ answers.map Prod.fst := rfl
    simp only [count_askers, ha, hone, List.count_append, hcount, hasks]
    omega

theorem Steps.outcomes_le (h : Steps gone t hs t') (c : κ) :
    (outcomesOf c hs).length + t'.askers.count c ≤ t.askers.count c + asksOf c hs := by
  induction h with
  | refl => exact (Nat.zero_add _).le
  | tail _ hstep ih =>
    have hle := hstep.outcomes_le c
    rw [outcomesOf_append, asksOf_append, List.length_append]
    omega

end Traffic

end

end CommitMessage.Desk
