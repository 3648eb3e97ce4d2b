import CommitMessage.Proofs.Board.Attended
import CommitMessage.Proofs.Board.Ending
import CommitMessage.Proofs.Board.Turns

/-! A board on which groups may be called off at any time. A group that is called off commits
nothing any more and so counts for nothing. Without such groups the board is steady, no group is
without something to come, and each belongs to the sheet of its own buffer. -/

namespace CommitMessage.Board

variable {b : Board} {g g' : Group} {id slot : Nat} {due : Wake → Prop}

/-- The board with no more than some of its groups. -/
def only (b : Board) (p : Group → Bool) : Board := { b with groups := b.groups.filter p }

/-- The board without the groups that are called off. -/
def kept (b : Board) : Board := b.only fun g => !g.calledOff

theorem mem_only {p : Group → Bool} : g ∈ (b.only p).groups ↔ g ∈ b.groups ∧ p g = true :=
  List.mem_filter

theorem mem_kept : g ∈ b.kept.groups ↔ g ∈ b.groups ∧ g.calledOff = false := by
  simp [kept, only]

theorem only_congr {p q : Group → Bool} (h : ∀ g ∈ b.groups, p g = q g) : b.only p = b.only q := by
  rw [only, only, List.filter_congr h]

theorem only_only (b : Board) (p q : Group → Bool) :
    (b.only q).only p = b.only fun g => p g && q g := by
  simp only [only, List.filter_filter]

theorem dropGroup_eq_only (b : Board) (id : Nat) :
    b.dropGroup id = b.only fun g => decide (g.id ≠ id) := rfl

/-! Groups looked up, replaced, and taken out -/

theorem group?_kept (hb : b.Ending fun _ => True) (id : Nat) :
    b.kept.group? id = (b.group? id).filter fun g => !g.calledOff := by
  cases hg : b.group? id with
  | none =>
    refine List.find?_eq_none.mpr fun g hm => ?_
    exact List.find?_eq_none.mp hg g (mem_kept.mp hm).1
  | some g =>
    obtain ⟨hm, rfl⟩ := mem_of_group? hg
    cases hc : g.calledOff with
    | true =>
      rw [Option.filter_some_neg (by simp [hc])]
      refine List.find?_eq_none.mpr fun h hh => ?_
      obtain ⟨hh, hoff⟩ := mem_kept.mp hh
      intro hid
      obtain rfl := hb.eq_of_id hh hm (by simpa using hid)
      rw [hc] at hoff
      cases hoff
    | false =>
      rw [Option.filter_some_pos (by simp [hc])]
      have hnodup : (b.kept.groups.map Group.id).Nodup :=
        hb.nodup.sublist (List.filter_sublist.map _)
      exact Keyed.find?_of_mem hnodup (mem_kept.mpr ⟨hm, hc⟩) (by simp)

theorem group?_kept_of_calledOff (hb : b.Ending fun _ => True) (hg : b.group? id = some g)
    (hc : g.calledOff = true) : b.kept.group? id = none := by
  rw [group?_kept hb, hg, Option.filter_some_neg (by simp [hc])]

theorem group?_kept_of_kept (hb : b.Ending fun _ => True) (hg : b.group? id = some g)
    (hc : g.calledOff = false) : b.kept.group? id = some g := by
  rw [group?_kept hb, hg, Option.filter_some_pos (by simp [hc])]

theorem kept_dropGroup (b : Board) (id : Nat) : (b.dropGroup id).kept = b.kept.dropGroup id := by
  simp only [kept, dropGroup_eq_only, only_only, Bool.and_comm]

theorem dropGroup_of_none (hn : b.group? id = none) : b.dropGroup id = b := by
  rw [dropGroup, List.filter_eq_self.mpr fun g hg => by simpa using List.find?_eq_none.mp hn g hg]

theorem kept_setGroup (hb : b.Ending fun _ => True) (hg : g ∈ b.groups)
    (hc : g.calledOff = false) (hid : g'.id = g.id) (hc' : g'.calledOff = false) :
    (b.setGroup g').kept = b.kept.setGroup g' := by
  have hgroups : (b.groups.map fun h => if h.id = g'.id then g' else h).filter
      (fun h => !h.calledOff) =
        (b.groups.filter fun h => !h.calledOff).map fun h => if h.id = g'.id then g' else h := by
    rw [List.filter_map]
    congr 1
    refine List.filter_congr fun h hh => ?_
    by_cases he : h.id = g'.id
    · obtain rfl := hb.eq_of_id hh hg (he.trans hid)
      simp [he, hc, hc']
    · simp [he]
  rw [kept, only, setGroup, hgroups]
  rfl

/-- One that is called off is as good as gone. -/
theorem kept_setGroup_calledOff (b : Board) (hc : g.calledOff = true) :
    (b.setGroup g).kept = b.kept.dropGroup g.id := by
  have hgroups : (b.groups.map fun h => if h.id = g.id then g else h).filter
      (fun h => !h.calledOff) =
        (b.groups.filter fun h => !h.calledOff).filter fun h => decide (h.id ≠ g.id) := by
    rw [List.filter_map, List.filter_filter]
    have hsame : ∀ h ∈ b.groups.filter ((fun h => !h.calledOff) ∘
        fun h => if h.id = g.id then g else h), (if h.id = g.id then g else h) = h := by
      intro h hh
      have hp := (List.mem_filter.mp hh).2
      by_cases he : h.id = g.id
      · simp [he, hc] at hp
      · exact if_neg he
    rw [List.map_congr_left hsame, List.map_id']
    refine List.filter_congr fun h _ => ?_
    by_cases he : h.id = g.id
    · simp [he, hc]
    · simp [he]
  rw [kept, only, setGroup, hgroups]
  rfl

theorem kept_commitGroup (b : Board) (g : Group) :
    ((b.commitGroup g).1.kept, (b.commitGroup g).2) = b.kept.commitGroup g := by
  unfold commitGroup
  have hs : b.kept.sheets = b.sheets := rfl
  rw [hs]
  split
  · split <;> rfl
  · rfl

/-! Turns and answers. Groups that are called off do not take part in them. -/

/-- What is to come after the one change is to come after the other, too. -/
def Within (change change' : Board × List Signal) : Prop :=
  change'.1.kept = change.1 ∧ (change.2 = change'.2 ∨ change.2 = [])

theorem Within.wakes {change change' : Board × List Signal} (h : Within change change')
    {e : Wake} (he : e ∈ wakes change.2) : e ∈ wakes change'.2 := by
  rcases h.2 with hs | hs
  · rwa [← hs]
  · rw [hs] at he
    cases he

theorem within_groupTurn (hb : b.Ending fun _ => True) (id : Nat) :
    Within (b.kept.groupTurn id) (b.groupTurn id) := by
  cases hg : b.group? id with
  | none =>
    have hk : b.kept.group? id = none := by rw [group?_kept hb, hg]; rfl
    simp [Within, groupTurn, hg, hk]
  | some g =>
    obtain ⟨hm, rfl⟩ := mem_of_group? hg
    cases hc : g.calledOff with
    | true =>
      have hk := group?_kept_of_calledOff hb hg hc
      have hdrop : (b.dropGroup g.id).kept = b.kept := by
        rw [kept_dropGroup, dropGroup_of_none hk]
      cases hs : g.stage <;> simp [Within, groupTurn, hg, hk, hc, hs, hdrop]
    | false =>
      have hk := group?_kept_of_kept hb hg hc
      cases hs : g.stage with
      | fresh => simp [Within, groupTurn, hg, hk, hc, hs, kept_setGroup hb hm hc]
      | waiting => simp [Within, groupTurn, hg, hk, hs]
      | ready =>
        have hcommit := kept_commitGroup b g
        simp [Within, groupTurn, hg, hk, hc, hs, kept_dropGroup, ← hcommit]

theorem within_slotTurn (hb : b.Ending fun _ => True) (id slot : Nat) :
    Within (b.kept.slotTurn id slot) (b.slotTurn id slot) := by
  cases hg : b.group? id with
  | none =>
    have hk : b.kept.group? id = none := by rw [group?_kept hb, hg]; rfl
    simp [Within, slotTurn, hg, hk]
  | some g =>
    obtain ⟨hm, rfl⟩ := mem_of_group? hg
    cases hc : g.calledOff with
    | true => simp [Within, slotTurn, hg, group?_kept_of_calledOff hb hg hc, hc]
    | false =>
      simp only [Within, slotTurn, hg, group?_kept_of_kept hb hg hc, hc]
      split
      · exact ⟨kept_setGroup hb hm hc rfl hc, .inl rfl⟩
      · exact ⟨rfl, .inl rfl⟩

theorem within_answer (hb : b.Ending fun _ => True) (id slot : Nat) {outcome : Outcome}
    (ho : outcome ≠ .stopped) :
    Within (b.kept.answer id slot outcome) (b.answer id slot outcome) := by
  cases hg : b.group? id with
  | none =>
    have hk : b.kept.group? id = none := by rw [group?_kept hb, hg]; rfl
    simp [Within, answer, hg, hk]
  | some g =>
    obtain ⟨hm, rfl⟩ := mem_of_group? hg
    cases hc : g.calledOff with
    | true => simp [Within, answer, hg, group?_kept_of_calledOff hb hg hc, hc]
    | false =>
      have hfill (a : Option Resolution) :
          (b.setGroup (g.filled slot a)).kept = b.kept.setGroup (g.filled slot a) :=
        kept_setGroup hb hm hc rfl hc
      simp only [Within, answer, hg, group?_kept_of_kept hb hg hc, hc, fillSlot_eq]
      split
      · exact ⟨hfill _, .inl rfl⟩
      · exact ⟨hfill _, .inl rfl⟩
      · exact absurd rfl ho
      · exact ⟨rfl, .inl rfl⟩

theorem kept_startPass (b : Board) (buffer : Text) (mentions : List Mention) :
    (b.startPass buffer mentions).2.1.kept = (b.kept.startPass buffer mentions).2.1 ∧
      (b.kept.startPass buffer mentions).2.2 = (b.startPass buffer mentions).2.2 := by
  have hfor : (b.kept.sheetFor buffer).2 = (b.sheetFor buffer).2 ∧
      (b.kept.sheetFor buffer).1.nextSheet = (b.sheetFor buffer).1.nextSheet := by
    unfold sheetFor
    have hs : b.kept.sheets = b.sheets := rfl
    rw [hs]
    split <;> exact ⟨rfl, rfl⟩
  have hopened : b.kept.opened buffer mentions = b.opened buffer mentions := by
    rw [opened, hfor.1]
    rfl
  have hafter : b.kept.sheetAfter buffer mentions = b.sheetAfter buffer mentions := by
    rw [sheetAfter, hfor.1, hopened]
    rfl
  have hnew : (b.opened buffer mentions).filter (fun g => !g.calledOff) =
      b.opened buffer mentions :=
    List.filter_eq_self.mpr fun g hg => by simp [(isNew_of_mem hg).calledOff]
  rw [startPass_eq, startPass_eq, hfor.1, hfor.2, hopened, hafter]
  refine ⟨?_, rfl⟩
  simp only [kept, only, List.filter_append, hnew]

/-! Calling off -/

theorem kept_callOff (hb : b.Ending fun _ => True) (hg : g ∈ b.groups) :
    (b.callOff g).1.kept = b.kept.dropGroup g.id := by
  unfold callOff
  split
  · next hc =>
    have hfound : b.group? g.id = some g :=
      Keyed.find?_of_mem hb.nodup hg (by simp)
    rw [dropGroup_of_none (group?_kept_of_calledOff hb hfound hc)]
  · split <;> exact kept_setGroup_calledOff b rfl

theorem kept_foldl_callOff (gs : List Group) (change : Board × List Signal)
    (hnd : (gs.map (·.id)).Nodup) (hgs : ∀ g ∈ gs, g ∈ change.1.groups)
    (hb : change.1.Ending fun _ => True) :
    (gs.foldl (fun change g =>
      let (b, signals) := change.1.callOff g
      (b, change.2 ++ signals)) change).1.kept =
        change.1.kept.only fun h => decide (h.id ∉ gs.map (·.id)) := by
  induction gs generalizing change with
  | nil => simp [only]
  | cons g gs ih =>
    obtain ⟨hfirst, hnd⟩ := List.nodup_cons.mp hnd
    obtain ⟨hoff, -, -, hrest⟩ := hb.callOff (hgs g List.mem_cons_self)
    have hne : ∀ g' ∈ gs, g'.id ≠ g.id := fun g' hg' he =>
      hfirst (List.mem_map.mpr ⟨g', hg', he⟩)
    rw [List.foldl_cons, ih ((change.1.callOff g).1, change.2 ++ (change.1.callOff g).2) hnd
      (fun g' hg' => hrest g' (hgs g' (List.mem_cons_of_mem _ hg')) (hne g' hg'))
      (hoff.mono fun _ _ => trivial), kept_callOff hb (hgs g List.mem_cons_self),
      dropGroup_eq_only, only_only]
    refine only_congr fun h _ => ?_
    simp only [List.map_cons, List.mem_cons, not_or, Bool.decide_and, ne_eq, decide_not,
      Bool.and_comm]

/-- Those who are withdrawn do not ask. -/
theorem not_ask_callOffSheet (b : Board) (sheet : Nat) :
    ∀ id slot pass r, .ask id slot pass r ∉ (b.callOffSheet sheet).2 := by
  intro id slot pass r
  have hone (b : Board) (g : Group) : .ask id slot pass r ∉ (b.callOff g).2 := by
    unfold callOff
    split
    · exact List.not_mem_nil
    · split <;> simp
  have hnil : .ask id slot pass r ∉ (b, ([] : List Signal)).2 := List.not_mem_nil
  refine List.foldlRecOn (motive := fun change : Board × List Signal =>
    .ask id slot pass r ∉ change.2) _ _ hnil fun change h g _ hm => ?_
  exact (List.mem_append.mp hm).elim h (hone change.1 g)

/-- The groups of a sheet are taken out, and nothing else changes. -/
theorem kept_callOffSheet (hb : b.Ending fun _ => True) (sheet : Nat) :
    (b.callOffSheet sheet).1.kept = b.kept.only fun g => decide (g.sheet ≠ sheet) := by
  have hfold := kept_foldl_callOff (b.groupsOf sheet) (b, [])
    (hb.nodup.sublist (List.filter_sublist.map _)) (fun g hg => List.mem_of_mem_filter hg) hb
  refine Eq.trans hfold (only_congr fun h hh => decide_eq_decide.mpr (not_congr ?_))
  have hm := (mem_kept.mp hh).1
  rw [List.mem_map]
  constructor
  · rintro ⟨g, hg, hid⟩
    obtain ⟨hg, hs⟩ := List.mem_filter.mp hg
    obtain rfl := hb.eq_of_id hg hm hid
    simpa using hs
  · exact fun hs => ⟨h, List.mem_filter.mpr ⟨hm, by simpa using hs⟩, rfl⟩

end CommitMessage.Board
