import CommitMessage.Proofs.Board.Tracks

/-! What a buffer shows when its groups have ended: the lines of its last pass, each with the
annotations that the answers give. -/

namespace CommitMessage.Board

/-- The annotations of a line of a pass, after the outcomes of its own lookups. -/
def lineAnnotations (answer : Query → Option Resolution) (buffer : Text) (generation : Nat)
    (line : Int) (mentions : List Mention) : List Annotation :=
  (mentions.mapIdx fun i m =>
    Annotation.ofAnswer m (answer ⟨buffer, generation, line, i⟩)).mergeSort precedes

variable {b : Board} {buffer : Text} {generation : Nat} {line : Int} {mentions : List Mention}
  {passOf : Text → Option (Nat × List Mention)} {answered : Query → Option Resolution → Prop}
  {answer answer' : Query → Option Resolution}

theorem Whole.annotations_eq {annotations : List Annotation}
    (ha : ∀ q a, answered q a → answer q = a)
    (hw : Whole answered buffer generation line mentions annotations) :
    annotations = lineAnnotations answer buffer generation line (onLine mentions line) := by
  obtain ⟨answers, hlen, hans, rfl⟩ := hw
  rw [lineAnnotations]
  congr 1
  apply List.ext_getElem?
  intro i
  rw [List.getElem?_zipWith, List.getElem?_mapIdx]
  cases hm : (onLine mentions line)[i]? with
  | none => rfl
  | some m =>
    have hlt : i < answers.length := hlen ▸ (List.getElem?_eq_some_iff.mp hm).1
    have hi : answers[i]? = some answers[i] := List.getElem?_eq_getElem hlt
    rw [hi, Option.map_some, ha _ _ (hans i _ hi)]

theorem Whole.ne_nil {annotations : List Annotation} (hl : onLine mentions line ≠ [])
    (hw : Whole answered buffer generation line mentions annotations) : annotations ≠ [] := by
  obtain ⟨answers, hlen, -, rfl⟩ := hw
  intro he
  have hnone := congrArg List.length he
  rw [List.length_mergeSort, List.length_zipWith, hlen, Nat.min_self, List.length_nil] at hnone
  exact hl (List.length_eq_zero_iff.mp hnone)

theorem lineAnnotations_congr {generation' : Nat}
    (ha : ∀ i < mentions.length,
      answer ⟨buffer, generation, line, i⟩ = answer' ⟨buffer, generation', line, i⟩) :
    lineAnnotations answer buffer generation line mentions =
      lineAnnotations answer' buffer generation' line mentions := by
  rw [lineAnnotations, lineAnnotations]
  congr 1
  refine List.ext_getElem (by simp) fun i hi _ => ?_
  rw [List.length_mapIdx] at hi
  rw [List.getElem_mapIdx, List.getElem_mapIdx, ha i hi]

theorem mem_annotations {s : Sheet} {entry : Int × List Annotation}
    (hs : b.sheets.get? buffer = some s) (hnd : s.committed.keys.Nodup) :
    entry ∈ b.annotations buffer ↔ s.committed.get? entry.1 = some entry.2 ∧ entry.2 ≠ [] := by
  rw [annotations, hs, List.mem_mergeSort, List.mem_filter]
  refine and_congr ⟨fun hm => Register.get?_of_mem hnd hm, fun hg => Register.mem_of_get? hg⟩ ?_
  simp

theorem pairwise_annotations {s : Sheet} (hs : b.sheets.get? buffer = some s)
    (hnd : s.committed.keys.Nodup) : (b.annotations buffer).Pairwise (fun x y => x.1 < y.1) := by
  rw [annotations, hs]
  have hle := @List.pairwise_mergeSort (Int × List Annotation) (fun x y => decide (x.1 ≤ y.1))
    (by simpa using fun _ _ _ => Int.le_trans) (by simpa using Int.le_total)
    (s.committed.filter fun entry => !entry.2.isEmpty)
  have hkeys : ((s.committed.filter fun entry => !entry.2.isEmpty).map (·.1)).Nodup :=
    hnd.sublist (List.filter_sublist.map _)
  have hne : ((s.committed.filter fun entry => !entry.2.isEmpty).mergeSort
      fun x y => x.1 ≤ y.1).Pairwise (fun x y => x.1 ≠ y.1) :=
    List.pairwise_map.mp (((List.mergeSort_perm _ _).map Prod.fst).nodup_iff.mpr hkeys)
  exact (hle.and hne).imp fun hxy => lt_of_le_of_ne (by simpa using hxy.1) hxy.2

theorem Sheet.Shows.not_pending {groups : List Group} {s : Sheet}
    (hs : s.Shows answered groups buffer mentions) (hn : ∀ g ∈ groups, g.buffer ≠ buffer)
    (line : Int) : s.pending.get? line = none := by
  cases hg : s.pending.get? line with
  | none => rfl
  | some id =>
    obtain ⟨g, hm, -, hbuf, -⟩ := hs.pending line id hg
    exact absurd hbuf (hn g hm)

/-- A buffer whose groups have ended shows the lines of its last pass, each of them whole. -/
theorem Tracks.exists_shown (hb : b.Tracks passOf answered)
    (hn : ∀ g ∈ b.groups, g.buffer ≠ buffer) (hp : passOf buffer = some (generation, mentions)) :
    ∃ shown : Int → List Annotation,
      b.annotations buffer = (byLine mentions).map (fun entry => (entry.1, shown entry.1)) ∧
      ∀ line, onLine mentions line ≠ [] →
        Whole answered buffer generation line mentions (shown line) := by
  cases hs : b.sheets.get? buffer with
  | none =>
    rw [hb.unseen buffer hs] at hp
    cases hp
  | some s =>
    obtain ⟨mentions', hp', hsh⟩ := hb.sheet buffer s hs
    rw [hp] at hp'
    cases hp'
    have hline (line : Int) (hl : onLine mentions line ≠ []) :
        s.committed.get? line = some ((s.committed.get? line).getD []) ∧
          Whole answered buffer s.generation line mentions ((s.committed.get? line).getD []) := by
      obtain ⟨annotations, hc, hw⟩ := hsh.shown line (hsh.not_pending hn line) hl
      rw [hc]
      exact ⟨rfl, hw⟩
    refine ⟨fun line => (s.committed.get? line).getD [],
      eq_of_lines_increasing (pairwise_annotations hs hsh.nodup) ?_ fun entry => ?_,
      fun line hl => (hline line hl).2⟩
    · rw [List.pairwise_map]
      exact pairwise_byLine mentions
    · rw [mem_annotations hs hsh.nodup, List.mem_map]
      constructor
      · rintro ⟨hc, hne⟩
        have hl : onLine mentions entry.1 ≠ [] := fun hl => hne (by
          simpa [hc] using hsh.cleared entry.1 hl)
        refine ⟨(entry.1, onLine mentions entry.1), mem_byLine.mpr ⟨rfl, hl⟩, Prod.ext rfl ?_⟩
        simp [hc]
      · rintro ⟨⟨line, ms⟩, hm, rfl⟩
        obtain ⟨rfl, hl⟩ := mem_byLine.mp hm
        exact ⟨(hline line hl).1, (hline line hl).2.ne_nil hl⟩

theorem Tracks.annotations_eq (hb : b.Tracks passOf answered) (hn : b.groups = [])
    (ha : ∀ q a, answered q a → answer q = a) (hp : passOf buffer = some (generation, mentions)) :
    b.annotations buffer = (byLine mentions).map fun entry =>
      (entry.1, lineAnnotations answer buffer generation entry.1 entry.2) := by
  obtain ⟨shown, he, hw⟩ := hb.exists_shown (by simp [hn]) hp
  rw [he]
  refine List.map_congr_left fun entry hm => ?_
  obtain ⟨hline, hl⟩ := mem_byLine.mp (show (entry.1, entry.2) ∈ byLine mentions from hm)
  rw [(hw entry.1 (hline ▸ hl)).annotations_eq ha, hline]

/-! What annotations are for -/

/-- The mentions that annotations belong to. -/
def mentionsOf (annotations : List (Int × List Annotation)) : List Mention :=
  annotations.flatMap fun entry => entry.2.map fun a => ⟨entry.1, a.position, a.reference⟩

theorem map_zipWith_ofAnswer {ms : List Mention} {answers : List (Option Resolution)}
    (hlen : answers.length = ms.length) (hl : ∀ m ∈ ms, m.line = line) :
    (List.zipWith Annotation.ofAnswer ms answers).map
      (fun a => (⟨line, a.position, a.reference⟩ : Mention)) = ms := by
  refine List.ext_getElem (by simp [hlen]) fun i hi hi' => ?_
  have hline := hl ms[i] (List.getElem_mem hi')
  simp only [List.getElem_map, List.getElem_zipWith, Annotation.ofAnswer, ← hline]

/-- The annotations of a line whose mentions are in order already are not reordered. -/
theorem Whole.mentions_eq {annotations : List Annotation} (hm : mentions.Pairwise StandsBefore)
    (hw : Whole answered buffer generation line mentions annotations) :
    annotations.map (fun a => (⟨line, a.position, a.reference⟩ : Mention)) =
      onLine mentions line := by
  obtain ⟨answers, hlen, -, rfl⟩ := hw
  have hline : ∀ m ∈ onLine mentions line, m.line = line := fun m hmem => by
    simpa using (List.mem_filter.mp hmem).2
  have hmap := map_zipWith_ofAnswer hlen hline
  have hsorted : (onLine mentions line).Pairwise StandsBefore := hm.filter _
  rw [← hmap, List.pairwise_map] at hsorted
  rw [List.mergeSort_of_pairwise, hmap]
  refine hsorted.imp fun {a b} hab => precedes_iff.mpr (.inl ?_)
  rcases hab with hlt | ⟨-, hlt⟩
  · exact absurd hlt (lt_irrefl _)
  · exact hlt

/-- A buffer whose groups have ended shows one annotation for each mention of its last pass. -/
theorem Tracks.mentionsOf_annotations (hb : b.Tracks passOf answered)
    (hn : ∀ g ∈ b.groups, g.buffer ≠ buffer) (hp : passOf buffer = some (generation, mentions))
    (hm : mentions.Pairwise StandsBefore) : mentionsOf (b.annotations buffer) = mentions := by
  obtain ⟨shown, he, hw⟩ := hb.exists_shown hn hp
  have hlines : mentionsOf (b.annotations buffer) = (byLine mentions).flatMap (·.2) := by
    rw [he, mentionsOf, List.flatMap_map]
    refine List.flatMap_congr fun entry hmem => ?_
    obtain ⟨hline, hl⟩ := mem_byLine.mp (show (entry.1, entry.2) ∈ byLine mentions from hmem)
    exact ((hw entry.1 (hline ▸ hl)).mentions_eq hm).trans hline.symm
  rw [hlines, flatMap_byLine hm]

end CommitMessage.Board
