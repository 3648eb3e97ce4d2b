import CommitMessage.Proofs.Message.Rules

/-! Where the lines of a message may stand. One pass over the trailers with the greatest section so
far finds exactly the trailers that stand behind one they should precede. What is found of blank
lines is said by the lines around it: a run of them at its second line, text right after the
summary, and text right before a trailer. -/

namespace CommitMessage.Lint

variable {lines : List Text} {f : Finding}

/-! Trailers and their lines -/

def trailerAt? (lines : List Text) (number : Nat) : Option Trailer :=
  lines[number]?.bind Trailer.ofLine?

theorem mem_trailerLines {t : TrailerLine} : t ∈ trailerLines lines ↔
    lines[t.number]? = some t.line ∧ Trailer.ofLine? t.line = some t.trailer := by
  rw [trailerLines, List.mem_filterMap]
  constructor
  · rintro ⟨⟨line, number⟩, hm, ht⟩
    obtain ⟨trailer, htrailer, rfl⟩ := Option.map_eq_some_iff.mp ht
    exact ⟨List.mk_mem_zipIdx_iff_getElem?.mp hm, htrailer⟩
  · rintro ⟨hl, ht⟩
    exact ⟨(t.line, t.number), List.mk_mem_zipIdx_iff_getElem?.mpr hl, by simp [ht]⟩

theorem trailerAt?_eq_some_iff {number : Nat} {trailer : Trailer} :
    trailerAt? lines number = some trailer ↔
      ∃ t ∈ trailerLines lines, t.number = number ∧ t.trailer = trailer := by
  rw [trailerAt?, Option.bind_eq_some_iff]
  constructor
  · rintro ⟨line, hl, ht⟩
    exact ⟨⟨number, line, trailer⟩, mem_trailerLines.mpr ⟨hl, ht⟩, rfl, rfl⟩
  · rintro ⟨t, hm, rfl, rfl⟩
    exact ⟨t.line, mem_trailerLines.mp hm⟩

/-- Trailers in the order of their lines. -/
def Ascending (trailers : List TrailerLine) : Prop := trailers.Pairwise (·.number < ·.number)

theorem ascending_trailerLines (lines : List Text) : Ascending (trailerLines lines) := by
  have hnumbers : lines.zipIdx.Pairwise fun a b => a.2 < b.2 := by
    rw [← List.pairwise_map (f := Prod.snd) (R := (· < ·)), List.zipIdx_map_snd]
    exact List.pairwise_lt_range'
  refine List.pairwise_filterMap.mpr (hnumbers.imp ?_)
  intro a b hlt t ht u hu
  obtain ⟨_, -, rfl⟩ := Option.map_eq_some_iff.mp ht
  obtain ⟨_, -, rfl⟩ := Option.map_eq_some_iff.mp hu
  exact hlt

/-! One pass over the trailers -/

section

variable {highest : Nat} {tickets : Bool} {trailers : List TrailerLine}

theorem mem_orderFindings_cons {t : TrailerLine} :
    f ∈ orderFindings highest tickets (t :: trailers) ↔
      t.trailer.kind.order < highest ∧ f = .onLine t.number t.line .sectionOrder ∨
      (t.trailer.kind.isTicketReference = true ∧ tickets = true) ∧
        f = .onLine t.number t.line .ticketsCombined ∨
      f ∈ orderFindings (max highest t.trailer.kind.order)
        (tickets || t.trailer.kind.isTicketReference) trailers := by
  simp only [orderFindings, List.mem_append, List.mem_ite_nil_right, List.mem_singleton,
    Bool.and_eq_true, or_assoc]

/-- What the pass finds on a trailer is settled by what it began with and the trailers before. -/
theorem mem_orderFindings_iff (hs : Ascending trailers) :
    f ∈ orderFindings highest tickets trailers ↔ ∃ t ∈ trailers,
      ((t.trailer.kind.order < highest ∨
          ∃ u ∈ trailers, u.number < t.number ∧ t.trailer.kind.order < u.trailer.kind.order) ∧
        f = .onLine t.number t.line .sectionOrder) ∨
      ((t.trailer.kind.isTicketReference = true ∧ (tickets = true ∨
          ∃ u ∈ trailers, u.number < t.number ∧ u.trailer.kind.isTicketReference = true)) ∧
        f = .onLine t.number t.line .ticketsCombined) := by
  induction trailers generalizing highest tickets with
  | nil => simp [orderFindings]
  | cons t trailers ih =>
    obtain ⟨hfirst, hrest⟩ := List.pairwise_cons.mp hs
    -- no trailer stands before the first, and the first stands before all others
    have hnone (p : TrailerLine → Prop) : ¬ ∃ u ∈ t :: trailers, u.number < t.number ∧ p u := by
      rintro ⟨u, hu, hlt, -⟩
      rcases List.mem_cons.mp hu with rfl | hu
      · exact lt_irrefl _ hlt
      · exact lt_asymm hlt (hfirst u hu)
    have hearlier (p : TrailerLine → Prop) {v : TrailerLine} (hv : v ∈ trailers) :
        (∃ u ∈ t :: trailers, u.number < v.number ∧ p u) ↔
          p t ∨ ∃ u ∈ trailers, u.number < v.number ∧ p u := by
      rw [List.exists_mem_cons_iff]
      simp only [hfirst v hv, true_and]
    rw [mem_orderFindings_cons, ih hrest, List.exists_mem_cons_iff, ← or_assoc]
    simp only [hnone, or_false]
    refine or_congr Iff.rfl (exists_congr fun v => and_congr_right fun hv => ?_)
    rw [hearlier _ hv, hearlier _ hv, Bool.or_eq_true, or_assoc, lt_max_iff, or_assoc]

theorem line_of_mem_orderFindings (hf : f ∈ orderFindings highest tickets trailers) :
    ∃ t ∈ trailers, f.line = t.number := by
  induction trailers generalizing highest tickets with
  | nil => cases hf
  | cons t trailers ih =>
    rcases mem_orderFindings_cons.mp hf with ⟨-, rfl⟩ | ⟨-, rfl⟩ | hf
    · exact ⟨t, List.mem_cons_self, rfl⟩
    · exact ⟨t, List.mem_cons_self, rfl⟩
    · obtain ⟨u, hu, he⟩ := ih hf
      exact ⟨u, List.mem_cons_of_mem _ hu, he⟩

/-- The findings go up with the lines, and two on one line are of different problems. -/
theorem pairwise_orderFindings (hs : Ascending trailers) :
    (orderFindings highest tickets trailers).Pairwise fun f g =>
      f.line < g.line ∨ f.problem ≠ g.problem := by
  induction trailers generalizing highest tickets with
  | nil => exact .nil
  | cons t trailers ih =>
    obtain ⟨hfirst, hrest⟩ := List.pairwise_cons.mp hs
    have hone (p : Prop) [Decidable p] (g : Finding) : (if p then [g] else []).Pairwise fun f g =>
        f.line < g.line ∨ f.problem ≠ g.problem := by
      split
      · exact List.pairwise_singleton _ _
      · exact .nil
    refine List.pairwise_append.mpr
      ⟨List.pairwise_append.mpr ⟨hone _ _, hone _ _, ?_⟩, ih hrest, ?_⟩
    · intro f hf g hg
      rw [List.mem_ite_nil_right, List.mem_singleton] at hf hg
      rw [hf.2, hg.2]
      exact .inr (by simp [Finding.onLine])
    · intro f hf g hg
      obtain ⟨u, hu, hg⟩ := line_of_mem_orderFindings hg
      have hline : f.line = t.number := by
        simp only [List.mem_append, List.mem_ite_nil_right, List.mem_singleton] at hf
        rcases hf with ⟨-, rfl⟩ | ⟨-, rfl⟩ <;> rfl
      exact .inl (by rw [hline, hg]; exact hfirst u hu)

theorem Ascending.pairwise_iff {r : TrailerLine → TrailerLine → Prop} (hs : Ascending trailers) :
    trailers.Pairwise r ↔ ∀ u ∈ trailers, ∀ t ∈ trailers, u.number < t.number → r u t := by
  constructor
  · intro hr
    induction trailers with
    | nil =>
      intro u hu
      cases hu
    | cons v trailers ih =>
      obtain ⟨hfirst, hrest⟩ := List.pairwise_cons.mp hs
      obtain ⟨hv, hr⟩ := List.pairwise_cons.mp hr
      intro u hu t ht hlt
      rcases List.mem_cons.mp ht with rfl | htail
      · rcases List.mem_cons.mp hu with rfl | hutail
        · exact absurd hlt (lt_irrefl _)
        · exact absurd hlt (lt_asymm (hfirst u hutail))
      · rcases List.mem_cons.mp hu with rfl | hutail
        · exact hv t htail
        · exact ih hrest hr u hutail t htail hlt
  · intro h
    exact hs.imp_of_mem fun hu ht hlt => h _ hu _ ht hlt

end

/-! What a message has of the two problems -/

/-- The line is a trailer and stands behind one whose section is to come later. -/
def Misplaced (lines : List Text) (number : Nat) : Prop :=
  ∃ trailer, trailerAt? lines number = some trailer ∧
    ∃ before < number, ∃ other, trailerAt? lines before = some other ∧
      trailer.kind.order < other.kind.order

/-- The line is a Fixes or See trailer, and so is an earlier one. -/
def RepeatsTickets (lines : List Text) (number : Nat) : Prop :=
  ∃ trailer, trailerAt? lines number = some trailer ∧ trailer.kind.isTicketReference = true ∧
    ∃ before < number, ∃ other, trailerAt? lines before = some other ∧
      other.kind.isTicketReference = true

theorem exists_before_iff {number : Nat} {p : Trailer → Prop} :
    (∃ before < number, ∃ other, trailerAt? lines before = some other ∧ p other) ↔
      ∃ u ∈ trailerLines lines, u.number < number ∧ p u.trailer := by
  constructor
  · rintro ⟨before, hlt, other, ho, hp⟩
    obtain ⟨u, hu, rfl, rfl⟩ := trailerAt?_eq_some_iff.mp ho
    exact ⟨u, hu, hlt, hp⟩
  · rintro ⟨u, hu, hlt, hp⟩
    exact ⟨u.number, hlt, u.trailer, trailerAt?_eq_some_iff.mpr ⟨u, hu, rfl, rfl⟩, hp⟩

/-- A trailer among the others, and the same trailer by its line. -/
theorem exists_line_iff {p : Nat → Trailer → Prop} {problem : Problem} :
    (∃ t ∈ trailerLines lines, p t.number t.trailer ∧ f = .onLine t.number t.line problem) ↔
      ∃ number line, lines[number]? = some line ∧
        (∃ trailer, trailerAt? lines number = some trailer ∧ p number trailer) ∧
          f = .onLine number line problem := by
  constructor
  · rintro ⟨t, ht, hp, rfl⟩
    exact ⟨t.number, t.line, (mem_trailerLines.mp ht).1,
      ⟨t.trailer, trailerAt?_eq_some_iff.mpr ⟨t, ht, rfl, rfl⟩, hp⟩, rfl⟩
  · rintro ⟨number, line, hl, ⟨trailer, ht, hp⟩, rfl⟩
    obtain ⟨t, hm, rfl, rfl⟩ := trailerAt?_eq_some_iff.mp ht
    obtain rfl : line = t.line := Option.some.inj (hl.symm.trans (mem_trailerLines.mp hm).1)
    exact ⟨t, hm, hp, rfl⟩

theorem mem_sections_iff : f ∈ Rule.sections.findings lines ↔ ∃ t ∈ trailerLines lines,
    ((∃ u ∈ trailerLines lines, u.number < t.number ∧
        t.trailer.kind.order < u.trailer.kind.order) ∧ f = .onLine t.number t.line .sectionOrder) ∨
    ((t.trailer.kind.isTicketReference = true ∧ ∃ u ∈ trailerLines lines, u.number < t.number ∧
        u.trailer.kind.isTicketReference = true) ∧ f = .onLine t.number t.line .ticketsCombined) := by
  rw [Rule.findings, sectionFindings, mem_orderFindings_iff (ascending_trailerLines lines)]
  simp only [Nat.not_lt_zero, false_or, Bool.false_eq_true]

theorem mem_found_sectionOrder_iff : f ∈ found .sectionOrder lines ↔ ∃ number line,
    lines[number]? = some line ∧ Misplaced lines number ∧
      f = .onLine number line .sectionOrder := by
  have hfound : f ∈ found .sectionOrder lines ↔
      f ∈ Rule.sections.findings lines ∧ f.problem = .sectionOrder := mem_found_iff rfl
  simp only [Misplaced, exists_before_iff]
  rw [← exists_line_iff, hfound, mem_sections_iff]
  constructor
  · rintro ⟨⟨t, ht, ⟨hu, rfl⟩ | ⟨-, rfl⟩⟩, hproblem⟩
    · exact ⟨t, ht, hu, rfl⟩
    · cases hproblem
  · rintro ⟨t, ht, hu, rfl⟩
    exact ⟨⟨t, ht, .inl ⟨hu, rfl⟩⟩, rfl⟩

theorem mem_found_ticketsCombined_iff : f ∈ found .ticketsCombined lines ↔ ∃ number line,
    lines[number]? = some line ∧ RepeatsTickets lines number ∧
      f = .onLine number line .ticketsCombined := by
  have hfound : f ∈ found .ticketsCombined lines ↔
      f ∈ Rule.sections.findings lines ∧ f.problem = .ticketsCombined := mem_found_iff rfl
  simp only [RepeatsTickets, exists_before_iff]
  rw [← exists_line_iff (p := fun number trailer => trailer.kind.isTicketReference = true ∧
      ∃ u ∈ trailerLines lines, u.number < number ∧ u.trailer.kind.isTicketReference = true),
    hfound, mem_sections_iff]
  constructor
  · rintro ⟨⟨t, ht, ⟨-, rfl⟩ | ⟨hu, rfl⟩⟩, hproblem⟩
    · cases hproblem
    · exact ⟨t, ht, hu, rfl⟩
  · rintro ⟨t, ht, hu, rfl⟩
    exact ⟨⟨t, ht, .inr ⟨hu, rfl⟩⟩, rfl⟩

/-- Nothing is out of order if every trailer goes with all that stand before it. -/
theorem found_sectionOrder_eq_nil_iff : found .sectionOrder lines = [] ↔
    ((trailerLines lines).map (·.trailer.kind.order)).Pairwise (· ≤ ·) := by
  rw [List.pairwise_map, (ascending_trailerLines lines).pairwise_iff,
    List.eq_nil_iff_forall_not_mem]
  simp only [mem_found_sectionOrder_iff, Misplaced, exists_before_iff]
  constructor
  · intro h u hu t ht hlt
    by_contra hord
    refine h (.onLine t.number t.line .sectionOrder) (exists_line_iff.mp ⟨t, ht, ?_, rfl⟩)
    exact ⟨u, hu, hlt, Nat.lt_of_not_le hord⟩
  · rintro h f hf
    obtain ⟨t, ht, ⟨u, hu, hlt, hord⟩, -⟩ := exists_line_iff.mpr hf
    exact absurd (h u hu t ht hlt) (Nat.not_le.mpr hord)

/-- A trailer behind one whose section is to come later is found, and so is every line of tickets
but the first: each with its whole line and once, and no other line. -/
theorem found_sections (lines : List Text) :
    (∀ f, f ∈ found .sectionOrder lines ↔ ∃ number line, lines[number]? = some line ∧
      Misplaced lines number ∧ f = .onLine number line .sectionOrder) ∧
    (found .sectionOrder lines).Pairwise (·.line < ·.line) ∧
    (found .sectionOrder lines = [] ↔
      ((trailerLines lines).map (·.trailer.kind.order)).Pairwise (· ≤ ·)) ∧
    (∀ f, f ∈ found .ticketsCombined lines ↔ ∃ number line, lines[number]? = some line ∧
      RepeatsTickets lines number ∧ f = .onLine number line .ticketsCombined) ∧
    (found .ticketsCombined lines).Pairwise (·.line < ·.line) :=
  ⟨fun _ => mem_found_sectionOrder_iff,
    pairwise_found (pairwise_orderFindings (ascending_trailerLines lines)),
    found_sectionOrder_eq_nil_iff, fun _ => mem_found_ticketsCombined_iff,
    pairwise_found (pairwise_orderFindings (ascending_trailerLines lines))⟩

/-! Findings in the order of the lines -/

variable {rest : List Text} {number : Nat}

/-- Findings that go up line by line, from a line on. -/
structure Climbs (number : Nat) (findings : List Finding) : Prop where
  le : ∀ f ∈ findings, number ≤ f.line
  lt : findings.Pairwise (·.line < ·.line)

theorem climbs_nil (number : Nat) : Climbs number [] := ⟨List.forall_mem_nil _, .nil⟩

theorem Climbs.lower {findings : List Finding} (h : Climbs (number + 1) findings) :
    Climbs number findings :=
  ⟨fun f hf => Nat.le_of_succ_le (h.le f hf), h.lt⟩

theorem Climbs.cons {findings : List Finding} (h : Climbs (number + 1) findings) (p : Prop)
    [Decidable p] (problem : Problem) :
    Climbs number ((if p then [.atLine number problem] else []) ++ findings) := by
  split
  · refine ⟨?_, List.pairwise_cons.mpr ⟨h.le, h.lt⟩⟩
    exact List.forall_mem_cons.mpr ⟨le_refl number, h.lower.le⟩
  · exact h.lower

/-! Runs of blank lines -/

def IsBlankAt (lines : List Text) (number : Nat) : Prop :=
  ∃ line, lines[number]? = some line ∧ line.isAllBlank = true

/-- Blank lines from one line up to another, with none right before them. -/
structure BlankFrom (lines : List Text) (first stop : Nat) : Prop where
  le : first ≤ stop
  blank : ∀ number, first ≤ number → number < stop → IsBlankAt lines number
  before : ∀ number, number + 1 = first → ¬ IsBlankAt lines number

/-- All the blank lines that stand together in one place. -/
structure IsBlankRun (lines : List Text) (first stop : Nat) : Prop extends
    BlankFrom lines first stop where
  after : ¬ IsBlankAt lines stop

namespace BlankFrom

variable {first stop : Nat}

theorem next (h : BlankFrom lines first stop) (hb : IsBlankAt lines stop) :
    BlankFrom lines first (stop + 1) where
  le := Nat.le_succ_of_le h.le
  blank number hf hs := by
    rcases Nat.lt_succ_iff_lt_or_eq.mp hs with hs | rfl
    · exact h.blank number hf hs
    · exact hb
  before := h.before

theorem start (hb : ¬ IsBlankAt lines stop) : BlankFrom lines (stop + 1) (stop + 1) where
  le := le_refl _
  blank _ hf hs := absurd hs (Nat.not_lt.mpr hf)
  before _ he := Nat.succ.inj he ▸ hb

theorem first_unique {first' : Nat} (h : BlankFrom lines first stop)
    (h' : BlankFrom lines first' stop) : first = first' := by
  have hle {a b : Nat} (ha : BlankFrom lines a stop) (hb : BlankFrom lines b stop) : a ≤ b := by
    by_contra hlt
    obtain ⟨c, rfl⟩ := Nat.exists_eq_succ_of_ne_zero (Nat.ne_zero_of_lt (Nat.not_le.mp hlt))
    have hle := ha.le
    exact ha.before c rfl (hb.blank c (by omega) (by omega))
  exact le_antisymm (hle h h') (hle h' h)

/-- The run goes on to the first line that is not blank. -/
theorem exists_run (h : BlankFrom lines first stop) :
    ∃ last, stop ≤ last ∧ IsBlankRun lines first last := by
  classical
  have hend : ∃ last, stop ≤ last ∧ ¬ IsBlankAt lines last := by
    refine ⟨max stop lines.length, le_max_left _ _, ?_⟩
    rintro ⟨line, hl, -⟩
    rw [List.getElem?_eq_none (le_max_right _ _)] at hl
    cases hl
  obtain ⟨hle, hnot⟩ := Nat.find_spec hend
  refine ⟨Nat.find hend, hle, ⟨⟨le_trans h.le hle, fun number hf hlt => ?_, h.before⟩, hnot⟩⟩
  by_cases hs : number < stop
  · exact h.blank number hf hs
  · have hmin := Nat.find_min hend hlt
    by_contra hb
    exact hmin ⟨Nat.not_lt.mp hs, hb⟩

end BlankFrom

theorem IsBlankRun.stop_unique {first stop stop' : Nat} (h : IsBlankRun lines first stop)
    (h' : IsBlankRun lines first stop') : stop = stop' := by
  have hle {a b : Nat} (ha : IsBlankRun lines first a) (hb : IsBlankRun lines first b) : b ≤ a :=
    Nat.not_lt.mp fun hlt => ha.after (hb.blank a ha.le hlt)
  exact le_antisymm (hle h' h) (hle h h')

/-- The pass with the number of blank lines right before it as its state. -/
theorem mem_blankRuns_iff {first run : Nat} (hs : BlankFrom lines first number)
    (hrun : first + run = number) (hrest : ∀ i, rest[i]? = lines[number + i]?) :
    f ∈ blankRuns number run rest ↔ ∃ n, number ≤ n + 1 ∧ BlankFrom lines n (n + 2) ∧
      f = .atLine (n + 1) .consecutiveBlankLines := by
  induction rest generalizing number first run with
  | nil =>
    refine ⟨fun hf => absurd hf List.not_mem_nil, ?_⟩
    rintro ⟨n, hn, hb, -⟩
    obtain ⟨line, hl, -⟩ := hb.blank (n + 1) (by omega) (by omega)
    have hnone := hrest (n + 1 - number)
    rw [Nat.add_sub_cancel' hn, hl] at hnone
    cases hnone
  | cons line rest ih =>
    have hline : lines[number]? = some line := by simpa using (hrest 0).symm
    have hnext (i : Nat) : rest[i]? = lines[number + 1 + i]? := by
      simpa [Nat.add_assoc, Nat.add_comm 1] using hrest (i + 1)
    rw [blankRuns, List.mem_append, List.mem_ite_nil_right, List.mem_singleton]
    by_cases hb : line.isAllBlank = true
    · have hgo := hs.next ⟨line, hline, hb⟩
      rw [if_pos hb, ih hgo (by omega) hnext]
      constructor
      · rintro (⟨hone, rfl⟩ | ⟨n, hn, hf⟩)
        · obtain rfl : run = 1 := by omega
          subst hrun
          exact ⟨first, le_refl _, hgo, rfl⟩
        · exact ⟨n, by omega, hf⟩
      · rintro ⟨n, hn, hf, rfl⟩
        by_cases he : number = n + 1
        · subst he
          obtain rfl := hgo.first_unique hf
          exact .inl ⟨by omega, rfl⟩
        · exact .inr ⟨n, by omega, hf, rfl⟩
    · have hnot : ¬ IsBlankAt lines number := by
        rintro ⟨line', hl', hb'⟩
        rw [hline] at hl'
        cases hl'
        exact hb hb'
      rw [if_neg hb, ih (.start hnot) (Nat.add_zero _) hnext]
      constructor
      · rintro (⟨hzero, -⟩ | ⟨n, hn, hf⟩)
        · cases hzero
        · exact ⟨n, by omega, hf⟩
      · rintro ⟨n, hn, hf, rfl⟩
        have hne : number ≠ n + 1 := by
          rintro rfl
          exact hnot (hf.blank (n + 1) (by omega) (by omega))
        exact .inr ⟨n, by omega, hf, rfl⟩

theorem climbs_blankRuns (number run : Nat) (lines : List Text) :
    Climbs number (blankRuns number run lines) := by
  induction lines generalizing number run with
  | nil => exact climbs_nil number
  | cons line lines ih => exact (ih _ _).cons _ _

theorem blankFrom_zero (lines : List Text) : BlankFrom lines 0 0 :=
  ⟨le_refl 0, fun _ _ hlt => absurd hlt (Nat.not_lt_zero _),
    fun _ he => absurd he (Nat.succ_ne_zero _)⟩

/-! Text right after the summary -/

/-- The check as it looks up the second line by its number: no findings if there is none. -/
def afterSummary? (lines : List Text) : Option (List Finding) :=
  if lines.tail.any isBody then
    lines[1]?.map fun second => if second.isAllBlank then [] else [.atLine 1 .blankAfterSummary]
  else some []

theorem afterSummary?_eq_some (lines : List Text) :
    afterSummary? lines = some (afterSummary lines) := by
  cases lines with
  | nil => rfl
  | cons summary lines =>
    cases lines with
    | nil => rfl
    | cons second lines =>
      by_cases hbody : (second :: lines).any isBody = true <;>
        by_cases hb : second.isAllBlank = true <;> simp [afterSummary?, afterSummary, hbody, hb]

theorem isBody_iff {line : Text} :
    isBody line = true ↔ line.isAllBlank = false ∧ Trailer.ofLine? line = none := by
  simp [isBody, isTrailer]

theorem any_isBody_iff {summary : Text} : lines.any isBody = true ↔ ∃ number line, 0 < number ∧
    (summary :: lines)[number]? = some line ∧ line.isAllBlank = false ∧
      Trailer.ofLine? line = none := by
  rw [List.any_eq_true]
  constructor
  · rintro ⟨line, hm, hbody⟩
    obtain ⟨i, hi⟩ := List.mem_iff_getElem?.mp hm
    exact ⟨i + 1, line, Nat.succ_pos i, hi, isBody_iff.mp hbody⟩
  · rintro ⟨number, line, hpos, hl, hbody⟩
    obtain ⟨i, rfl⟩ := Nat.exists_eq_succ_of_ne_zero hpos.ne'
    exact ⟨line, List.mem_iff_getElem?.mpr ⟨i, hl⟩, isBody_iff.mpr hbody⟩

theorem mem_afterSummary_iff : f ∈ afterSummary lines ↔
    (∃ second, lines[1]? = some second ∧ second.isAllBlank = false) ∧
      (∃ number line, 0 < number ∧ lines[number]? = some line ∧ line.isAllBlank = false ∧
        Trailer.ofLine? line = none) ∧ f = .atLine 1 .blankAfterSummary := by
  cases lines with
  | nil => simp [afterSummary]
  | cons summary lines =>
    cases lines with
    | nil => simp [afterSummary]
    | cons second lines =>
      rw [← any_isBody_iff, afterSummary, List.mem_ite_nil_right, List.mem_singleton,
        Bool.and_eq_true, Bool.not_eq_true', and_comm (a := _ = true), and_assoc]
      simp

/-! Text right before a trailer -/

theorem mem_beforeSections_iff : f ∈ beforeSections number lines ↔ ∃ i line trailer,
    lines[i]? = some line ∧ isBody line = true ∧ trailerAt? lines (i + 1) = some trailer ∧
      f = .atLine (number + i) (.blankBeforeSection trailer.kind) := by
  induction lines generalizing number with
  | nil => simp [beforeSections]
  | cons line lines ih =>
    cases lines with
    | nil => simp [beforeSections, trailerAt?]
    | cons next lines =>
      rw [beforeSections, List.mem_append, ih]
      constructor
      · rintro (hf | ⟨i, other, trailer, hl, hbody, ht, rfl⟩)
        · cases ht : Trailer.ofLine? next with
          | none => simp [ht] at hf
          | some trailer =>
            rw [ht, List.mem_ite_nil_right, List.mem_singleton] at hf
            exact ⟨0, line, trailer, rfl, hf.1, ht, hf.2⟩
        · exact ⟨i + 1, other, trailer, hl, hbody, ht, by rw [Nat.add_right_comm, Nat.add_assoc]⟩
      · rintro ⟨i, other, trailer, hl, hbody, ht, rfl⟩
        cases i with
        | zero =>
          obtain rfl : line = other := Option.some.inj hl
          have hnext : Trailer.ofLine? next = some trailer := ht
          left
          rw [hnext, List.mem_ite_nil_right]
          exact ⟨hbody, List.mem_singleton_self _⟩
        | succ i =>
          exact .inr ⟨i, other, trailer, hl, hbody, ht, by rw [Nat.add_right_comm, Nat.add_assoc]⟩

theorem climbs_beforeSections (number : Nat) (lines : List Text) :
    Climbs number (beforeSections number lines) := by
  induction lines generalizing number with
  | nil => exact climbs_nil number
  | cons line lines ih =>
    cases lines with
    | nil => exact climbs_nil number
    | cons next lines =>
      rw [beforeSections]
      cases Trailer.ofLine? next with
      | none => exact (ih _).lower
      | some trailer => exact (ih _).cons _ _

/-! What a message has of the three problems -/

theorem climbs_afterSummary (lines : List Text) : Climbs 0 (afterSummary lines) := by
  unfold afterSummary
  split
  · split
    · exact ⟨fun _ _ => Nat.zero_le _, List.pairwise_singleton _ _⟩
    · exact climbs_nil 0
  · exact climbs_nil 0

theorem Climbs.pairwise_found {problem : Problem} (h : Climbs 0 (problem.rule.findings lines)) :
    (found problem lines).Pairwise (·.line < ·.line) :=
  Lint.pairwise_found (h.lt.imp Or.inl)

theorem mem_found_consecutiveBlankLines_iff : f ∈ found .consecutiveBlankLines lines ↔
    ∃ first stop, IsBlankRun lines first stop ∧ first + 2 ≤ stop ∧
      f = .atLine (first + 1) .consecutiveBlankLines := by
  have hfound : f ∈ found .consecutiveBlankLines lines ↔
      f ∈ blankRuns 0 0 lines ∧ f.problem = .consecutiveBlankLines := mem_found_iff rfl
  rw [hfound, mem_blankRuns_iff (blankFrom_zero lines) rfl fun i => by rw [Nat.zero_add]]
  constructor
  · rintro ⟨⟨first, -, hb, rfl⟩, -⟩
    obtain ⟨stop, hle, hr⟩ := hb.exists_run
    exact ⟨first, stop, hr, hle, rfl⟩
  · rintro ⟨first, stop, hr, hle, rfl⟩
    refine ⟨⟨first, Nat.zero_le _, ⟨Nat.le_add_right _ _, fun number hf hlt => ?_, hr.before⟩, rfl⟩,
      rfl⟩
    exact hr.blank number hf (Nat.lt_of_lt_of_le hlt hle)

theorem mem_found_blankAfterSummary_iff : f ∈ found .blankAfterSummary lines ↔
    (∃ second, lines[1]? = some second ∧ second.isAllBlank = false) ∧
      (∃ number line, 0 < number ∧ lines[number]? = some line ∧ line.isAllBlank = false ∧
        Trailer.ofLine? line = none) ∧ f = .atLine 1 .blankAfterSummary := by
  have hfound : f ∈ found .blankAfterSummary lines ↔
      f ∈ afterSummary lines ∧ f.problem = .blankAfterSummary := mem_found_iff rfl
  rw [hfound, mem_afterSummary_iff]
  refine and_iff_left_of_imp ?_
  rintro ⟨-, -, rfl⟩
  rfl

theorem mem_found_blankBeforeSection_iff {kind : Trailer.Kind} :
    f ∈ found (.blankBeforeSection kind) lines ↔ ∃ number line trailer,
      lines[number]? = some line ∧ (line.isAllBlank = false ∧ Trailer.ofLine? line = none) ∧
        trailerAt? lines (number + 1) = some trailer ∧ trailer.kind = kind ∧
          f = .atLine number (.blankBeforeSection kind) := by
  have hfound : f ∈ found (.blankBeforeSection kind) lines ↔
      f ∈ beforeSections 0 lines ∧ f.problem = .blankBeforeSection kind := mem_found_iff rfl
  rw [hfound, mem_beforeSections_iff]
  constructor
  · rintro ⟨⟨number, line, trailer, hl, hbody, ht, rfl⟩, hk⟩
    obtain rfl : trailer.kind = kind := Problem.blankBeforeSection.inj hk
    exact ⟨number, line, trailer, hl, isBody_iff.mp hbody, ht, rfl, by rw [Nat.zero_add]⟩
  · rintro ⟨number, line, trailer, hl, hbody, ht, rfl, rfl⟩
    exact ⟨⟨number, line, trailer, hl, isBody_iff.mpr hbody, ht, by rw [Nat.zero_add]⟩, rfl⟩

/-- Every run of two or more blank lines is found at its second line, the line after the summary
if it is text and there is a body, and every body line right before a trailer: each once, and no
other line. The second line is looked up only if there is one. -/
theorem found_blankLines (lines : List Text) :
    ((∀ f, f ∈ found .consecutiveBlankLines lines ↔
        ∃ first stop, IsBlankRun lines first stop ∧ first + 2 ≤ stop ∧
          f = .atLine (first + 1) .consecutiveBlankLines) ∧
      (∀ first, Set.Subsingleton (IsBlankRun lines first)) ∧
      (found .consecutiveBlankLines lines).Pairwise (·.line < ·.line)) ∧
    ((∀ f, f ∈ found .blankAfterSummary lines ↔
        (∃ second, lines[1]? = some second ∧ second.isAllBlank = false) ∧
          (∃ number line, 0 < number ∧ lines[number]? = some line ∧ line.isAllBlank = false ∧
            Trailer.ofLine? line = none) ∧ f = .atLine 1 .blankAfterSummary) ∧
      (found .blankAfterSummary lines).Pairwise (·.line < ·.line) ∧
      afterSummary? lines = some (afterSummary lines)) ∧
    (∀ kind, (∀ f, f ∈ found (.blankBeforeSection kind) lines ↔ ∃ number line trailer,
        lines[number]? = some line ∧ (line.isAllBlank = false ∧ Trailer.ofLine? line = none) ∧
          trailerAt? lines (number + 1) = some trailer ∧ trailer.kind = kind ∧
            f = .atLine number (.blankBeforeSection kind)) ∧
      (found (.blankBeforeSection kind) lines).Pairwise (·.line < ·.line)) := by
  refine ⟨⟨fun _ => mem_found_consecutiveBlankLines_iff,
      fun _ _ hr _ hr' => IsBlankRun.stop_unique hr hr', ?_⟩,
    ⟨fun _ => mem_found_blankAfterSummary_iff, ?_, afterSummary?_eq_some lines⟩,
    fun kind => ⟨fun _ => mem_found_blankBeforeSection_iff, ?_⟩⟩
  · exact Climbs.pairwise_found (climbs_blankRuns 0 0 lines)
  · exact Climbs.pairwise_found (climbs_afterSummary lines)
  · exact Climbs.pairwise_found (climbs_beforeSections 0 lines)

end CommitMessage.Lint
