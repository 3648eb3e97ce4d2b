import CommitMessage.Proofs.Message.Agreement
import CommitMessage.Proofs.Message.Placement
import CommitMessage.Proofs.Message.Summaries

/-! Every finding points into the message: it is on one of the lines and spans columns of that
line. The findings stand in the order of the text, and those at one place in the order of the
rules. -/

namespace CommitMessage.Lint

variable {lines rest : List Text} {line : Text} {f : Finding}

/-! Spans -/

/-- A problem that is found at the last character of a line. -/
def Problem.isPeriod : Problem → Bool
  | .summaryPeriod | .trailerPeriod _ => true
  | _ => false

/-- The finding spans columns of the line, and the last of them alone if a period is missing. -/
structure Finding.Spans (f : Finding) (line : Text) : Prop where
  start_le : f.columnStart ≤ f.columnEnd
  end_le : f.columnEnd ≤ line.length
  last : f.problem.isPeriod = true →
    f.columnStart + 1 = line.length ∧ f.columnEnd = line.length

def Finding.PointsInto (f : Finding) (lines : List Text) : Prop :=
  ∃ line, lines[f.line]? = some line ∧ f.Spans line

theorem spans_columns {number start stop : Nat} {problem : Problem}
    (hp : problem.isPeriod = false) (hs : start ≤ stop) (hl : stop ≤ line.length) :
    (⟨number, start, stop, problem⟩ : Finding).Spans line :=
  ⟨hs, hl, fun h => absurd (hp.symm.trans h) Bool.false_ne_true⟩

theorem spans_onLine {number : Nat} {problem : Problem} (hp : problem.isPeriod = false) :
    (Finding.onLine number line problem).Spans line :=
  spans_columns hp (Nat.zero_le _) (le_refl _)

theorem spans_atLine {number : Nat} {problem : Problem} (hp : problem.isPeriod = false) :
    (Finding.atLine number problem).Spans line :=
  spans_columns hp (le_refl _) (Nat.zero_le _)

/-- The last character of a line, which has to have one. -/
theorem spans_last {number : Nat} {problem : Problem} (hn : line ≠ []) :
    (⟨number, line.length - 1, line.length, problem⟩ : Finding).Spans line := by
  have hpos := List.length_pos_of_ne_nil hn
  exact ⟨Nat.sub_le _ _, le_refl _, fun _ => ⟨Nat.sub_add_cancel hpos, rfl⟩⟩

/-! One rule at a time -/

theorem ne_nil_of_isAllBlank (hb : line.isAllBlank = false) : line ≠ [] := by
  rintro rfl
  cases hb

theorem spans_partFindings {component summary : Text} {column : Nat}
    (hb : line.isAllBlank = false) (hp : summaryParts? line = some (component, column, summary))
    (hf : f ∈ partFindings line.length component column summary) : f.line = 0 ∧ f.Spans line := by
  obtain ⟨before, feed, he, hc, hn⟩ := of_summaryParts? hp
  have hpos := List.length_pos_of_ne_nil hn
  have hlength : line.length =
      component.length + 1 + before.length + summary.length + feed.length := by
    rw [he]
    simp only [List.length_append, List.length_cons]
    omega
  rcases mem_partFindings_iff.mp hf with ⟨-, rfl⟩ | ⟨-, rfl⟩ | ⟨-, rfl⟩
  · exact ⟨rfl, spans_columns rfl (Nat.zero_le _) (by omega)⟩
  · exact ⟨rfl, spans_columns rfl (Nat.le_succ _) (by omega)⟩
  · exact ⟨rfl, spans_last (ne_nil_of_isAllBlank hb)⟩

theorem pointsInto_summary (hf : f ∈ summaryFindings (line :: rest)) :
    f.PointsInto (line :: rest) := by
  by_cases hb : line.isAllBlank = true
  · rw [summaryFindings, if_pos hb, List.mem_singleton] at hf
    exact ⟨line, by rw [hf]; rfl, hf ▸ spans_atLine rfl⟩
  · have hb : line.isAllBlank = false := by simpa using hb
    have hfirst : f.line = 0 ∧ f.Spans line := by
      rcases (mem_summaryFindings_iff hb).mp hf with ⟨-, rfl⟩ | ⟨hlength, rfl⟩ | ⟨_, _, _, hp, hf⟩
      · exact ⟨rfl, spans_onLine rfl⟩
      · have hlimits : summaryMinLength ≤ summaryMaxLength := by decide
        exact ⟨rfl, spans_columns rfl (hlimits.trans hlength.le) (le_refl _)⟩
      · exact spans_partFindings hb hp hf
    exact ⟨line, by rw [hfirst.1]; rfl, hfirst.2⟩

theorem pointsInto_sections (hf : f ∈ sectionFindings (trailerLines lines)) :
    f.PointsInto lines := by
  obtain ⟨t, ht, ⟨-, rfl⟩ | ⟨-, rfl⟩⟩ := mem_sections_iff.mp hf
  · exact ⟨t.line, (mem_trailerLines.mp ht).1, spans_onLine rfl⟩
  · exact ⟨t.line, (mem_trailerLines.mp ht).1, spans_onLine rfl⟩

theorem pointsInto_afterSummary (hf : f ∈ afterSummary lines) : f.PointsInto lines := by
  obtain ⟨⟨second, hl, -⟩, -, rfl⟩ := mem_afterSummary_iff.mp hf
  exact ⟨second, hl, spans_atLine rfl⟩

theorem pointsInto_blankRuns (hf : f ∈ blankRuns 0 0 lines) : f.PointsInto lines := by
  obtain ⟨n, -, hb, rfl⟩ :=
    (mem_blankRuns_iff (blankFrom_zero lines) rfl fun i => by rw [Nat.zero_add]).mp hf
  obtain ⟨line, hl, -⟩ := hb.blank (n + 1) (Nat.le_succ n) (Nat.lt_succ_self _)
  exact ⟨line, hl, spans_atLine rfl⟩

theorem pointsInto_beforeSections (hf : f ∈ beforeSections 0 lines) : f.PointsInto lines := by
  obtain ⟨i, line, trailer, hl, -, -, rfl⟩ := mem_beforeSections_iff.mp hf
  exact ⟨line, by simpa [Finding.atLine] using hl, spans_atLine rfl⟩

theorem spans_trailerFindings {t : TrailerLine} (ht : Trailer.ofLine? t.line = some t.trailer)
    (hf : f ∈ trailerFindings t) : f.Spans t.line := by
  have hline := Trailer.append_of_ofLine? ht
  simp only [trailerFindings, keywordFindings, usernameFindings, List.mem_append,
    List.mem_ite_nil_left, List.mem_ite_nil_right, List.mem_singleton, List.mem_map] at hf
  rcases hf with ((⟨-, rfl⟩ | ⟨-, rfl⟩) | ⟨-, rfl⟩) | ⟨-, token, hm, rfl⟩
  · refine spans_columns rfl (Nat.zero_le _) ?_
    rw [← hline]
    simp only [List.length_append]
    omega
  · exact spans_onLine rfl
  · refine spans_last fun hn => (Trailer.gap_of_ofLine? ht).1 ?_
    rw [hn] at hline
    simp_all
  · obtain ⟨before, after, he, hc⟩ := Trailer.usernames_at ht (List.mem_of_mem_filter hm)
    refine spans_columns rfl (Nat.le_add_right _ _) ?_
    rw [UsernameToken.columnEnd, he]
    simp only [List.length_append]
    omega

theorem pointsInto_trailers (hf : f ∈ (trailerLines lines).flatMap trailerFindings) :
    f.PointsInto lines := by
  obtain ⟨t, ht, hf⟩ := List.mem_flatMap.mp hf
  obtain ⟨hl, htrailer⟩ := mem_trailerLines.mp ht
  exact ⟨t.line, by rw [line_of_mem_trailerFindings hf, hl], spans_trailerFindings htrailer hf⟩

theorem pointsInto_backticks (hf : f ∈ backtickFindings lines) : f.PointsInto lines := by
  obtain ⟨⟨line, number⟩, hm, he⟩ := List.mem_filterMap.mp hf
  obtain ⟨-, he⟩ := Option.ite_none_right_eq_some.mp he
  cases he
  exact ⟨line, List.mk_mem_zipIdx_iff_getElem?.mp hm, spans_onLine rfl⟩

theorem pointsInto_of_mem_validate (hn : lines ≠ []) (hf : f ∈ validate lines) :
    f.PointsInto lines := by
  have hrule := mem_validate_iff.mp hf
  generalize f.problem.rule = rule at hrule
  cases rule with
  | summary =>
    obtain ⟨line, rest, rfl⟩ := List.exists_cons_of_ne_nil hn
    exact pointsInto_summary hrule
  | sections => exact pointsInto_sections hrule
  | afterSummary => exact pointsInto_afterSummary hrule
  | blankRuns => exact pointsInto_blankRuns hrule
  | beforeSections => exact pointsInto_beforeSections hrule
  | trailers => exact pointsInto_trailers hrule
  | backticks => exact pointsInto_backticks hrule

/-! The order of the findings -/

/-- The place of a rule in the order in which the rules are applied. -/
def Rule.place (rule : Rule) : Nat := Rule.all.idxOf rule

/-- Earlier lines first, earlier columns first within a line, and at one place earlier rules
first. -/
def Finding.InOrder (f g : Finding) : Prop :=
  f.line < g.line ∨ f.line = g.line ∧ (f.columnStart < g.columnStart ∨
    f.columnStart = g.columnStart ∧ f.problem.rule.place ≤ g.problem.rule.place)

/-- Whether a finding begins at a place of the text. -/
def Finding.isAt (line column : Nat) (f : Finding) : Bool :=
  f.line == line && f.columnStart == column

theorem isAt_iff {number column : Nat} :
    f.isAt number column = true ↔ f.line = number ∧ f.columnStart = column := by
  simp [Finding.isAt]

theorem pairwise_ruleFindings (lines : List Text) :
    (ruleFindings lines).Pairwise fun f g => f.problem.rule.place ≤ g.problem.rule.place := by
  rw [ruleFindings_eq_flatMap, List.pairwise_flatMap]
  constructor
  · intro rule _
    refine List.pairwise_of_forall_mem_list fun f hf g hg => ?_
    rw [rule.rule_of_mem_findings hf, rule.rule_of_mem_findings hg]
  · have hplaces : Rule.all.Pairwise fun a b => a.place ≤ b.place := by decide
    refine hplaces.imp fun {a b} hle f hf g hg => ?_
    rwa [a.rule_of_mem_findings hf, b.rule_of_mem_findings hg]

/-- Findings at one place are left in the order in which the rules give them. -/
theorem filter_isAt_validate (lines : List Text) (number column : Nat) :
    (validate lines).filter (·.isAt number column) =
      (ruleFindings lines).filter (·.isAt number column) := by
  refine filter_mergeSort (fun _ _ _ => Finding.precedes_trans) Finding.precedes_total ?_
  refine List.pairwise_of_forall_mem_list fun f hf g hg => ?_
  have hf := isAt_iff.mp (List.mem_filter.mp hf).2
  have hg := isAt_iff.mp (List.mem_filter.mp hg).2
  exact Finding.precedes_iff.mpr (.inr ⟨by omega, by omega⟩)

theorem pairwise_validate (lines : List Text) : (validate lines).Pairwise Finding.InOrder := by
  rw [List.pairwise_iff_forall_sublist]
  intro f g hs
  have hsorted : (validate lines).Pairwise fun f g => f.precedes g = true := by
    refine List.pairwise_mergeSort ?_ Finding.precedes_total _
    exact fun _ _ _ => Finding.precedes_trans
  have hle := Finding.precedes_iff.mp (List.pairwise_iff_forall_sublist.mp hsorted hs)
  by_cases hplace : f.line = g.line ∧ f.columnStart = g.columnStart
  · have hpair := hs.filter (·.isAt g.line g.columnStart)
    rw [filter_isAt_validate] at hpair
    have htwo : [f, g].filter (·.isAt g.line g.columnStart) = [f, g] :=
      List.filter_eq_self.mpr (by simp [isAt_iff, hplace])
    rw [htwo] at hpair
    have hrules : f.problem.rule.place ≤ g.problem.rule.place :=
      List.pairwise_iff_forall_sublist.mp (pairwise_ruleFindings lines)
        (hpair.trans List.filter_sublist)
    exact .inr ⟨hplace.1, .inr ⟨hplace.2, hrules⟩⟩
  · unfold Finding.InOrder
    omega

/-- Every finding on a message with lines spans columns of one of them, a message without lines has
one finding, and the findings stand in the order of the text, with those at one place as the rules
give them, one rule after the other. -/
theorem validate_points_into (lines : List Text) :
    (lines ≠ [] → ∀ f ∈ validate lines, ∃ line, lines[f.line]? = some line ∧ f.Spans line) ∧
    validate [] = [⟨0, 0, 0, .summaryMissing⟩] ∧
    (validate lines).Pairwise Finding.InOrder ∧
    ∀ number column, (validate lines).filter (·.isAt number column) =
      (ruleFindings lines).filter (·.isAt number column) :=
  ⟨fun hn _ => pointsInto_of_mem_validate hn, by decide +kernel, pairwise_validate lines,
    filter_isAt_validate lines⟩

/-- A name that is no username, on the last line of a message. -/
theorem validate_points_into_username :
    let lines : List Text := ["Docs: Fix it.".toList, [], "Props al, b:c .".toList]
    let f : Finding := ⟨2, 10, 13, .usernameFormat "b:c".toList⟩
    lines ≠ [] ∧ f ∈ validate lines ∧ f.Spans "Props al, b:c .".toList := by
  intro lines f
  have hn : lines ≠ [] := List.cons_ne_nil _ _
  have hf : f ∈ validate lines := by
    refine mem_validate_iff.mpr (List.mem_flatMap.mpr
      ⟨⟨2, "Props al, b:c .".toList, ⟨.props, "Props".toList, [' '], "al, b:c .".toList⟩⟩, ?_, ?_⟩)
    · exact mem_trailerLines.mpr ⟨rfl, rfl⟩
    · decide +kernel
  obtain ⟨line, hl, hs⟩ := (validate_points_into lines).1 hn f hf
  cases hl
  exact ⟨hn, hf, hs⟩

end CommitMessage.Lint
