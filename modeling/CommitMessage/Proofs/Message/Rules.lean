import CommitMessage.Lint.Validate
import Mathlib

/-! Every problem belongs to one rule, and no other rule finds it. What a message has of a problem
is therefore what that rule finds, in the same order as long as it is in the order of the text. -/

namespace CommitMessage

/-- Sorting leaves alone a part that is in order already. -/
theorem filter_mergeSort {β : Type} {le : β → β → Bool} {p : β → Bool} {l : List β}
    (htrans : ∀ a b c, le a b → le b c → le a c) (htotal : ∀ a b, le a b || le b a)
    (hp : (l.filter p).Pairwise fun a b => le a b = true) :
    (l.mergeSort le).filter p = l.filter p := by
  have hsub := (List.sublist_mergeSort htrans htotal hp List.filter_sublist).filter p
  simp only [List.filter_filter, Bool.and_self] at hsub
  exact (hsub.eq_of_length ((List.mergeSort_perm l le).filter p).length_eq.symm).symm

namespace Lint

inductive Rule where
  | summary
  | sections
  | afterSummary
  | blankRuns
  | beforeSections
  | trailers
  | backticks
  deriving DecidableEq, Repr

/-- The rule that a problem is about. -/
def Problem.rule : Problem → Rule
  | .summaryMissing | .summaryFormat | .summaryLength _ | .componentCapitalization
  | .summaryCapitalization | .summaryPeriod => .summary
  | .sectionOrder | .ticketsCombined => .sections
  | .blankAfterSummary => .afterSummary
  | .consecutiveBlankLines => .blankRuns
  | .blankBeforeSection _ => .beforeSections
  | .trailerCapitalization _ _ | .trailerFormat _ | .trailerPeriod _ | .usernameFormat _ => .trailers
  | .unpairedBackticks => .backticks

namespace Rule

/-- In the order in which they are applied. -/
def all : List Rule :=
  [summary, sections, afterSummary, blankRuns, beforeSections, trailers, backticks]

def findings (lines : List Text) : Rule → List Finding
  | summary => summaryFindings lines
  | sections => sectionFindings (trailerLines lines)
  | afterSummary => Lint.afterSummary lines
  | blankRuns => Lint.blankRuns 0 0 lines
  | beforeSections => Lint.beforeSections 0 lines
  | trailers => (trailerLines lines).flatMap trailerFindings
  | backticks => backtickFindings lines

end Rule

variable {lines : List Text} {f : Finding}

theorem ruleFindings_eq_flatMap (lines : List Text) :
    ruleFindings lines = Rule.all.flatMap (Rule.findings lines) := by
  simp [ruleFindings, Rule.all, Rule.findings, blankLineFindings]

/-! The problems that each rule finds -/

theorem rule_of_mem_summaryFindings (hf : f ∈ summaryFindings lines) :
    f.problem.rule = .summary := by
  cases lines with
  | nil =>
    rw [List.mem_singleton.mp hf]
    rfl
  | cons line lines =>
    by_cases hb : line.isAllBlank = true
    · rw [summaryFindings, if_pos hb] at hf
      rw [List.mem_singleton.mp hf]
      rfl
    · rw [summaryFindings, if_neg hb, List.mem_append, List.mem_append, List.mem_ite_nil_left,
        List.mem_ite_nil_right, List.mem_singleton, List.mem_singleton] at hf
      rcases hf with (⟨-, rfl⟩ | ⟨-, rfl⟩) | hf
      · rfl
      · rfl
      · cases hp : summaryParts? line with
        | none => simp [hp] at hf
        | some parts =>
          rw [hp] at hf
          simp only [partFindings, List.mem_append, List.mem_ite_nil_left, List.mem_ite_nil_right,
            List.mem_singleton] at hf
          rcases hf with (⟨-, rfl⟩ | ⟨-, rfl⟩) | ⟨-, rfl⟩ <;> rfl

theorem rule_of_mem_orderFindings {highest : Nat} {tickets : Bool} {trailers : List TrailerLine}
    (hf : f ∈ orderFindings highest tickets trailers) : f.problem.rule = .sections := by
  induction trailers generalizing highest tickets with
  | nil => cases hf
  | cons t trailers ih =>
    simp only [orderFindings, List.mem_append, List.mem_ite_nil_right, List.mem_singleton] at hf
    rcases hf with (⟨-, rfl⟩ | ⟨-, rfl⟩) | hf
    · rfl
    · rfl
    · exact ih hf

theorem rule_of_mem_afterSummary (hf : f ∈ afterSummary lines) :
    f.problem.rule = .afterSummary := by
  unfold afterSummary at hf
  split at hf
  · rw [List.mem_ite_nil_right, List.mem_singleton] at hf
    rw [hf.2]
    rfl
  · cases hf

theorem rule_of_mem_blankRuns {number run : Nat} (hf : f ∈ blankRuns number run lines) :
    f.problem.rule = .blankRuns := by
  induction lines generalizing number run with
  | nil => cases hf
  | cons line lines ih =>
    rw [blankRuns, List.mem_append, List.mem_ite_nil_right, List.mem_singleton] at hf
    rcases hf with ⟨-, rfl⟩ | hf
    · rfl
    · exact ih hf

theorem rule_of_mem_beforeSections {number : Nat} (hf : f ∈ beforeSections number lines) :
    f.problem.rule = .beforeSections := by
  induction lines generalizing number with
  | nil => cases hf
  | cons line lines ih =>
    cases lines with
    | nil => cases hf
    | cons next lines =>
      rw [beforeSections, List.mem_append] at hf
      rcases hf with hf | hf
      · cases ht : Trailer.ofLine? next with
        | none => simp [ht] at hf
        | some trailer =>
          rw [ht, List.mem_ite_nil_right, List.mem_singleton] at hf
          rw [hf.2]
          rfl
      · exact ih hf

theorem rule_of_mem_trailerFindings {t : TrailerLine} (hf : f ∈ trailerFindings t) :
    f.problem.rule = .trailers := by
  simp only [trailerFindings, keywordFindings, usernameFindings, List.mem_append,
    List.mem_ite_nil_left, List.mem_ite_nil_right, List.mem_singleton, List.mem_map] at hf
  rcases hf with ((⟨-, rfl⟩ | ⟨-, rfl⟩) | ⟨-, rfl⟩) | ⟨-, token, -, rfl⟩ <;> rfl

theorem rule_of_mem_backtickFindings (hf : f ∈ backtickFindings lines) :
    f.problem.rule = .backticks := by
  obtain ⟨⟨line, number⟩, -, he⟩ := List.mem_filterMap.mp hf
  dsimp only at he
  split at he
  · cases he
    rfl
  · cases he

theorem Rule.rule_of_mem_findings {rule : Rule} (hf : f ∈ rule.findings lines) :
    f.problem.rule = rule := by
  cases rule with
  | summary => exact rule_of_mem_summaryFindings hf
  | sections => exact rule_of_mem_orderFindings hf
  | afterSummary => exact rule_of_mem_afterSummary hf
  | blankRuns => exact rule_of_mem_blankRuns hf
  | beforeSections => exact rule_of_mem_beforeSections hf
  | trailers =>
    obtain ⟨t, -, hf⟩ := List.mem_flatMap.mp hf
    exact rule_of_mem_trailerFindings hf
  | backticks => exact rule_of_mem_backtickFindings hf

/-! What a message has of one rule -/

theorem Finding.precedes_iff {g : Finding} : f.precedes g = true ↔
    f.line < g.line ∨ f.line = g.line ∧ f.columnStart ≤ g.columnStart := by
  simp [Finding.precedes]

theorem Finding.precedes_trans {g h : Finding} (hfg : f.precedes g = true)
    (hgh : g.precedes h = true) : f.precedes h = true := by
  rw [Finding.precedes_iff] at *
  omega

theorem Finding.precedes_total (f g : Finding) : (f.precedes g || g.precedes f) = true := by
  simp only [Bool.or_eq_true, Finding.precedes_iff]
  omega

theorem mem_validate_iff : f ∈ validate lines ↔ f ∈ f.problem.rule.findings lines := by
  rw [validate, List.mem_mergeSort, ruleFindings_eq_flatMap, List.mem_flatMap]
  constructor
  · rintro ⟨rule, -, hf⟩
    rwa [rule.rule_of_mem_findings hf]
  · intro hf
    exact ⟨f.problem.rule, by cases f.problem.rule <;> simp [Rule.all], hf⟩

theorem filter_ruleFindings {p : Finding → Bool} {rule : Rule}
    (hp : ∀ f, p f = true → f.problem.rule = rule) :
    (ruleFindings lines).filter p = (rule.findings lines).filter p := by
  have hother {other : Rule} (hne : other ≠ rule) : (other.findings lines).filter p = [] := by
    refine List.filter_eq_nil_iff.mpr fun f hf hpf => hne ?_
    rw [← other.rule_of_mem_findings hf, hp f hpf]
  rw [ruleFindings_eq_flatMap]
  cases rule <;> simp [Rule.all, hother]

/-- Where a message has one problem. -/
def found (problem : Problem) (lines : List Text) : List Finding :=
  (validate lines).filter (·.problem = problem)

/-- What is found of some problems of one rule, if it is in the order of the text already. -/
theorem filter_validate {p : Finding → Bool} {rule : Rule}
    (hp : ∀ f, p f = true → f.problem.rule = rule)
    (hs : ((rule.findings lines).filter p).Pairwise fun f g => f.precedes g = true) :
    (validate lines).filter p = (rule.findings lines).filter p := by
  have hrule : (ruleFindings lines).filter p = (rule.findings lines).filter p :=
    filter_ruleFindings hp
  rw [validate, filter_mergeSort, hrule]
  · exact fun _ _ _ => Finding.precedes_trans
  · exact Finding.precedes_total
  · rwa [hrule]

theorem mem_found_iff {problem : Problem} {rule : Rule} (hr : problem.rule = rule) :
    f ∈ found problem lines ↔ f ∈ rule.findings lines ∧ f.problem = problem := by
  rw [found, List.mem_filter, mem_validate_iff, decide_eq_true_iff]
  exact and_congr_left fun hp => by rw [hp, hr]

/-- A problem is found once on a line, if its rule finds it so. -/
theorem pairwise_found {problem : Problem}
    (hs : (problem.rule.findings lines).Pairwise fun f g =>
      f.line < g.line ∨ f.problem ≠ g.problem) :
    (found problem lines).Pairwise (·.line < ·.line) := by
  have hrule : ((problem.rule.findings lines).filter (·.problem = problem)).Pairwise
      (·.line < ·.line) := by
    refine (hs.filter _).imp_of_mem fun {f g} hf hg hfg => hfg.resolve_right fun hne => hne ?_
    rw [of_decide_eq_true (List.mem_filter.mp hf).2, of_decide_eq_true (List.mem_filter.mp hg).2]
  have hfound : found problem lines = (problem.rule.findings lines).filter (·.problem = problem) :=
    filter_validate (fun f hf => by rw [of_decide_eq_true hf])
      (hrule.imp fun h => Finding.precedes_iff.mpr (.inl h))
  rwa [hfound]

end Lint

end CommitMessage
