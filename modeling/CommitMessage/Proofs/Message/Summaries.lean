import CommitMessage.Proofs.Message.Rules
import CommitMessage.Proofs.Message.Trailers

/-! How the first line is cut. The component ends at the first colon. The summary begins at the
first character after it that is no blank, and where there is none the last blank is left as the
summary, so a line can be accepted that says nothing after its colon. -/

namespace CommitMessage.Lint

variable {t line component after text : Text} {lines : List Text} {skipped : Nat} {f : Finding}

/-! The last line of a text -/

theorem ne_of_notMem {c : Char} (h : c ∉ t) : ∀ d ∈ t, (d != c) = true :=
  fun _ hd => bne_iff_ne.mpr fun he => h (he ▸ hd)

theorem notMem_takeWhile_ne (c : Char) (t : Text) : c ∉ t.takeWhile (· != c) := by
  intro hm
  have hne := List.mem_takeWhile_imp hm
  simp at hne

theorem lastLine?_eq_some_iff : lastLine? t = some line ↔
    line ≠ [] ∧ '\n' ∉ line ∧ (t = line ∨ t = line ++ ['\n']) := by
  constructor
  · intro h
    dsimp only [lastLine?] at h
    split at h
    · cases h
    · next hok =>
      obtain ⟨hline, hrest⟩ : t.takeWhile (· != '\n') ≠ [] ∧
          (t.dropWhile (· != '\n')).length ≤ 1 := by simpa using hok
      have hcut := List.takeWhile_append_dropWhile (p := (· != '\n')) (l := t)
      rw [Option.some.inj h] at hline hcut
      refine ⟨hline, Option.some.inj h ▸ notMem_takeWhile_ne '\n' t, ?_⟩
      cases hd : t.dropWhile (· != '\n') with
      | nil =>
        rw [hd, List.append_nil] at hcut
        exact .inl hcut.symm
      | cons d rest =>
        have hfeed : d = '\n' := by
          simpa using Text.not_of_head?_dropWhile (p := (· != '\n')) (t := t) (hd ▸ rfl)
        rw [hd] at hrest hcut
        obtain rfl : rest = [] := List.length_eq_zero_iff.mp (Nat.le_zero.mp
          (Nat.le_of_succ_le_succ hrest))
        exact .inr (hfeed ▸ hcut.symm)
  · rintro ⟨hn, hline, ht⟩
    obtain ⟨rest, rfl, hrest, hlength⟩ : ∃ rest, t = line ++ rest ∧
        (∀ d ∈ rest.head?, (d != '\n') = false) ∧ rest.length ≤ 1 := by
      rcases ht with rfl | rfl
      · exact ⟨[], (List.append_nil _).symm, nofun, Nat.zero_le 1⟩
      · refine ⟨['\n'], rfl, fun d hd => ?_, le_refl 1⟩
        rw [← Option.some.inj hd]
        rfl
    obtain ⟨htake, hdrop⟩ := Text.takeWhile_append_of_head? (ne_of_notMem hline) hrest
    simp [lastLine?, htake, hdrop, hn, hlength]

/-! What follows the colon -/

/-- The summary stands right after the blanks passed over, and reaches to the end of the line. -/
theorem of_summaryText? (h : summaryText? t = some (skipped, text)) : ∃ before feed,
    t = before ++ text ++ feed ∧ before.length = skipped ∧ (∀ c ∈ before, isBlank c = true) ∧
      text ≠ [] ∧ '\n' ∉ text ∧ (feed = [] ∨ feed = ['\n']) := by
  induction t generalizing skipped with
  | nil => cases h
  | cons c t ih =>
    rw [summaryText?] at h
    split at h
    · next n rest hlater =>
      cases h
      split at hlater
      · next hc =>
        obtain ⟨before, feed, rfl, rfl, hb, hrest⟩ := ih hlater
        exact ⟨c :: before, feed, rfl, rfl, List.forall_mem_cons.mpr ⟨hc, hb⟩, hrest⟩
      · cases hlater
    · obtain ⟨line, hlast, he⟩ := Option.map_eq_some_iff.mp h
      cases he
      obtain ⟨hn, hfeed, ht⟩ := lastLine?_eq_some_iff.mp hlast
      rcases ht with ht | ht
      · exact ⟨[], [], by simp [ht], rfl, nofun, hn, hfeed, .inl rfl⟩
      · exact ⟨[], ['\n'], by simp [ht], rfl, nofun, hn, hfeed, .inr rfl⟩

theorem summaryText?_append {before : Text} (hb : ∀ c ∈ before, isBlank c = true)
    (h : summaryText? t = some (skipped, text)) :
    summaryText? (before ++ t) = some (before.length + skipped, text) := by
  induction before with
  | nil => simpa using h
  | cons c before ih =>
    obtain ⟨hc, hb⟩ := List.forall_mem_cons.mp hb
    rw [List.cons_append, summaryText?, if_pos hc, ih hb, List.length_cons, Nat.add_right_comm]

theorem summaryText?_of_not_isBlank {c : Char} (hc : isBlank c = false) (hfeed : '\n' ∉ c :: t) :
    summaryText? (c :: t) = some (0, c :: t) := by
  have hlast : lastLine? (c :: t) = some (c :: t) :=
    lastLine?_eq_some_iff.mpr ⟨List.cons_ne_nil _ _, hfeed, .inl rfl⟩
  simp [summaryText?, hc, hlast]

theorem summaryText?_blank {c : Char} (hc : isBlank c = true) (hfeed : c ≠ '\n') :
    summaryText? [c] = some (0, [c]) := by
  have hlast : lastLine? [c] = some [c] :=
    lastLine?_eq_some_iff.mpr ⟨List.cons_ne_nil _ _, by simpa using hfeed.symm, .inl rfl⟩
  simp [summaryText?, hc, hlast]

/-- What the checks take for the summary: the text from its first character on that is no blank,
or the last blank if there is none. -/
def summaryOf (after : Text) : Text :=
  if after.isAllBlank then after.drop (after.length - 1) else after.trimStart

/-- Only blanks come before the summary, and a summary that begins with a blank is that blank. -/
theorem exists_summaryOf (hn : after ≠ []) : ∃ before c rest, after = before ++ c :: rest ∧
    (∀ d ∈ before, isBlank d = true) ∧ summaryOf after = c :: rest ∧
      (after.isAllBlank = true ∧ isBlank c = true ∧ rest = [] ∨
        after.isAllBlank = false ∧ isBlank c = false ∧ c :: rest = after.trimStart) := by
  by_cases hb : after.isAllBlank = true
  · have hall : ∀ d ∈ after, isBlank d = true := List.all_eq_true.mp hb
    obtain ⟨before, c, rfl⟩ := (List.eq_nil_or_concat after).resolve_left hn
    rw [List.concat_eq_append] at hb hall ⊢
    refine ⟨before, c, [], rfl, fun d hd => hall d (List.mem_append_left _ hd), ?_,
      .inl ⟨hb, hall c (List.mem_append_right _ List.mem_cons_self), rfl⟩⟩
    rw [summaryOf, if_pos hb, List.length_append, List.length_singleton, Nat.add_sub_cancel,
      List.drop_left]
  · have hsplit := List.takeWhile_append_dropWhile (p := isBlank) (l := after)
    cases hd : after.dropWhile isBlank with
    | nil => exact absurd (List.all_eq_true.mpr (List.dropWhile_eq_nil_iff.mp hd)) hb
    | cons c rest =>
      refine ⟨after.takeWhile isBlank, c, rest, by rw [← hd, hsplit],
        fun d => List.mem_takeWhile_imp, ?_, .inr ⟨by simpa using hb, ?_, hd.symm⟩⟩
      · rw [summaryOf, if_neg hb, Text.trimStart, hd]
      · exact Text.not_of_head?_dropWhile (t := after) (by rw [hd]; rfl)

theorem summaryOf_ne_nil (hn : after ≠ []) : summaryOf after ≠ [] := by
  obtain ⟨before, c, rest, -, -, hs, -⟩ := exists_summaryOf hn
  rw [hs]
  exact List.cons_ne_nil _ _

/-- All blanks before a text are passed over, but of blanks alone the last is kept. -/
theorem summaryText?_eq (hn : after ≠ []) (hfeed : '\n' ∉ after) : summaryText? after =
    some (after.length - (summaryOf after).length, summaryOf after) := by
  obtain ⟨before, c, rest, he, hb, hs, hcase⟩ := exists_summaryOf hn
  have hrest : '\n' ∉ c :: rest := fun hm => hfeed (he ▸ List.mem_append_right _ hm)
  have htext : summaryText? (c :: rest) = some (0, c :: rest) := by
    rcases hcase with ⟨-, hc, rfl⟩ | ⟨-, hc, -⟩
    · exact summaryText?_blank hc (by simpa using Ne.symm (List.ne_of_not_mem_cons hrest))
    · exact summaryText?_of_not_isBlank hc hrest
  have hlength : after.length - (c :: rest).length = before.length := by
    rw [he, List.length_append, Nat.add_sub_cancel]
  rw [hs, hlength]
  conv_lhs => rw [he]
  exact summaryText?_append hb htext

/-! The component -/

/-- An ASCII letter, and then ASCII letters and digits, blanks, hyphens and slashes. -/
def IsName (component : Text) : Prop := ∃ c rest, component = c :: rest ∧ c.isAlpha = true ∧
  ∀ d ∈ rest, d.isAlphanum = true ∨ isBlank d = true ∨ d = '-' ∨ d = '/'

theorem isComponent_iff : isComponent component = true ↔ IsName component := by
  cases component with
  | nil => simp [isComponent, IsName]
  | cons c rest => simp [isComponent, IsName, isComponentChar, or_assoc]

theorem IsName.notMem_colon (h : IsName component) : ':' ∉ component := by
  obtain ⟨c, rest, rfl, hc, hrest⟩ := h
  intro hm
  rcases List.mem_cons.mp hm with rfl | hm
  · exact absurd hc (by decide)
  · exact absurd (hrest _ hm) (by decide)

theorem cutAtColon?_eq_some_iff : cutAtColon? line = some (component, after) ↔
    line = component ++ ':' :: after ∧ ':' ∉ component := by
  constructor
  · intro h
    unfold cutAtColon? at h
    split at h
    · next c rest hd =>
      cases h
      obtain rfl : c = ':' := by
        simpa using Text.not_of_head?_dropWhile (p := (· != ':')) (t := line) (hd ▸ rfl)
      rw [← hd, List.takeWhile_append_dropWhile]
      exact ⟨rfl, notMem_takeWhile_ne ':' line⟩
    · cases h
  · rintro ⟨rfl, hcolon⟩
    have hends : ∀ c ∈ (':' :: after : Text).head?, (c != ':') = false := by simp
    obtain ⟨htake, hdrop⟩ := Text.takeWhile_append_of_head? (ne_of_notMem hcolon) hends
    rw [cutAtColon?, hdrop, htake]

/-- A line is accepted if it begins with a component and has anything after the colon. -/
theorem isSummaryLine_iff (hfeed : '\n' ∉ line) : isSummaryLine line = true ↔
    ∃ component after, line = component ++ ':' :: after ∧ IsName component ∧ after ≠ [] := by
  constructor
  · intro h
    unfold isSummaryLine at h
    split at h
    · next component after hcut =>
      obtain ⟨hname, htext⟩ := Bool.and_eq_true_iff.mp h
      refine ⟨component, after, (cutAtColon?_eq_some_iff.mp hcut).1, isComponent_iff.mp hname, ?_⟩
      rintro rfl
      cases htext
    · cases h
  · rintro ⟨component, after, rfl, hname, hn⟩
    have hafter : '\n' ∉ after := fun hm =>
      hfeed (List.mem_append_right _ (List.mem_cons_of_mem _ hm))
    rw [isSummaryLine, cutAtColon?_eq_some_iff.mpr ⟨rfl, hname.notMem_colon⟩]
    simp [isComponent_iff.mpr hname, summaryText?_eq hn hafter]

/-- The parts of a line stand in it where they are said to. -/
theorem of_summaryParts? {column : Nat} (h : summaryParts? line = some (component, column, text)) :
    ∃ before feed, line = component ++ ':' :: (before ++ text ++ feed) ∧
      component.length + 1 + before.length = column ∧ text ≠ [] := by
  obtain ⟨⟨first, after⟩, hcut, h⟩ := Option.bind_eq_some_iff.mp h
  dsimp only at h
  split at h
  · cases h
  · obtain ⟨⟨skipped, summary⟩, htext, h⟩ := Option.bind_eq_some_iff.mp h
    cases h
    obtain ⟨before, feed, rfl, rfl, -, hn, -⟩ := of_summaryText? htext
    exact ⟨before, feed, (cutAtColon?_eq_some_iff.mp hcut).1, rfl, hn⟩

theorem summaryParts?_append (hcolon : ':' ∉ component) (hc : component ≠ []) (hn : after ≠ [])
    (hfeed : '\n' ∉ after) : summaryParts? (component ++ ':' :: after) = some (component,
      (component ++ ':' :: after).length - (summaryOf after).length, summaryOf after) := by
  obtain ⟨before, c, rest, he, -, hs, -⟩ := exists_summaryOf hn
  have hle : (summaryOf after).length ≤ after.length := by
    rw [hs]
    conv_rhs => rw [he]
    rw [List.length_append]
    exact Nat.le_add_left _ _
  have hcolumn : (component ++ ':' :: after).length - (summaryOf after).length =
      component.length + 1 + (after.length - (summaryOf after).length) := by
    rw [List.length_append, List.length_cons]
    omega
  rw [summaryParts?, cutAtColon?_eq_some_iff.mpr ⟨rfl, hcolon⟩, hcolumn]
  simp [hc, summaryText?_eq hn hfeed]

/-! What is found on the first line -/

/-- Problems that are about the component or about the summary. -/
def Problem.isOfParts : Problem → Bool
  | .componentCapitalization | .summaryCapitalization | .summaryPeriod => true
  | _ => false

theorem mem_partFindings_iff {length column : Nat} :
    f ∈ partFindings length component column text ↔
      (component.head?.any isLower = true ∧ f = ⟨0, 0, component.length, .componentCapitalization⟩) ∨
      (text.head?.any isUpper = false ∧ f = ⟨0, column, column + 1, .summaryCapitalization⟩) ∨
      (text.getLast? ≠ some '.' ∧ f = ⟨0, length - 1, length, .summaryPeriod⟩) := by
  simp only [partFindings, List.mem_append, List.mem_ite_nil_left, List.mem_ite_nil_right,
    List.mem_singleton, Bool.not_eq_true, or_assoc, ne_eq]

theorem mem_summaryFindings_iff (hb : line.isAllBlank = false) :
    f ∈ summaryFindings (line :: lines) ↔
      (isSummaryLine line = false ∧ f = .onLine 0 line .summaryFormat) ∨
      (summaryMaxLength < line.length ∧
        f = ⟨0, summaryMinLength, line.length, .summaryLength line.length⟩) ∨
      ∃ component column summary, summaryParts? line = some (component, column, summary) ∧
        f ∈ partFindings line.length component column summary := by
  rw [summaryFindings, if_neg (by simp [hb]), List.mem_append, List.mem_append,
    List.mem_ite_nil_left, List.mem_ite_nil_right, List.mem_singleton, List.mem_singleton, or_assoc,
    Bool.not_eq_true]
  refine or_congr_right (or_congr_right ?_)
  cases hp : summaryParts? line with
  | none => simp
  | some parts =>
    obtain ⟨component, column, summary⟩ := parts
    simp

theorem isOfParts_of_mem_partFindings {length column : Nat}
    (hf : f ∈ partFindings length component column text) : f.problem.isOfParts = true := by
  rcases mem_partFindings_iff.mp hf with ⟨-, rfl⟩ | ⟨-, rfl⟩ | ⟨-, rfl⟩ <;> rfl

theorem found_summaryMissing_eq_nil_iff :
    found .summaryMissing (line :: lines) = [] ↔ line.isAllBlank = false := by
  have hfound {f : Finding} : f ∈ found .summaryMissing (line :: lines) ↔
      f ∈ summaryFindings (line :: lines) ∧ f.problem = .summaryMissing := mem_found_iff rfl
  rw [List.eq_nil_iff_forall_not_mem]
  constructor
  · intro h
    by_contra hb
    refine h (.atLine 0 .summaryMissing) (hfound.mpr ⟨?_, rfl⟩)
    rw [summaryFindings, if_pos (by simpa using hb)]
    exact List.mem_singleton_self _
  · intro hb f hf
    obtain ⟨hf, hp⟩ := hfound.mp hf
    rcases (mem_summaryFindings_iff hb).mp hf with ⟨-, rfl⟩ | ⟨-, rfl⟩ | ⟨_, _, _, -, hf⟩
    · cases hp
    · cases hp
    · have hparts := isOfParts_of_mem_partFindings hf
      rw [hp] at hparts
      cases hparts

theorem found_summaryFormat_eq_nil_iff (hb : line.isAllBlank = false) :
    found .summaryFormat (line :: lines) = [] ↔ isSummaryLine line = true := by
  have hfound {f : Finding} : f ∈ found .summaryFormat (line :: lines) ↔
      f ∈ summaryFindings (line :: lines) ∧ f.problem = .summaryFormat := mem_found_iff rfl
  rw [List.eq_nil_iff_forall_not_mem]
  constructor
  · intro h
    by_contra hline
    refine h (.onLine 0 line .summaryFormat) (hfound.mpr ⟨?_, rfl⟩)
    exact (mem_summaryFindings_iff hb).mpr (.inl ⟨by simpa using hline, rfl⟩)
  · intro hline f hf
    obtain ⟨hf, hp⟩ := hfound.mp hf
    rcases (mem_summaryFindings_iff hb).mp hf with ⟨hnot, -⟩ | ⟨-, rfl⟩ | ⟨_, _, _, -, hf⟩
    · rw [hline] at hnot
      cases hnot
    · cases hp
    · have hparts := isOfParts_of_mem_partFindings hf
      rw [hp] at hparts
      cases hparts

/-- The checks of the parts see just the parts that the line is cut into. -/
theorem filter_isOfParts {column : Nat} (hb : line.isAllBlank = false)
    (hp : summaryParts? line = some (component, column, text)) (hc : column < line.length) :
    (validate (line :: lines)).filter (·.problem.isOfParts) =
      partFindings line.length component column text := by
  have hrule : (Rule.summary.findings (line :: lines)).filter (·.problem.isOfParts) =
      partFindings line.length component column text := by
    have hparts : (partFindings line.length component column text).filter (·.problem.isOfParts) =
        partFindings line.length component column text :=
      List.filter_eq_self.mpr fun f => isOfParts_of_mem_partFindings
    rw [Rule.findings, summaryFindings, if_neg (by simp [hb]), hp, List.filter_append,
      List.filter_append, hparts]
    split <;> split <;> rfl
  rw [← hrule]
  refine filter_validate (fun f hf => ?_) ?_
  · cases hf' : f.problem <;> rw [hf'] at hf <;> first | rfl | cases hf
  · rw [hrule, partFindings]
    split_ifs <;> simp [Finding.precedes_iff] <;> omega

/-- An accepted line is a component, a colon, and something after it, and the parts are checked as
they stand there. What is checked as the summary is the text after the colon without the blanks at
its start, or the last blank if there are only blanks. -/
theorem accepted_summary (hfeed : '\n' ∉ line) (hmissing : found .summaryMissing (line :: lines) = [])
    (hformat : found .summaryFormat (line :: lines) = []) : ∃ component after,
      line = component ++ ':' :: after ∧ ':' ∉ component ∧ IsName component ∧
      (validate (line :: lines)).filter (·.problem.isOfParts) = partFindings line.length component
        (line.length - (summaryOf after).length) (summaryOf after) ∧
      ((∃ c ∈ after, isBlank c = false) ∧ summaryOf after = Text.trimStart after ∧
          (∃ c ∈ summaryOf after, isBlank c = false) ∨
        (∀ c ∈ after, isBlank c = true) ∧
          ∃ c, summaryOf after = [c] ∧ after.getLast? = some c) := by
  have hb := found_summaryMissing_eq_nil_iff.mp hmissing
  obtain ⟨component, after, rfl, hname, hn⟩ :=
    (isSummaryLine_iff hfeed).mp ((found_summaryFormat_eq_nil_iff hb).mp hformat)
  have hafter : '\n' ∉ after := fun hm =>
    hfeed (List.mem_append_right _ (List.mem_cons_of_mem _ hm))
  have hne : component ≠ [] := by
    obtain ⟨c, rest, rfl, -⟩ := hname
    exact List.cons_ne_nil _ _
  refine ⟨component, after, rfl, hname.notMem_colon, hname, ?_, ?_⟩
  · have hpos := List.length_pos_of_ne_nil (summaryOf_ne_nil hn)
    refine filter_isOfParts hb (summaryParts?_append hname.notMem_colon hne hn hafter) ?_
    exact Nat.sub_lt (by simp) hpos
  · obtain ⟨before, c, rest, he, -, hs, ⟨hall, -, rfl⟩ | ⟨-, hc, htrim⟩⟩ := exists_summaryOf hn
    · exact .inr ⟨List.all_eq_true.mp hall, c, hs, by rw [he]; simp⟩
    · refine .inl ⟨⟨c, ?_, hc⟩, hs.trans htrim, c, ?_, hc⟩
      · rw [he]
        exact List.mem_append_right _ List.mem_cons_self
      · rw [hs]
        exact List.mem_cons_self

/-- A summary after two blanks, below the limit and without a period. -/
theorem accepted_summary_twoBlanks :
    let line : Text := "Build/Test:  fix it".toList
    '\n' ∉ line ∧ found .summaryMissing [line] = [] ∧ found .summaryFormat [line] = [] ∧
      (validate [line]).filter (·.problem.isOfParts) =
        partFindings 19 "Build/Test".toList 13 "fix it".toList := by
  intro line
  have hfeed : '\n' ∉ line := by decide
  have hblank : line.isAllBlank = false := by decide
  have hmissing : found .summaryMissing [line] = [] := found_summaryMissing_eq_nil_iff.mpr hblank
  have hformat : found .summaryFormat [line] = [] :=
    (found_summaryFormat_eq_nil_iff hblank).mpr (by decide)
  obtain ⟨component, after, he, hcolon, -, hparts, -⟩ :=
    accepted_summary hfeed hmissing hformat
  have hcut := cutAtColon?_eq_some_iff.mpr ⟨he, hcolon⟩
  cases hcut
  exact ⟨hfeed, hmissing, hformat, hparts⟩

/-- A line with only a blank after its colon is accepted. -/
theorem exists_accepted_blank : ∃ line component after : Text, '\n' ∉ line ∧
    found .summaryMissing [line] = [] ∧ found .summaryFormat [line] = [] ∧
      line = component ++ ':' :: after ∧ ':' ∉ component ∧ ∀ c ∈ after, isBlank c = true := by
  have hblank : Text.isAllBlank "Docs: ".toList = false := by decide
  exact ⟨"Docs: ".toList, "Docs".toList, [' '], by decide,
    found_summaryMissing_eq_nil_iff.mpr hblank,
    (found_summaryFormat_eq_nil_iff hblank).mpr (by decide), rfl, by decide,
    List.forall_mem_singleton.mpr rfl⟩

end CommitMessage.Lint
