import CommitMessage.Proofs.Message.Forms

/-! The ends of lines make no difference. A message has the same lines whether these end in a line
feed or in a carriage return and a line feed, and the end of its last line can be missing. -/

namespace CommitMessage

namespace Text

variable {t front rest : Text} {c : Char}

theorem notMem_of_mem_pieces {separator : Char} {t piece : Text} (h : piece ∈ t.pieces separator) :
    separator ∉ piece := by
  induction t generalizing piece with
  | nil =>
    obtain rfl : piece = [] := List.mem_singleton.mp h
    exact List.not_mem_nil
  | cons c t ih =>
    obtain ⟨part, parts, ht, hc⟩ := pieces_cons separator c t
    rw [ht] at ih
    rw [hc] at h
    by_cases hs : c = separator
    · rw [if_pos hs] at h
      rcases List.mem_cons.mp h with rfl | h
      · exact List.not_mem_nil
      · exact ih h
    · rw [if_neg hs] at h
      rcases List.mem_cons.mp h with rfl | h
      · rw [List.mem_cons, not_or]
        exact ⟨Ne.symm hs, ih List.mem_cons_self⟩
      · exact ih (List.mem_cons_of_mem _ h)

theorem notMem_of_mem_messageLines {t line : Text} (h : line ∈ t.messageLines) : '\n' ∉ line := by
  unfold messageLines at h
  split at h
  · cases h
  · exact notMem_of_mem_pieces h

/-! Carriage returns before line feeds -/

/-- The parts of a text can be taken by themselves, unless the cut comes right between a carriage
return and a line feed. -/
theorem plainBreaks_append (h : front.getLast? = some '\r' → rest.head? ≠ some '\n') :
    plainBreaks (front ++ rest) = plainBreaks front ++ plainBreaks rest := by
  induction front using plainBreaks.induct with
  | case1 front ih =>
    have hfront : front.getLast? = some '\r' → rest.head? ≠ some '\n' := fun hl =>
      h (by simp [List.getLast?_cons, hl])
    rw [List.cons_append, List.cons_append, plainBreaks, plainBreaks, ih hfront, List.cons_append]
  | case2 c front hn ih =>
    have hfront : front.getLast? = some '\r' → rest.head? ≠ some '\n' := fun hl =>
      h (by simp [List.getLast?_cons, hl])
    rw [List.cons_append, plainBreaks, plainBreaks, ih hfront, List.cons_append]
    · exact hn
    · intro later hc he
      cases front with
      | nil => exact h (by rw [hc]; rfl) (by rw [← List.nil_append rest, he]; rfl)
      | cons d front => exact hn front hc (by rw [(List.cons.inj he).1])
  | case3 => rfl

theorem plainBreaks_of_notMem (h : '\r' ∉ t) : plainBreaks t = t := by
  induction t with
  | nil => rfl
  | cons c t ih =>
    obtain ⟨hc, ht⟩ := not_or.mp (mt List.mem_cons.mpr h)
    rw [plainBreaks, ih ht]
    exact fun _ hcr _ => hc hcr.symm

theorem plainBreaks_of_lineFeed_notMem (h : '\n' ∉ t) : plainBreaks t = t := by
  induction t with
  | nil => rfl
  | cons c t ih =>
    obtain ⟨-, ht⟩ := not_or.mp (mt List.mem_cons.mpr h)
    rw [plainBreaks, ih ht]
    rintro later - rfl
    exact ht List.mem_cons_self

/-- The text with a carriage return before every line feed. -/
def withReturns (t : Text) : Text := t.flatMap fun c => if c = '\n' then ['\r', '\n'] else [c]

theorem plainBreaks_withReturns (h : '\r' ∉ t) : plainBreaks t.withReturns = t := by
  induction t with
  | nil => rfl
  | cons c t ih =>
    obtain ⟨hc, ht⟩ := not_or.mp (mt List.mem_cons.mpr h)
    rw [withReturns, List.flatMap_cons, ← withReturns]
    by_cases hfeed : c = '\n'
    · rw [if_pos hfeed, hfeed, List.cons_append, List.singleton_append, plainBreaks, ih ht]
    · rw [if_neg hfeed, List.singleton_append, plainBreaks, ih ht]
      exact fun _ hcr _ => hc hcr.symm

/-! Lines -/

theorem messageLines_of_ne_nil (h : plainBreaks t ≠ []) :
    t.messageLines = pieces '\n' (dropFinal '\n' (plainBreaks t)) := by
  unfold messageLines
  split
  · next he => exact absurd he h
  · rfl

theorem messageLines_withReturns (h : '\r' ∉ t) : t.withReturns.messageLines = t.messageLines := by
  rw [messageLines, plainBreaks_withReturns h, messageLines, plainBreaks_of_notMem h]

/-- The end of the last line can be missing if that line is not empty. -/
theorem messageLines_append_lineFeed (hn : t ≠ []) (hfeed : t.getLast? ≠ some '\n')
    (hreturn : t.getLast? ≠ some '\r') : (t ++ ['\n']).messageLines = t.messageLines := by
  obtain ⟨front, c, rfl⟩ := (List.eq_nil_or_concat t).resolve_left hn
  rw [List.concat_eq_append] at *
  have hc : c ≠ '\n' := by simpa using hfeed
  have hplain : plainBreaks (front ++ [c]) = plainBreaks front ++ [c] := by
    have hone : plainBreaks [c] = [c] :=
      plainBreaks_of_lineFeed_notMem (by simpa using hc.symm)
    rw [plainBreaks_append fun _ => by simpa using hc, hone]
  have hmore : plainBreaks (front ++ [c] ++ ['\n']) = plainBreaks front ++ [c] ++ ['\n'] := by
    rw [plainBreaks_append fun hl => absurd hl hreturn, hplain]
    rfl
  have hfinal : dropFinal '\n' (plainBreaks front ++ [c]) = plainBreaks front ++ [c] := by
    simp [dropFinal, hc]
  rw [messageLines_of_ne_nil (by rw [hmore]; simp), messageLines_of_ne_nil (by rw [hplain]; simp),
    hmore, hplain, dropFinal_append_singleton, hfinal]

theorem joinWith_append_separator {separator : Char} {lines : List Text} (hn : lines ≠ []) :
    joinWith [separator] lines ++ [separator] = lines.flatMap (· ++ [separator]) := by
  induction lines with
  | nil => exact absurd rfl hn
  | cons line lines ih =>
    cases lines with
    | nil => simp [joinWith]
    | cons next lines =>
      have hrest := ih (List.cons_ne_nil _ _)
      rw [List.flatMap_cons, ← hrest, joinWith]
      · exact List.append_assoc _ _ _
      · exact List.cons_ne_nil _ _

theorem plainBreaks_flatMap {lines : List Text}
    (h : ∀ line ∈ lines, '\n' ∉ line ∧ line.getLast? ≠ some '\r') :
    plainBreaks (lines.flatMap (· ++ ['\n'])) = lines.flatMap (· ++ ['\n']) := by
  induction lines with
  | nil => rfl
  | cons line lines ih =>
    obtain ⟨⟨hfeed, hreturn⟩, hrest⟩ := List.forall_mem_cons.mp h
    have hline : plainBreaks (line ++ ['\n']) = line ++ ['\n'] := by
      rw [plainBreaks_append fun hl => absurd hl hreturn, plainBreaks_of_lineFeed_notMem hfeed]
      rfl
    rw [List.flatMap_cons, plainBreaks_append (by simp), hline, ih hrest]

/-- A message that is put together from lines has these lines. -/
theorem messageLines_joinWith {lines : List Text} (hn : lines ≠ [])
    (h : ∀ line ∈ lines, '\n' ∉ line ∧ line.getLast? ≠ some '\r') :
    (joinWith ['\n'] lines ++ ['\n']).messageLines = lines := by
  have hplain : plainBreaks (joinWith ['\n'] lines ++ ['\n']) = joinWith ['\n'] lines ++ ['\n'] := by
    rw [joinWith_append_separator hn, plainBreaks_flatMap h]
  rw [messageLines_of_ne_nil (by simp [hplain]), hplain, dropFinal_append_singleton,
    pieces_joinWith hn fun line hm => (h line hm).1]

/-! Messages -/

/-- How lines end makes no difference to them, the end of the last line can be missing, and lines
that are put together come back. An empty message has no line and with an end of a line it has an
empty one, but nothing else is found in it. -/
theorem messageLines_ends :
    (∀ t : Text, '\r' ∉ t → t.withReturns.messageLines = t.messageLines) ∧
    (∀ t : Text, t.getLast? ≠ some '\n' → t.getLast? ≠ some '\r' →
      Lint.validate (t ++ ['\n']).messageLines = Lint.validate t.messageLines ∧
        Occurrence.ofLines (t ++ ['\n']).messageLines = Occurrence.ofLines t.messageLines) ∧
    ∀ lines : List Text, lines ≠ [] →
      (∀ line ∈ lines, '\n' ∉ line ∧ line.getLast? ≠ some '\r') →
        (joinWith ['\n'] lines ++ ['\n']).messageLines = lines := by
  refine ⟨fun t => messageLines_withReturns, fun t hfeed hreturn => ?_,
    fun lines => messageLines_joinWith⟩
  by_cases hn : t = []
  · subst hn
    have hempty : messageLines ([] ++ ['\n']) = [[]] := rfl
    rw [hempty]
    exact ⟨by decide +kernel, by decide +kernel⟩
  · rw [messageLines_append_lineFeed hn hfeed hreturn]
    exact ⟨rfl, rfl⟩

/-- Three lines without an end, and two lines of which one has a carriage return inside. -/
theorem messageLines_ends_threeLines :
    let text : Text := "Docs: Fix it.\n\nFixes #1.".toList
    let lines : List Text := ["Docs:\rFix.".toList, []]
    text.withReturns.messageLines = text.messageLines ∧
      Lint.validate (text ++ ['\n']).messageLines = Lint.validate text.messageLines ∧
        Occurrence.ofLines (text ++ ['\n']).messageLines = Occurrence.ofLines text.messageLines ∧
          (joinWith ['\n'] lines ++ ['\n']).messageLines = lines := by
  intro text lines
  obtain ⟨hreturns, hend, hlines⟩ := messageLines_ends
  obtain ⟨hfound, hnamed⟩ := hend text (by decide) (by decide)
  exact ⟨hreturns text (by decide), hfound, hnamed,
    hlines lines (List.cons_ne_nil _ _) (by decide)⟩

end Text

end CommitMessage
