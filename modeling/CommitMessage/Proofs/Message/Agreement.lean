import CommitMessage.Proofs.Message.Rules
import CommitMessage.Proofs.Message.Scans

/-! What is found wrong with a trailer and what a trailer refers to. A trailer with a format that is
not accepted refers to nothing of its kind, and an accepted one refers to something, or has each of
its names either found wrong or taken for a profile. -/

namespace CommitMessage

/-! Lists of what the lines of a text give -/

section

variable {α β : Type} {l : List α}

theorem filter_flatMap_zipIdx {f : α × Nat → List β} {line : β → Nat}
    (hf : ∀ entry, ∀ b ∈ f entry, line b = entry.2) {number : Nat} {a : α}
    (ha : l[number]? = some a) :
    (l.zipIdx.flatMap f).filter (fun b => line b == number) = f (a, number) := by
  have hfrom (start : Nat) : ((l.zipIdx start).flatMap f).filter
      (fun b => line b == start + number) = f (a, start + number) := by
    induction l generalizing start number with
    | nil => simp at ha
    | cons x l ih =>
      rw [List.zipIdx_cons, List.flatMap_cons, List.filter_append]
      cases number with
      | zero =>
        obtain rfl : x = a := by simpa using ha
        have hrest : ((l.zipIdx (start + 1)).flatMap f).filter
            (fun b => line b == start + 0) = [] := by
          refine List.filter_eq_nil_iff.mpr fun b hb => ?_
          obtain ⟨entry, he, hb⟩ := List.mem_flatMap.mp hb
          have hle := List.le_snd_of_mem_zipIdx he
          simp only [beq_iff_eq, hf entry b hb]
          omega
        rw [hrest, List.append_nil]
        refine List.filter_eq_self.mpr fun b hb => ?_
        simp [hf _ b hb]
      | succ number =>
        have hfirst : (f (x, start)).filter (fun b => line b == start + (number + 1)) = [] := by
          refine List.filter_eq_nil_iff.mpr fun b hb => ?_
          simp only [beq_iff_eq, hf _ b hb]
          omega
        have hnext := ih (by simpa using ha) (start + 1)
        rw [hfirst, List.nil_append]
        rwa [Nat.add_assoc, Nat.add_comm 1 number] at hnext
  simpa using hfrom 0

end

/-! References -/

namespace Occurrence

def ofKindOn (lines : List Text) (number : Nat) (kind : Reference.Kind) : List Occurrence :=
  (ofLines lines).filter fun o => o.line == number && o.reference.kind == kind

theorem ofKindOn_eq {lines : List Text} {number : Nat} {line : Text}
    (hl : lines[number]? = some line) (kind : Reference.Kind) :
    ofKindOn lines number kind = distinct [] (ofKind kind number line) := by
  have hfound : (lines.zipIdx.flatMap fun entry => ofLine entry.2 entry.1).filter
      (fun o => o.line == number && o.reference.kind == kind) =
        distinct [] (ofKind kind number line) := by
    have hline := filter_flatMap_zipIdx (f := fun entry : Text × Nat => ofLine entry.2 entry.1)
      (fun entry o ho => line_of_mem_ofLine ho) hl
    rw [← filter_ofLine, ← hline, List.filter_filter]
    exact List.filter_congr fun o _ => Bool.and_comm _ _
  have hin := inLine_ofKind kind number line
  rw [ofKindOn, ofLines_eq, filter_mergeSort, hfound]
  · intro o p q
    simp only [precedes_iff]
    omega
  · intro o p
    simp only [Bool.or_eq_true, precedes_iff]
    omega
  · rw [hfound]
    refine List.Pairwise.imp_of_mem ?_ (hin.increasing.sublist (distinct_sublist _ _))
    intro o p ho hp hlt
    have hsub := (distinct_sublist [] (ofKind kind number line)).subset
    rw [precedes_iff, hin.number o (hsub ho), hin.number p (hsub hp)]
    omega

end Occurrence

/-! Findings -/

namespace Lint

def Problem.isOfContent : Problem → Bool
  | .trailerFormat _ | .usernameFormat _ => true
  | _ => false

def Problem.isFormat : Problem → Bool
  | .trailerFormat _ => true
  | _ => false

def Problem.isUsername : Problem → Bool
  | .usernameFormat _ => true
  | _ => false

variable {lines : List Text} {f : Finding}

theorem Problem.rule_of_isOfContent {problem : Problem} (h : problem.isOfContent = true) :
    problem.rule = .trailers := by
  cases problem <;> first | rfl | cases h

/-! Findings on a trailer -/

theorem line_of_mem_trailerFindings {t : TrailerLine} (hf : f ∈ trailerFindings t) :
    f.line = t.number := by
  simp only [trailerFindings, keywordFindings, usernameFindings, List.mem_append,
    List.mem_ite_nil_left, List.mem_ite_nil_right, List.mem_singleton, List.mem_map] at hf
  rcases hf with ((⟨-, rfl⟩ | ⟨-, rfl⟩) | ⟨-, rfl⟩) | ⟨-, token, -, rfl⟩ <;> rfl

def lineFindings (entry : Text × Nat) : List Finding :=
  match Trailer.ofLine? entry.1 with
  | some trailer => trailerFindings ⟨entry.2, entry.1, trailer⟩
  | none => []

theorem flatMap_trailerLines (lines : List Text) :
    (trailerLines lines).flatMap trailerFindings = lines.zipIdx.flatMap lineFindings := by
  rw [trailerLines]
  induction lines.zipIdx with
  | nil => rfl
  | cons entry entries ih =>
    cases ht : Trailer.ofLine? entry.1 with
    | none => simp [lineFindings, ht, ih]
    | some trailer => simp [lineFindings, ht, ih]

def findingsOn (sort : Problem → Bool) (lines : List Text) (number : Nat) : List Finding :=
  (validate lines).filter fun f => f.line == number && sort f.problem

/-- Findings about contents come from the trailer on their line. -/
theorem findingsOn_eq {sort : Problem → Bool} {number : Nat} {line : Text}
    (hsort : ∀ problem, sort problem = true → problem.isOfContent = true)
    (hl : lines[number]? = some line)
    (hp : ((lineFindings (line, number)).filter (sort ·.problem)).Pairwise
      (·.columnStart ≤ ·.columnStart)) :
    findingsOn sort lines number = (lineFindings (line, number)).filter (sort ·.problem) := by
  have hline : ∀ entry, ∀ f ∈ lineFindings entry, f.line = entry.2 := by
    intro entry f hf
    unfold lineFindings at hf
    split at hf
    · exact line_of_mem_trailerFindings hf
    · cases hf
  have hfound : (Rule.trailers.findings lines).filter
      (fun f => f.line == number && sort f.problem) =
        (lineFindings (line, number)).filter (sort ·.problem) := by
    rw [Rule.findings, flatMap_trailerLines, ← filter_flatMap_zipIdx hline hl, List.filter_filter]
    exact List.filter_congr fun f _ => Bool.and_comm _ _
  rw [findingsOn, ← hfound]
  refine filter_validate (fun f hf => ?_) ?_
  · exact Problem.rule_of_isOfContent (hsort f.problem (Bool.and_eq_true_iff.mp hf).2)
  · rw [hfound]
    refine List.Pairwise.imp_of_mem ?_ hp
    intro f g hf hg hle
    rw [Finding.precedes_iff, hline _ f (List.mem_of_mem_filter hf),
      hline _ g (List.mem_of_mem_filter hg)]
    omega

/-! The content of a trailer -/

section

variable {content : Text} {t : TrailerLine}

theorem changeset?_append {digits rest : Text} (hn : digits ≠ [])
    (hd : ∀ c ∈ digits, isDigit c = true) :
    Occurrence.changeset? ('[' :: (digits ++ ']' :: rest)) = some digits := by
  have hclose : isDigit ']' = false := by decide
  have htake : (digits ++ ']' :: rest).takeWhile isDigit = digits := by
    rw [List.takeWhile_append_of_pos hd, List.takeWhile_cons_of_neg (by simp [hclose]),
      List.append_nil]
  have hdrop : (digits ++ ']' :: rest).dropWhile isDigit = ']' :: rest := by
    rw [List.dropWhile_append_of_pos hd, List.dropWhile_cons_of_neg (by simp [hclose])]
  simp [Occurrence.changeset?, htake, hdrop, hn]

theorem cons_of_skip? {c : Char} {t rest : Text} (h : Text.skip? [c] t = some rest) :
    t = c :: rest := by
  cases t with
  | nil => cases h
  | cons d t =>
    by_cases hd : c = d
    · rw [Text.skip?, if_pos hd, Text.skip?] at h
      rw [hd, Option.some.inj h]
    · rw [Text.skip?, if_neg hd] at h
      cases h

/-- What a merge names first is a changeset. -/
theorem scan_ne_nil_of_isMergeContent (h : isMergeContent content = true) :
    Occurrence.scan Occurrence.changeset? 0 content ≠ [] := by
  obtain ⟨after, ha⟩ := Text.trimEnd_isPrefix content
  have hopen : ∃ digits rest, content = '[' :: (digits ++ ']' :: rest) ∧ digits ≠ [] ∧
      ∀ c ∈ digits, isDigit c = true := by
    unfold isMergeContent at h
    cases h₁ : Text.skip? ['['] content.trimEnd with
    | none => simp [h₁] at h
    | some rest₁ =>
      cases h₂ : Text.skipSome? isDigit rest₁ with
      | none => simp [h₁, h₂] at h
      | some rest₂ =>
        cases h₃ : Text.skip? [']'] rest₂ with
        | none => simp [h₁, h₂, h₃] at h
        | some rest₃ =>
          refine ⟨rest₁.takeWhile isDigit, rest₃ ++ after, ?_,
            Text.takeWhile_ne_nil_of_skipSome? h₂, fun c => List.mem_takeWhile_imp⟩
          have hcut := Text.takeWhile_append_of_skipSome? h₂
          rw [cons_of_skip? h₃] at hcut
          have hopen := cons_of_skip? h₁
          rw [← hcut] at hopen
          rw [← ha, hopen]
          simp only [List.cons_append, List.append_assoc]
  obtain ⟨digits, rest, rfl, hn, hd⟩ := hopen
  rw [Ne, Occurrence.scan_eq_nil_iff]
  intro hnone
  have hfirst := hnone 0 (Nat.zero_lt_succ _)
  rw [List.drop_zero, changeset?_append hn hd] at hfirst
  cases hfirst

/-- On a trailer the keyword and the period are no matter of its content. -/
theorem filter_trailerFindings {sort : Problem → Bool}
    (hsort : ∀ problem, sort problem = true → problem.isOfContent = true) (t : TrailerLine) :
    (trailerFindings t).filter (sort ·.problem) =
      (if hasContent t.trailer.kind t.trailer.content then []
        else [.onLine t.number t.line (.trailerFormat t.trailer.kind)].filter (sort ·.problem)) ++
      (if t.trailer.kind.listsUsernames && hasContent t.trailer.kind t.trailer.content then
        (usernameFindings t).filter (sort ·.problem)
      else []) := by
  -- what the rules find before and after the content is of no sort that counts here
  have hnone {l : List Finding} (h : ∀ f ∈ l, f.problem.isOfContent = false) :
      l.filter (sort ·.problem) = [] := by
    refine List.filter_eq_nil_iff.mpr fun f hf hs => ?_
    have hc := hsort f.problem hs
    rw [h f hf] at hc
    cases hc
  simp only [trailerFindings, List.filter_append]
  rw [hnone (l := keywordFindings t), List.nil_append, hnone (l := if _ = some '.' then [] else _),
    List.append_nil]
  · congr 1
    · split <;> rfl
    · split <;> rfl
  · intro f hf
    rw [List.mem_ite_nil_left, List.mem_singleton] at hf
    rw [hf.2]
    rfl
  · intro f hf
    simp only [keywordFindings, List.mem_ite_nil_left, List.mem_singleton] at hf
    rw [hf.2]
    rfl

theorem isOfContent_of_isFormat {problem : Problem} (h : problem.isFormat = true) :
    problem.isOfContent = true := by
  cases problem <;> first | rfl | cases h

theorem isOfContent_of_isUsername {problem : Problem} (h : problem.isUsername = true) :
    problem.isOfContent = true := by
  cases problem <;> first | rfl | cases h

theorem problem_of_mem_usernameFindings {f : Finding} (hf : f ∈ usernameFindings t) :
    ∃ name, f.problem = .usernameFormat name := by
  obtain ⟨token, -, rfl⟩ := List.mem_map.mp hf
  exact ⟨token.text, rfl⟩

theorem filter_isUsername_usernameFindings (t : TrailerLine) :
    (usernameFindings t).filter (·.problem.isUsername) = usernameFindings t := by
  rw [List.filter_eq_self]
  intro f hf
  obtain ⟨name, hn⟩ := problem_of_mem_usernameFindings hf
  rw [hn]
  rfl

end

/-! One line of a message -/

section

variable {number : Nat} {line : Text} {t : Trailer}

theorem lineFindings_of_trailer (ht : Trailer.ofLine? line = some t) :
    lineFindings (line, number) = trailerFindings ⟨number, line, t⟩ := by
  simp only [lineFindings, ht]

theorem findingsOn_isFormat (hl : lines[number]? = some line) (ht : Trailer.ofLine? line = some t) :
    findingsOn Problem.isFormat lines number =
      if hasContent t.kind t.content then []
      else [.onLine number line (.trailerFormat t.kind)] := by
  have hnames : (usernameFindings ⟨number, line, t⟩).filter (·.problem.isFormat) = [] := by
    refine List.filter_eq_nil_iff.mpr fun f hf => ?_
    obtain ⟨name, hn⟩ := problem_of_mem_usernameFindings hf
    rw [hn]
    exact Bool.false_ne_true
  have hfound : (lineFindings (line, number)).filter (·.problem.isFormat) =
      if hasContent t.kind t.content then []
      else [.onLine number line (.trailerFormat t.kind)] := by
    rw [lineFindings_of_trailer ht, filter_trailerFindings fun _ => isOfContent_of_isFormat, hnames,
      ite_self, List.append_nil]
    rfl
  rw [findingsOn_eq (fun _ => isOfContent_of_isFormat) hl, hfound]
  rw [hfound]
  split
  · exact .nil
  · exact List.pairwise_singleton _ _

theorem findingsOn_isUsername (hl : lines[number]? = some line)
    (ht : Trailer.ofLine? line = some t) :
    findingsOn Problem.isUsername lines number =
      if t.kind.listsUsernames && hasContent t.kind t.content then
        usernameFindings ⟨number, line, t⟩
      else [] := by
  have hfound : (lineFindings (line, number)).filter (·.problem.isUsername) =
      if t.kind.listsUsernames && hasContent t.kind t.content then
        usernameFindings ⟨number, line, t⟩
      else [] := by
    rw [lineFindings_of_trailer ht, filter_trailerFindings fun _ => isOfContent_of_isUsername,
      filter_isUsername_usernameFindings]
    split <;> rfl
  rw [findingsOn_eq (fun _ => isOfContent_of_isUsername) hl, hfound]
  rw [hfound]
  split
  · exact List.pairwise_map.mpr (((Trailer.pairwise_usernames t).filter _).imp Nat.le_of_lt)
  · exact .nil

theorem isFormat_iff (hl : lines[number]? = some line) (ht : Trailer.ofLine? line = some t) :
    findingsOn Problem.isFormat lines number ≠ [] ↔ hasContent t.kind t.content = false := by
  rw [findingsOn_isFormat hl ht]
  by_cases hc : hasContent t.kind t.content = true <;> simp [hc]

theorem isFormat_iff_no_ticket (hl : lines[number]? = some line)
    (ht : Trailer.ofLine? line = some t) (hk : t.kind = .fixes ∨ t.kind = .see) :
    findingsOn Problem.isFormat lines number ≠ [] ↔
      Occurrence.ofKindOn lines number .ticket = [] := by
  have hcontent : hasContent t.kind t.content =
      !(Occurrence.scan Occurrence.ticket? 0 t.content).isEmpty := by
    rcases hk with hk | hk <;> rw [hk] <;> rfl
  rw [isFormat_iff hl ht, hcontent, Occurrence.ofKindOn_eq hl, Occurrence.distinct_eq_nil_iff,
    Occurrence.ofKind, Occurrence.tickets_eq_nil_iff ht, Bool.not_eq_false', List.isEmpty_iff]

theorem isFormat_iff_no_changeset (hl : lines[number]? = some line)
    (ht : Trailer.ofLine? line = some t) (hk : t.kind = .followUp) :
    findingsOn Problem.isFormat lines number ≠ [] ↔
      Occurrence.ofKindOn lines number .changeset = [] := by
  rw [isFormat_iff hl ht, hk, hasContent, Occurrence.ofKindOn_eq hl,
    Occurrence.distinct_eq_nil_iff, Occurrence.ofKind, Occurrence.changesets_eq_nil_iff ht,
    Bool.not_eq_false', List.isEmpty_iff]

theorem changeset_of_merges (hl : lines[number]? = some line)
    (ht : Trailer.ofLine? line = some t) (hk : t.kind = .merges)
    (hf : findingsOn Problem.isFormat lines number = []) :
    Occurrence.ofKindOn lines number .changeset ≠ [] := by
  have hc : isMergeContent t.content = true := by
    have hiff := isFormat_iff hl ht
    rw [hk, hf] at hiff
    simpa [hasContent] using hiff
  rw [Ne, Occurrence.ofKindOn_eq hl, Occurrence.distinct_eq_nil_iff, Occurrence.ofKind,
    Occurrence.changesets_eq_nil_iff ht]
  exact scan_ne_nil_of_isMergeContent hc

theorem profiles_eq (ht : Trailer.ofLine? line = some t) (hk : t.kind.listsUsernames = true) :
    Occurrence.profiles number line =
      if hasContent t.kind t.content then
        (t.usernames.filter (·.isValid)).map fun token =>
          ⟨number, token.column, token.columnEnd, ⟨.profile, token.text⟩⟩
      else [] := by
  have hcontent : hasContent t.kind t.content = Trailer.startsUsernameList t.content := by
    cases h : t.kind <;> rw [h] at hk <;> first | rfl | cases hk
  simp only [Occurrence.profiles, ht, hk, Bool.true_and, hcontent]

theorem no_names_of_isFormat (hl : lines[number]? = some line)
    (ht : Trailer.ofLine? line = some t) (hk : t.kind.listsUsernames = true)
    (hf : findingsOn Problem.isFormat lines number ≠ []) :
    Occurrence.ofKindOn lines number .profile = [] ∧
      findingsOn Problem.isUsername lines number = [] := by
  have hc := (isFormat_iff hl ht).mp hf
  rw [Occurrence.ofKindOn_eq hl, Occurrence.distinct_eq_nil_iff, Occurrence.ofKind,
    profiles_eq ht hk, findingsOn_isUsername hl ht, hk, hc]
  exact ⟨rfl, rfl⟩

theorem names_of_accepted (hl : lines[number]? = some line)
    (ht : Trailer.ofLine? line = some t) (hk : t.kind.listsUsernames = true)
    (hf : findingsOn Problem.isFormat lines number = []) :
    findingsOn Problem.isUsername lines number =
      (t.usernames.filter (!·.isValid)).map (fun token =>
        ⟨number, token.column, token.columnEnd, .usernameFormat token.text⟩) ∧
    Occurrence.ofKindOn lines number .profile =
      ((t.usernames.filter (·.isValid)).eraseDupsBy (·.text == ·.text)).map (fun token =>
        ⟨number, token.column, token.columnEnd, ⟨.profile, token.text⟩⟩) := by
  have hc : hasContent t.kind t.content = true := by
    by_contra hc
    exact (isFormat_iff hl ht).mpr (Bool.eq_false_iff.mpr hc) hf
  have hdistinct := Occurrence.distinct_tokens number [] (t.usernames.filter (·.isValid))
  rw [Occurrence.ofKindOn_eq hl, Occurrence.ofKind, profiles_eq ht hk, if_pos hc,
    findingsOn_isUsername hl ht, hk, hc]
  refine ⟨rfl, ?_⟩
  simpa using hdistinct

theorem no_profile_of_not_listsUsernames (hl : lines[number]? = some line)
    (hk : ∀ t, Trailer.ofLine? line = some t → t.kind.listsUsernames = false) :
    Occurrence.ofKindOn lines number .profile = [] := by
  rw [Occurrence.ofKindOn_eq hl, Occurrence.distinct_eq_nil_iff, Occurrence.ofKind,
    Occurrence.profiles]
  split
  · next t ht => rw [hk t ht, Bool.false_and, if_neg Bool.false_ne_true]
  · rfl

end

/-- For every line of a message, what is found wrong with a trailer there and what the message
refers to there fit together, by the kind of the trailer. -/
theorem findings_agree {number : Nat} {line : Text} (hl : lines[number]? = some line) :
    (∀ t, Trailer.ofLine? line = some t →
      match t.kind with
      | .fixes | .see =>
        findingsOn Problem.isFormat lines number ≠ [] ↔
          Occurrence.ofKindOn lines number .ticket = []
      | .followUp =>
        findingsOn Problem.isFormat lines number ≠ [] ↔
          Occurrence.ofKindOn lines number .changeset = []
      | .merges =>
        findingsOn Problem.isFormat lines number = [] →
          Occurrence.ofKindOn lines number .changeset ≠ []
      | .props | .reviewedBy =>
        (findingsOn Problem.isFormat lines number ≠ [] →
          Occurrence.ofKindOn lines number .profile = [] ∧
          findingsOn Problem.isUsername lines number = []) ∧
        (findingsOn Problem.isFormat lines number = [] →
          findingsOn Problem.isUsername lines number =
            (t.usernames.filter (!·.isValid)).map (fun token =>
              ⟨number, token.column, token.columnEnd, .usernameFormat token.text⟩) ∧
          Occurrence.ofKindOn lines number .profile =
            ((t.usernames.filter (·.isValid)).eraseDupsBy (·.text == ·.text)).map (fun token =>
              ⟨number, token.column, token.columnEnd, ⟨.profile, token.text⟩⟩))) ∧
    ((∀ t, Trailer.ofLine? line = some t → t.kind.listsUsernames = false) →
      Occurrence.ofKindOn lines number .profile = []) := by
  refine ⟨fun t ht => ?_, no_profile_of_not_listsUsernames hl⟩
  split
  · next hk => exact isFormat_iff_no_ticket hl ht (.inl hk)
  · next hk => exact isFormat_iff_no_ticket hl ht (.inr hk)
  · next hk => exact isFormat_iff_no_changeset hl ht hk
  · next hk => exact changeset_of_merges hl ht hk
  · next hk =>
    have hlists : t.kind.listsUsernames = true := by rw [hk]; rfl
    exact ⟨no_names_of_isFormat hl ht hlists, names_of_accepted hl ht hlists⟩
  · next hk =>
    have hlists : t.kind.listsUsernames = true := by rw [hk]; rfl
    exact ⟨no_names_of_isFormat hl ht hlists, names_of_accepted hl ht hlists⟩

/-- Names found wrong, one of them empty, between two mentions of one profile. -/
theorem findings_agree_twoMentions :
    let lines := Text.messageLines "Docs: Fix.\n\nProps al:ice, bob, , bob.\nFixes #1.".toList
    (findingsOn Problem.isUsername lines 2 =
        [⟨2, 6, 12, .usernameFormat "al:ice".toList⟩, ⟨2, 19, 19, .usernameFormat []⟩] ∧
      Occurrence.ofKindOn lines 2 .profile = [⟨2, 14, 17, ⟨.profile, "bob".toList⟩⟩]) ∧
    (findingsOn Problem.isFormat lines 3 ≠ [] ↔ Occurrence.ofKindOn lines 3 .ticket = []) := by
  intro lines
  have hprops : lines[2]? = some "Props al:ice, bob, , bob.".toList := by decide
  have hfixes : lines[3]? = some "Fixes #1.".toList := by decide
  have hnames := (findings_agree hprops).1
    ⟨.props, "Props".toList, [' '], "al:ice, bob, , bob.".toList⟩ (by decide)
  have haccepted : findingsOn Problem.isFormat lines 2 = [] := by
    rw [findingsOn_isFormat (t := ⟨.props, "Props".toList, [' '], "al:ice, bob, , bob.".toList⟩)
      hprops (by decide)]
    rfl
  exact ⟨hnames.2 haccepted, (findings_agree hfixes).1
    ⟨.fixes, "Fixes".toList, [' '], "#1.".toList⟩ (by decide)⟩

end Lint

end CommitMessage
