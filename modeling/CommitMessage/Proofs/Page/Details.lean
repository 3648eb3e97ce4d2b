import CommitMessage.Proofs.Message.Usernames
import CommitMessage.Proofs.Page.Changesets

/-! The detail of a changeset is one short line: words one space apart, cut at the length of a
detail, and without a second period at its end unless it has been cut. -/

namespace CommitMessage.Text

variable {t front tail : Text} {c : Char}

/-- Words one space apart: no blank but spaces, no two of them side by side, none at the ends. -/
structure IsTidy (t : Text) : Prop extends IsTrimmed t where
  space : ∀ c ∈ t, isBlank c = true → c = ' '
  apart : t.IsChain fun c d => isBlank c = false ∨ isBlank d = false

/-- A beginning of a tidy text with something put after it. -/
theorem IsTidy.append (h : t.IsTidy) (hf : front <+: t) (hn : tail ≠ [])
    (ht : ∀ c ∈ tail, isBlank c = false) : (front ++ tail).IsTidy where
  head c hc := by
    cases front with
    | nil => exact ht c (List.mem_of_mem_head? hc)
    | cons d front =>
      obtain ⟨rest, rfl⟩ := hf
      exact h.head c hc
  last c hc := by
    rw [List.getLast?_append_of_ne_nil _ hn] at hc
    exact ht c (List.mem_of_getLast? hc)
  space c hc hb := by
    rcases List.mem_append.mp hc with hc | hc
    · exact h.space c (hf.subset hc) hb
    · simp [ht c hc] at hb
  apart := by
    obtain ⟨rest, rfl⟩ := hf
    have hfront := (List.isChain_append.mp h.apart).1
    refine List.isChain_append.mpr ⟨hfront, ?_, fun c _ d hd =>
      .inr (ht d (List.mem_of_mem_head? hd))⟩
    exact List.Pairwise.isChain (List.pairwise_of_forall_mem_list fun c hc _ _ => .inl (ht c hc))

end CommitMessage.Text

namespace CommitMessage.Page

variable {t front periods message found body detail : Text}

/-! Blanks -/

theorem space_of_mem_collapseBlanks {c : Char} (hc : c ∈ collapseBlanks t)
    (hb : isBlank c = true) : c = ' ' := by
  induction t using collapseBlanks.induct with
  | case1 d e rest hd he ih =>
    rw [collapseBlanks, if_pos hd, if_pos he] at hc
    exact ih hc
  | case2 d e rest hd he ih =>
    rw [collapseBlanks, if_pos hd, if_neg he] at hc
    exact (List.mem_cons.mp hc).elim id ih
  | case3 d e rest hd ih =>
    rw [collapseBlanks, if_neg hd] at hc
    rcases List.mem_cons.mp hc with rfl | hc
    · exact absurd hb hd
    · exact ih hc
  | case4 d hd =>
    rw [collapseBlanks, if_pos hd] at hc
    exact List.mem_singleton.mp hc
  | case5 d hd =>
    rw [collapseBlanks, if_neg hd, List.mem_singleton] at hc
    exact absurd (hc ▸ hb) hd
  | case6 => cases hc

theorem isChain_collapseBlanks (t : Text) :
    (collapseBlanks t).IsChain fun c d => isBlank c = false ∨ isBlank d = false := by
  induction t using collapseBlanks.induct with
  | case1 c d rest hc hd ih => rwa [collapseBlanks, if_pos hc, if_pos hd]
  | case2 c d rest hc hd ih =>
    have hd' : isBlank d = false := by simpa using hd
    rw [collapseBlanks, if_pos hc, if_neg hd]
    refine List.isChain_cons.mpr ⟨fun e he => .inr ?_, ih⟩
    rw [collapseBlanks_cons hd', List.head?_cons, Option.mem_some_iff] at he
    rwa [← he]
  | case3 c d rest hc ih =>
    rw [collapseBlanks, if_neg hc]
    exact List.isChain_cons.mpr ⟨fun e _ => .inl (by simpa using hc), ih⟩
  | case4 c hc =>
    rw [collapseBlanks, if_pos hc]
    exact List.isChain_singleton _
  | case5 c hc =>
    rw [collapseBlanks, if_neg hc]
    exact List.isChain_singleton _
  | case6 => exact List.isChain_nil

theorem isTidy_trim_collapseBlanks (t : Text) : (collapseBlanks t).trim.IsTidy := by
  obtain ⟨after, he, -⟩ := Text.exists_trim_append (collapseBlanks t)
  have hpart : (collapseBlanks t).trim <:+: collapseBlanks t := ⟨_, after, he.symm⟩
  have hapart := List.IsChain.infix (isChain_collapseBlanks t) hpart
  exact ⟨Text.isTrimmed_trim _, fun c hc => space_of_mem_collapseBlanks (hpart.subset hc), hapart⟩

theorem isTidy_of_cleanText (h : cleanText t = .ok message) : message.IsTidy := by
  rw [cleanText] at h
  cases hd : decode (stripTags t) with
  | error p => simp [hd, bind, Except.bind] at h
  | ok text =>
    simp only [hd, bind, Except.bind, pure, Except.pure, Except.ok.injEq] at h
    exact h ▸ isTidy_trim_collapseBlanks text

/-! Periods -/

theorem not_isBlank_of_mem_periods (hp : ∀ c ∈ periods, c = '.') :
    ∀ c ∈ periods, isBlank c = false := by
  intro c hc
  rw [hp c hc]
  decide

/-- What stands before the periods at the end of a text, and these periods. -/
theorem exists_eq_append_periods (t : Text) : ∃ front periods, t = front ++ periods ∧
    front.getLast? ≠ some '.' ∧ ∀ c ∈ periods, c = '.' := by
  refine ⟨t.rdropWhile (· == '.'), t.rtakeWhile (· == '.'),
    List.rdropWhile_append_rtakeWhile.symm, fun hl => ?_,
    fun c hc => by simpa using List.mem_rtakeWhile_imp hc⟩
  have hne : t.rdropWhile (· == '.') ≠ [] := List.ne_nil_of_mem (List.mem_of_getLast? hl)
  have hlast := List.rdropWhile_last_not (· == '.') t hne
  rw [Option.some.inj ((List.getLast?_eq_some_getLast hne).symm.trans hl)] at hlast
  exact hlast rfl

theorem onePeriod_append (hf : front.getLast? ≠ some '.') (hp : ∀ c ∈ periods, c = '.') :
    onePeriod (front ++ periods) = front ++ periods.take 1 := by
  cases periods with
  | nil => rw [List.append_nil, onePeriod, if_neg hf, List.take_nil, List.append_nil]
  | cons c periods =>
    have hlast : (front ++ c :: periods).getLast? = some '.' := by
      rw [List.getLast?_append_of_ne_nil _ (List.cons_ne_nil _ _),
        List.getLast?_eq_some_getLast (List.cons_ne_nil _ _),
        hp _ (List.getLast_mem (List.cons_ne_nil _ _))]
    have hfront : (front ++ c :: periods).reverse.dropWhile (· == '.') = front.reverse := by
      rw [List.reverse_append, List.dropWhile_append_of_pos fun d hd => by
        simpa using hp d (List.mem_reverse.mp hd)]
      cases hr : front.reverse with
      | nil => rfl
      | cons d rest =>
        rw [← List.head?_reverse, hr, List.head?_cons] at hf
        exact List.dropWhile_cons_of_neg (by simpa using hf)
    rw [onePeriod, if_pos hlast, hfront, List.reverse_reverse, hp c List.mem_cons_self]
    rfl

theorem isTidy_onePeriod (h : t.IsTidy) : (onePeriod t).IsTidy := by
  have hfront : (t.reverse.dropWhile (· == '.')).reverse <+: t :=
    List.rdropWhile_prefix (· == '.') t
  unfold onePeriod
  split
  · exact h.append hfront (List.cons_ne_nil _ _) (not_isBlank_of_mem_periods (by simp))
  · exact h

theorem isTidy_truncate (h : t.IsTidy) : (truncate t).IsTidy := by
  unfold truncate
  split
  · exact h
  · have hfront := List.take_prefix (detailLength - 3) t
    exact h.append hfront (List.cons_ne_nil _ _) (not_isBlank_of_mem_periods (by simp))

/-! Details -/

theorem exists_of_messageDetail? {found : Option Text}
    (h : messageDetail? found = .ok (some detail)) :
    ∃ t message, found = some t ∧ cleanText t = .ok message ∧ message ≠ [] ∧
      detail = truncate (onePeriod message) := by
  cases found with
  | none => cases h
  | some t =>
    rw [messageDetail?] at h
    cases hc : cleanText t with
    | error p => simp [hc, bind, Except.bind] at h
    | ok message =>
      simp only [hc, bind, Except.bind, pure, Except.pure, Except.ok.injEq] at h
      obtain ⟨message', hm, rfl⟩ := Option.map_eq_some_iff.mp h
      rw [some?] at hm
      split at hm
      · cases hm
      · next hne =>
        cases hm
        exact ⟨t, message, rfl, hc, by simpa using hne, rfl⟩

/-- A text that the message of a changeset is taken from: the paragraph of its section, or the
message of the overview if the paragraph shows nothing. -/
def IsMessageOf (body found : Text) : Prop :=
  (messageSection? body >>= paragraph?) = some found ∨
    messageDetail? (messageSection? body >>= paragraph?) = .ok none ∧
      (overviewList? body >>= overviewMessage?) = some found

theorem exists_of_changesetMessage (h : changesetMessage body = .ok (some detail)) :
    ∃ found message, IsMessageOf body found ∧ cleanText found = .ok message ∧ message ≠ [] ∧
      detail = truncate (onePeriod message) := by
  rw [changesetMessage] at h
  generalize hp : messageDetail? (messageSection? body >>= paragraph?) = first at h
  cases first with
  | error p => cases h
  | ok first =>
    cases first with
    | none =>
      obtain ⟨t, message, hf, hrest⟩ := exists_of_messageDetail? h
      exact ⟨t, message, .inr ⟨hp, hf⟩, hrest⟩
    | some text =>
      cases h
      obtain ⟨t, message, hf, hrest⟩ := exists_of_messageDetail? hp
      exact ⟨t, message, .inl hf, hrest⟩

theorem isTidy_of_changesetMessage (h : changesetMessage body = .ok (some detail)) :
    detail.IsTidy := by
  obtain ⟨found, message, -, hc, -, rfl⟩ := exists_of_changesetMessage h
  exact isTidy_truncate (isTidy_onePeriod (isTidy_of_cleanText hc))

/-- The length of what is left of a text, and how it ends. -/
theorem truncate_cases (t : Text) :
    detailLength < t.length ∧ (truncate t).length = detailLength ∧ "...".toList <:+ truncate t ∨
      t.length ≤ detailLength ∧ truncate t = t := by
  rcases Nat.lt_or_ge detailLength t.length with hlong | hshort
  · refine .inl ⟨hlong, ?_⟩
    have hdots : "...".toList.length = 3 := rfl
    rw [truncate, if_neg (Nat.not_le.mpr hlong), List.length_append, List.length_take, hdots]
    refine ⟨?_, List.suffix_append _ _⟩
    simp only [detailLength] at hlong ⊢
    omega
  · exact .inr ⟨hshort, by rw [truncate, if_pos hshort]⟩

theorem not_suffix_periods (hf : front.getLast? ≠ some '.') :
    ¬ "..".toList <:+ front ++ periods.take 1 := by
  rintro ⟨before, he⟩
  cases periods with
  | nil =>
    refine hf ?_
    rw [List.take_nil, List.append_nil] at he
    rw [← he]
    exact List.getLast?_append_of_ne_nil before (List.cons_ne_nil _ _)
  | cons c periods =>
    refine hf ?_
    have hfront : before ++ ['.'] = front := by
      have hsplit : (before ++ ['.']) ++ ['.'] = front ++ [c] := by simpa using he
      exact (List.append_inj' hsplit rfl).1
    rw [← hfront]
    exact List.getLast?_append_of_ne_nil before (List.cons_ne_nil _ _)

/-- A detail of a changeset is one line of at most so many characters, its words one space apart.
It is cut exactly if the message with one period at its end is longer, and ends in three periods
then; else it ends in one at most. -/
theorem changesetMessage_short (h : changesetMessage body = .ok (some detail)) :
    1 ≤ detail.length ∧ detail.length ≤ 80 ∧ detail.IsTidy ∧
    ∃ found front periods, IsMessageOf body found ∧ cleanText found = .ok (front ++ periods) ∧
      front.getLast? ≠ some '.' ∧ (∀ c ∈ periods, c = '.') ∧
      (80 < (front ++ periods.take 1).length →
        detail.length = 80 ∧ "...".toList <:+ detail) ∧
      ((front ++ periods.take 1).length ≤ 80 →
        detail = front ++ periods.take 1 ∧ ¬ "..".toList <:+ detail) := by
  obtain ⟨found, message, hfound, hc, hne, he⟩ := exists_of_changesetMessage h
  obtain ⟨front, periods, rfl, hf, hp⟩ := exists_eq_append_periods message
  rw [onePeriod_append hf hp] at he
  have hpositive : 0 < (front ++ periods.take 1).length := by
    rw [List.length_append, List.length_take]
    have hlength := List.length_pos_iff.mpr hne
    rw [List.length_append] at hlength
    omega
  have hcases := truncate_cases (front ++ periods.take 1)
  rw [← he, detailLength] at hcases
  refine ⟨?_, ?_, isTidy_of_changesetMessage h, found, front, periods, hfound, hc, hf, hp, ?_, ?_⟩
  · rcases hcases with ⟨-, hlength, -⟩ | ⟨-, rfl⟩
    · omega
    · exact hpositive
  · rcases hcases with ⟨-, hlength, -⟩ | ⟨hshort, rfl⟩
    · exact hlength.le
    · exact hshort
  · rcases hcases with ⟨-, hcut⟩ | ⟨hshort, -⟩
    · exact fun _ => hcut
    · exact fun hlong => absurd hshort (Nat.not_le.mpr hlong)
  · rcases hcases with ⟨hlong, -⟩ | ⟨-, rfl⟩
    · exact fun hshort => absurd hshort (Nat.not_le.mpr hlong)
    · exact fun _ => ⟨rfl, not_suffix_periods hf⟩

/-- An overview whose message is one character too long, and is cut after a blank. -/
def longOverview : Text :=
  "<dl id=\"overview\"><dt>Message:</dt><dd>\n".toList ++
    (List.replicate 76 'a' ++ "&#160;\tbcd&#46;..</dd></dl>".toList)

theorem changesetMessage_short_longOverview :
    let detail : Text := List.replicate 76 'a' ++ " ...".toList
    changesetMessage longOverview = .ok (some detail) ∧ detail.length ≤ 80 ∧ detail.IsTidy := by
  intro detail
  have h : changesetMessage longOverview = .ok (some detail) := by decide +kernel
  obtain ⟨-, hlength, htidy, -⟩ := changesetMessage_short h
  exact ⟨h, hlength, htidy⟩

end CommitMessage.Page
