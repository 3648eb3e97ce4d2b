import CommitMessage.Proofs.Message.Forms
import CommitMessage.Proofs.Page.Extraction

/-! The message of a changeset on its page. The detail that it makes shows the words of the text one
space apart, and is cut when it is long. Of the first paragraph only the text before its first tag
is shown: what markup inside the paragraph surrounds or precedes is lost. -/

namespace CommitMessage.Text

variable {c d : Char} {t : Text}

/-! Words -/

/-- The longest pieces of a text that hold no blank. -/
def words (t : Text) : List Text := (t.splitOnP isBlank).filter fun word => !word.isEmpty

theorem words_append_blank (hd : isBlank d = true) (before after : Text) :
    words (before ++ d :: after) = words before ++ words after := by
  rw [words, List.splitOnP_append_cons before after hd, List.filter_append, words, words]

theorem words_cons_blank (hc : isBlank c = true) : words (c :: t) = words t :=
  words_append_blank hc [] t

theorem words_singleton (hc : isBlank c = false) : words [c] = [[c]] := by
  simp [words, List.splitOnP_cons_eq_if_modifyHead, hc]

theorem words_cons_of_blank (hc : isBlank c = false) (hd : isBlank d = true) :
    words (c :: d :: t) = [c] :: words (d :: t) := by
  rw [words_cons_blank hd, ← List.singleton_append, words_append_blank hd, words_singleton hc,
    List.singleton_append]

/-- A character begins a word, and one before it is one more character of that word. -/
theorem exists_words_cons (hd : isBlank d = false) (t : Text) :
    ∃ word rest, words (d :: t) = (d :: word) :: rest ∧
      ∀ c, isBlank c = false → words (c :: d :: t) = (c :: d :: word) :: rest := by
  obtain ⟨word, rest, hs⟩ := List.exists_cons_of_ne_nil (List.splitOnP_ne_nil isBlank t)
  have hsplit : (d :: t).splitOnP isBlank = (d :: word) :: rest := by
    rw [List.splitOnP_cons_eq_if_modifyHead, if_neg (by simp [hd]), hs, List.modifyHead_cons]
  refine ⟨word, rest.filter fun word => !word.isEmpty, ?_, fun c hc => ?_⟩
  · rw [words, hsplit, List.filter_cons_of_pos (by simp)]
  · rw [words, List.splitOnP_cons_eq_if_modifyHead, if_neg (by simp [hc]), hsplit,
      List.modifyHead_cons, List.filter_cons_of_pos (by simp)]

theorem words_eq_nil_iff : words t = [] ↔ t.isAllBlank = true := by
  induction t with
  | nil => exact iff_of_true rfl rfl
  | cons c t ih =>
    cases hc : isBlank c with
    | true => rw [words_cons_blank hc, ih, isAllBlank, isAllBlank, List.all_cons, hc, Bool.true_and]
    | false =>
      obtain ⟨word, rest, hw, -⟩ := exists_words_cons hc t
      simp [hw, isAllBlank, hc]

theorem ne_nil_of_mem_words {word : Text} (h : word ∈ words t) : word ≠ [] := by
  simpa using (List.mem_filter.mp h).2

theorem joinWith_words_eq_nil_iff : joinWith [' '] (words t) = [] ↔ t.isAllBlank = true := by
  rw [← words_eq_nil_iff]
  cases hw : words t with
  | nil => exact iff_of_true rfl rfl
  | cons word rest =>
    have hn : word ≠ [] := ne_nil_of_mem_words (hw ▸ List.mem_cons_self)
    obtain ⟨c, word, rfl⟩ := List.exists_cons_of_ne_nil hn
    rw [joinWith_cons_cons]
    exact iff_of_false (List.cons_ne_nil _ _) (List.cons_ne_nil _ _)

/-! Blanks at the ends -/

theorem trimEnd_cons (h : isBlank c = false ∨ t.trimEnd ≠ []) :
    trimEnd (c :: t) = c :: t.trimEnd := by
  by_cases ht : t.trimEnd = []
  · have hc : isBlank c = false := h.resolve_right (absurd ht)
    rw [ht, ← List.singleton_append, trimEnd_append_of_blank _ (trimEnd_eq_nil_iff.mp ht)]
    exact trimEnd_append_singleton (t := []) hc
  · exact trimEnd_append_of_ne_nil [c] ht

/-! Searching -/

variable {mark rest : Text}

/-- A mark that does not stand at the beginning of a text cannot end behind it, if what follows
begins with a character that the mark does not hold. -/
theorem skip?_append_eq_none (h : skip? mark t = none) (hc : c ∉ mark) (rest : Text) :
    skip? mark (t ++ c :: rest) = none := by
  induction mark generalizing t with
  | nil => cases t <;> cases h
  | cons a mark ih =>
    obtain ⟨hne, hmark⟩ := not_or.mp (List.mem_cons.not.mp hc)
    cases t with
    | nil => rw [List.nil_append, skip?, if_neg (Ne.symm hne)]
    | cons d t =>
      rw [List.cons_append]
      unfold skip? at h ⊢
      split
      · next he =>
        rw [if_pos he] at h
        exact ih h hmark
      · rfl

/-- The same for a mark that begins with a character, which may come again behind the text. -/
theorem skip?_cons_append_eq_none {a d : Char} (h : skip? (a :: mark) (d :: t) = none)
    (hc : c ∉ mark) (rest : Text) : skip? (a :: mark) (d :: t ++ c :: rest) = none := by
  rw [List.cons_append]
  unfold skip? at h ⊢
  split
  · next he =>
    rw [if_pos he] at h
    exact skip?_append_eq_none h hc rest
  · rfl

theorem holds_cons {d : Char} : holds mark (d :: t) = false ↔
    skip? mark (d :: t) = none ∧ holds mark t = false := by
  simp [holds]

theorem skip?_of_suffix {s : Text} (h : holds mark t = false) (hs : s <:+ t) (hn : s ≠ []) :
    skip? mark s = none := by
  induction t with
  | nil => exact absurd (List.suffix_nil.mp hs) hn
  | cons d t ih =>
    obtain ⟨hd, ht⟩ := holds_cons.mp h
    rcases List.suffix_cons_iff.mp hs with rfl | hs
    · exact hd
    · exact ih ht hs

theorem splitAt?_cons_of_none {d : Char} (h : skip? mark (d :: t) = none) :
    splitAt? mark (d :: t) = (splitAt? mark t).map fun found => (d :: found.1, found.2) := by
  rw [splitAt?, h]

/-- A mark is looked for behind a text that does not hold it. -/
theorem splitAt?_append {a : Char} (h : holds (a :: mark) t = false) (hc : c ∉ mark) (rest : Text) :
    splitAt? (a :: mark) (t ++ c :: rest) =
      (splitAt? (a :: mark) (c :: rest)).map fun found => (t ++ found.1, found.2) := by
  induction t with
  | nil => simp
  | cons d t ih =>
    obtain ⟨hd, ht⟩ := holds_cons.mp h
    have hnone := skip?_cons_append_eq_none hd hc rest
    rw [List.cons_append] at hnone ⊢
    rw [splitAt?_cons_of_none hnone, ih ht, Option.map_map]
    rfl

theorem exists_splitAt? (mark t rest : Text) :
    ∃ found, splitAt? mark (t ++ (mark ++ rest)) = some found := by
  induction t with
  | nil =>
    have hskip := skip?_append mark rest
    rw [List.nil_append]
    cases hm : mark ++ rest with
    | nil =>
      obtain ⟨rfl, rfl⟩ := List.append_eq_nil_iff.mp hm
      exact ⟨([], []), rfl⟩
    | cons d text =>
      rw [hm] at hskip
      exact ⟨([], rest), by rw [splitAt?, hskip]⟩
  | cons d t ih =>
    obtain ⟨found, hs⟩ := ih
    rw [List.cons_append, splitAt?]
    cases hskip : skip? mark (d :: (t ++ (mark ++ rest))) with
    | none => exact ⟨(d :: found.1, found.2), by simp [hs]⟩
    | some left => exact ⟨([], left), rfl⟩

end CommitMessage.Text

namespace CommitMessage.Page

open Text (words joinWith)

variable {c d : Char} {t : Text}

/-! Blanks between words -/

theorem collapseBlanks_cons (hc : isBlank c = false) :
    collapseBlanks (c :: t) = c :: collapseBlanks t := by
  cases t <;> simp [collapseBlanks, hc]

theorem trimStart_collapseBlanks_cons (hc : isBlank c = true) :
    (collapseBlanks (c :: t)).trimStart = (collapseBlanks t).trimStart := by
  cases t with
  | nil => simp [collapseBlanks, hc]; rfl
  | cons d t =>
    cases hd : isBlank d with
    | true => rw [collapseBlanks, if_pos hc, if_pos hd]
    | false =>
      rw [collapseBlanks, if_pos hc, if_neg (by simp [hd]), Text.trimStart,
        List.dropWhile_cons_of_pos (by decide), Text.trimStart]

/-- The words of a text one space apart, after a space if the text begins with a blank. -/
theorem trimEnd_collapseBlanks (t : Text) :
    (collapseBlanks t).trimEnd =
      (if t.head?.any isBlank && !t.isAllBlank then [' '] else []) ++ joinWith [' '] (words t) := by
  induction t using collapseBlanks.induct with
  | case1 c d rest hc hd ih =>
    rw [collapseBlanks, if_pos hc, if_pos hd, ih, Text.words_cons_blank hc]
    simp [hc, hd, Text.isAllBlank]
  | case2 c d rest hc hd ih =>
    obtain ⟨word, others, hw, -⟩ := Text.exists_words_cons (by simpa using hd) rest
    have hend : (collapseBlanks (d :: rest)).trimEnd = joinWith [' '] (words (d :: rest)) := by
      simpa [hd] using ih
    have hne : (collapseBlanks (d :: rest)).trimEnd ≠ [] := by
      rw [hend, hw, Text.joinWith_cons_cons]
      exact List.cons_ne_nil _ _
    rw [collapseBlanks, if_pos hc, if_neg hd, Text.trimEnd_cons (.inr hne), hend,
      Text.words_cons_blank hc]
    simp [hc, hd, Text.isAllBlank]
  | case3 c d rest hc ih =>
    have hc' : isBlank c = false := by simpa using hc
    rw [collapseBlanks, if_neg hc, Text.trimEnd_cons (.inl hc'), ih]
    cases hd : isBlank d with
    | false =>
      obtain ⟨word, others, hw, hwords⟩ := Text.exists_words_cons hd rest
      rw [hwords c hc', Text.joinWith_cons_cons, ← hw]
      simp [hc, hd]
    | true =>
      rw [Text.words_cons_of_blank hc' hd]
      cases hb : Text.isAllBlank (d :: rest) with
      | true =>
        rw [Text.words_eq_nil_iff.mpr hb]
        simp [hc, joinWith]
      | false =>
        have hne : words (d :: rest) ≠ [] := by
          rw [Ne, Text.words_eq_nil_iff, hb]
          exact Bool.false_ne_true
        rw [joinWith]
        · simp [hc, hd]
        · exact hne
  | case4 c hc =>
    rw [Text.words_cons_blank hc]
    simp [collapseBlanks, hc, Text.isAllBlank, Text.words]
    rfl
  | case5 c hc =>
    have hc' : isBlank c = false := by simpa using hc
    rw [Text.words_singleton hc', collapseBlanks, if_neg hc, Text.trimEnd_cons (.inl hc')]
    simp [hc, joinWith]
    rfl
  | case6 => rfl

/-- Blanks collapsed and trimmed are words one space apart. -/
theorem trim_collapseBlanks (t : Text) :
    (collapseBlanks t).trim = joinWith [' '] (words t) := by
  induction t with
  | nil => rfl
  | cons c t ih =>
    cases hc : isBlank c with
    | true =>
      rw [Text.trim, trimStart_collapseBlanks_cons hc, ← Text.trim, ih, Text.words_cons_blank hc]
    | false =>
      have hstart : (collapseBlanks (c :: t)).trimStart = collapseBlanks (c :: t) := by
        rw [collapseBlanks_cons hc, Text.trimStart, List.dropWhile_cons_of_neg (by simp [hc])]
      rw [Text.trim, hstart, trimEnd_collapseBlanks]
      simp [hc]

/-- What is shown of a text: its words one space apart, with one period at the end where there
are several, and not all of it if that is long. -/
def shown (t : Text) : Text := truncate (onePeriod (joinWith [' '] (words t)))

theorem messageDetail?_of_decode {text : Text} (h : decode (stripTags t) = .ok text) :
    messageDetail? (some t) = .ok (if text.isAllBlank then none else some (shown text)) := by
  have hclean : cleanText t = .ok (joinWith [' '] (words text)) := by
    rw [cleanText, h, ← trim_collapseBlanks]
    rfl
  rw [messageDetail?, hclean]
  cases hb : text.isAllBlank with
  | true =>
    rw [Text.joinWith_words_eq_nil_iff.mpr hb]
    rfl
  | false =>
    have hne : joinWith [' '] (words text) ≠ [] := by
      rw [Ne, Text.joinWith_words_eq_nil_iff, hb]
      exact Bool.false_ne_true
    have hsome : some? (joinWith [' '] (words text)) = some (joinWith [' '] (words text)) := by
      rw [some?, if_neg (by simpa using hne)]
    simp only [bind, Except.bind, pure, Except.pure, hsome]
    rfl

/-! The first match -/

variable {α : Type} {read? : Text → Option α} {rest : Text}

theorem firstMatch?_append (h : ∀ s, s <:+ t → s ≠ [] → read? (s ++ rest) = none) :
    firstMatch? read? (t ++ rest) = firstMatch? read? rest := by
  induction t with
  | nil => rfl
  | cons d t ih =>
    have hd := h (d :: t) (List.suffix_refl _) (List.cons_ne_nil _ _)
    rw [List.cons_append] at hd ⊢
    rw [firstMatch?, hd]
    exact ih fun s hs => h s (hs.trans (List.suffix_cons d t))

theorem firstMatch?_cons_of_none {d : Char} (h : read? (d :: t) = none) :
    firstMatch? read? (d :: t) = firstMatch? read? t := by
  rw [firstMatch?, h]

/-! The section of the message -/

variable {before paragraph after : Text}

/-- A page with a message section whose first paragraph is the given text. -/
def messagePage (before paragraph rest after : Text) : Text :=
  before ++ ("<dt class=\"property message\">Message:</dt><dd class=\"message\"><p>".toList ++
    (paragraph ++ ("</p>".toList ++ (rest ++ ("</dd>".toList ++ after)))))

/-- What stands between the first paragraph and the end of the section. -/
def sectionRest (rest after : Text) : Text :=
  ((Text.splitAt? "</dd>".toList (rest ++ ("</dd>".toList ++ after))).map Prod.fst).getD []

theorem skipTag?_eq_none {opening mark : String} {t : Text}
    (h : Text.skip? opening.toList t = none) : skipTag? opening mark t = none := by
  rw [skipTag?, h]
  rfl

/-- The first term of the page that is about a message is the one of its section. -/
theorem firstMatch?_term (hb : Text.holds "<dt".toList before = false) :
    firstMatch? (skipTag? "<dt" "property message") (messagePage before paragraph rest after) =
      some ("Message:</dt><dd class=\"message\"><p>".toList ++
        (paragraph ++ ("</p>".toList ++ (rest ++ ("</dd>".toList ++ after))))) := by
  rw [messagePage, firstMatch?_append]
  · exact firstMatch?_of_eq_some rfl
  · intro s hs hn
    obtain ⟨d, s, rfl⟩ := List.exists_cons_of_ne_nil hn
    exact skipTag?_eq_none (Text.skip?_cons_append_eq_none (Text.skip?_of_suffix hb hs hn)
      (by decide) _)

/-- No closing tag of the section stands before the end of the paragraph. -/
theorem splitAt?_paragraph (hp : Text.holds "</dd>".toList paragraph = false)
    (rest after : Text) : ∃ left, Text.splitAt? "</dd>".toList ("<p>".toList ++
      (paragraph ++ ("</p>".toList ++ (rest ++ ("</dd>".toList ++ after))))) =
        some ("<p>".toList ++ (paragraph ++ ("</p>".toList ++ sectionRest rest after)), left) := by
  obtain ⟨⟨content, left⟩, hs⟩ := Text.exists_splitAt? "</dd>".toList rest after
  have hopen : Text.holds "</dd>".toList ("<p>".toList ++ paragraph) = false :=
    Text.holds_cons.mpr ⟨rfl, Text.holds_cons.mpr ⟨rfl, Text.holds_cons.mpr ⟨rfl, hp⟩⟩⟩
  have hclose (text : Text) : Text.splitAt? "</dd>".toList ("</p>".toList ++ text) =
      (Text.splitAt? "</dd>".toList text).map fun found =>
        ("</p>".toList ++ found.1, found.2) := by
    change Text.splitAt? _ ('<' :: '/' :: 'p' :: '>' :: text) = _
    rw [Text.splitAt?_cons_of_none rfl, Text.splitAt?_cons_of_none rfl,
      Text.splitAt?_cons_of_none rfl, Text.splitAt?_cons_of_none rfl]
    simp only [Option.map_map]
    rfl
  have hsplit := Text.splitAt?_append hopen (c := '<') (by decide)
    ("/p>".toList ++ (rest ++ ("</dd>".toList ++ after)))
  change Text.splitAt? "</dd>".toList (("<p>".toList ++ paragraph) ++
    ("</p>".toList ++ (rest ++ ("</dd>".toList ++ after)))) =
      (Text.splitAt? "</dd>".toList ("</p>".toList ++ (rest ++ ("</dd>".toList ++ after)))).map _
    at hsplit
  rw [hclose, hs, List.append_assoc] at hsplit
  refine ⟨left, ?_⟩
  rw [hsplit, sectionRest, hs]
  simp

theorem messageSection?_messagePage (hb : Text.holds "<dt".toList before = false)
    (hp : Text.holds "</dd>".toList paragraph = false) :
    messageSection? (messagePage before paragraph rest after) =
      some ("<p>".toList ++ (paragraph ++ ("</p>".toList ++ sectionRest rest after))) := by
  obtain ⟨left, hs⟩ := splitAt?_paragraph hp rest after
  have hopen : firstMatch? (fun t => do
      let t ← Text.skip? "</dt>".toList t
      skipTag? "<dd" "message" (t.dropWhile isBlank))
      ("Message:</dt><dd class=\"message\"><p>".toList ++
        (paragraph ++ ("</p>".toList ++ (rest ++ ("</dd>".toList ++ after))))) =
      some ("<p>".toList ++
        (paragraph ++ ("</p>".toList ++ (rest ++ ("</dd>".toList ++ after))))) := rfl
  rw [messageSection?, firstMatch?_term hb]
  simp only [bind, Option.bind, pure] at hopen ⊢
  rw [hopen]
  simp only [hs]

/-! The paragraph -/

/-- The text of a paragraph up to its first tag. -/
def beforeTag (paragraph : Text) : Text := paragraph.takeWhile (· != '<')

/-- The first tag of a paragraph and everything after it. -/
def fromTag (paragraph : Text) : Text := paragraph.dropWhile (· != '<')

theorem notMem_beforeTag (paragraph : Text) : '<' ∉ beforeTag paragraph := fun hm => by
  simpa using List.mem_takeWhile_imp hm

theorem takeWhile_append_tag (t rest : Text) :
    (t ++ '<' :: rest).takeWhile (· != '<') = beforeTag t := by
  rw [beforeTag, List.takeWhile_append]
  split
  · next h =>
    rw [List.takeWhile_cons_of_neg (by simp), List.append_nil]
    exact ((List.takeWhile_prefix _).eq_of_length h).symm
  · rfl

/-- What the search for a paragraph tries at each place. -/
def openedText? (t : Text) : Option Text := skipTag? "<p" "" t >>= textBeforeTag?

theorem openedText?_eq_none (h : Text.skip? "<p".toList t = none) : openedText? t = none := by
  rw [openedText?, skipTag?_eq_none h]
  rfl

theorem openedText?_paragraph (paragraph rest : Text) :
    openedText? ("<p>".toList ++ (paragraph ++ ("</p>".toList ++ rest))) =
      some? (beforeTag paragraph) :=
  congrArg some? (takeWhile_append_tag paragraph ("/p>".toList ++ rest))

/-- If a tag opens the paragraph, nothing of it is found. -/
theorem paragraph?_of_tag (h : beforeTag paragraph = [])
    (hp : Text.holds "<p".toList paragraph = false) (rest : Text) :
    paragraph? ("<p>".toList ++ (paragraph ++ ("</p>".toList ++ rest))) = paragraph? rest := by
  have hopen : openedText? ('<' :: 'p' :: '>' :: (paragraph ++ ("</p>".toList ++ rest))) = none :=
    (openedText?_paragraph paragraph rest).trans (by rw [h]; rfl)
  have hskip : ∀ s, s <:+ paragraph → s ≠ [] →
      openedText? (s ++ ("</p>".toList ++ rest)) = none := by
    intro s hs hn
    obtain ⟨d, s, rfl⟩ := List.exists_cons_of_ne_nil hn
    exact openedText?_eq_none (Text.skip?_cons_append_eq_none (Text.skip?_of_suffix hp hs hn)
      (by decide) _)
  change firstMatch? openedText? ('<' :: 'p' :: '>' :: (paragraph ++ ("</p>".toList ++ rest))) = _
  rw [firstMatch?_cons_of_none hopen, firstMatch?_cons_of_none (openedText?_eq_none rfl),
    firstMatch?_cons_of_none (openedText?_eq_none rfl), firstMatch?_append hskip]
  change firstMatch? openedText? ('<' :: '/' :: 'p' :: '>' :: rest) = _
  rw [firstMatch?_cons_of_none (openedText?_eq_none rfl),
    firstMatch?_cons_of_none (openedText?_eq_none rfl),
    firstMatch?_cons_of_none (openedText?_eq_none rfl),
    firstMatch?_cons_of_none (openedText?_eq_none rfl)]
  rfl

/-- Only the text before its first tag is found of a paragraph. If there is none, it is looked for
in the rest of the section. -/
theorem paragraph?_eq (hp : Text.holds "<p".toList paragraph = false) (rest : Text) :
    paragraph? ("<p>".toList ++ (paragraph ++ ("</p>".toList ++ rest))) =
      if beforeTag paragraph = [] then paragraph? rest else some (beforeTag paragraph) := by
  split
  · next h => exact paragraph?_of_tag h hp rest
  · next h =>
    refine firstMatch?_of_eq_some ((openedText?_paragraph paragraph rest).trans ?_)
    rw [some?, if_neg (by simpa using h)]

theorem stripTagsUpTo_append {fuel : Nat} (ht : '<' ∉ t) (rest : Text) :
    stripTagsUpTo (t.length + fuel) (t ++ rest) = t ++ stripTagsUpTo fuel rest := by
  induction t with
  | nil => simp
  | cons c t ih =>
    obtain ⟨hc, ht⟩ := not_or.mp (List.mem_cons.not.mp ht)
    rw [List.length_cons, Nat.succ_add, List.cons_append, stripTagsUpTo, ih ht]
    · rfl
    · exact Ne.symm hc

theorem stripTags_append (ht : '<' ∉ t) (rest : Text) :
    stripTags (t ++ rest) = t ++ stripTags rest := by
  rw [stripTags, List.length_append, stripTagsUpTo_append ht]
  rfl

/-- Without text from the first tag on, the whole text is what stands before that tag. -/
theorem stripTags_eq_beforeTag (h : stripTags (fromTag paragraph) = []) :
    stripTags paragraph = beforeTag paragraph :=
  calc stripTags paragraph
      = stripTags (beforeTag paragraph ++ fromTag paragraph) := by
        rw [beforeTag, fromTag, List.takeWhile_append_dropWhile]
    _ = beforeTag paragraph ++ stripTags (fromTag paragraph) :=
        stripTags_append (notMem_beforeTag paragraph) _
    _ = beforeTag paragraph := by rw [h, List.append_nil]

/-! The detail -/

variable {body text : Text}

theorem changesetMessage_of_detail {detail : Text}
    (h : messageDetail? (messageSection? body >>= paragraph?) = .ok (some detail)) :
    changesetMessage body = .ok (some detail) := by
  rw [changesetMessage, h]
  rfl

theorem changesetMessage_of_none
    (h : messageDetail? (messageSection? body >>= paragraph?) = .ok none) :
    changesetMessage body = messageDetail? (overviewList? body >>= overviewMessage?) := by
  rw [changesetMessage, h]
  rfl

theorem messageDetail?_beforeTag (h : decode (beforeTag paragraph) = .ok text) :
    messageDetail? (some (beforeTag paragraph)) =
      .ok (if text.isAllBlank then none else some (shown text)) :=
  messageDetail?_of_decode ((stripTags_of_not_mem (notMem_beforeTag paragraph)).symm ▸ h)

/-- The paragraph of a page is shown up to its first tag. Text that a tag precedes is lost: there
the overview is shown, or what follows the paragraph, as if it showed nothing. The whole paragraph
is shown where no text follows its first tag. -/
theorem changesetMessage_messagePage (before paragraph rest after : Text)
    (hb : Text.holds "<dt".toList before = false)
    (hp : Text.holds "<p".toList paragraph = false)
    (hd : Text.holds "</dd>".toList paragraph = false) :
    (∀ text, decode (beforeTag paragraph) = .ok text → text.isAllBlank = false →
      changesetMessage (messagePage before paragraph rest after) = .ok (some (shown text))) ∧
    (Overlong (beforeTag paragraph) →
      ∃ problem, changesetMessage (messagePage before paragraph rest after) = .error problem) ∧
    (∀ text, decode (beforeTag paragraph) = .ok text → text.isAllBlank = true →
      (beforeTag paragraph = [] → paragraph? (sectionRest rest after) = none) →
        changesetMessage (messagePage before paragraph rest after) =
          messageDetail? (overviewList? (messagePage before paragraph rest after) >>=
            overviewMessage?)) ∧
    (stripTags (fromTag paragraph) = [] → ∀ text, decode (stripTags paragraph) = .ok text →
      text.isAllBlank = false →
        changesetMessage (messagePage before paragraph rest after) = .ok (some (shown text))) := by
  have hfound : (messageSection? (messagePage before paragraph rest after) >>= paragraph?) =
      if beforeTag paragraph = [] then paragraph? (sectionRest rest after)
      else some (beforeTag paragraph) := by
    rw [messageSection?_messagePage hb hd]
    exact paragraph?_eq hp (sectionRest rest after)
  have hshown : ∀ text, decode (beforeTag paragraph) = .ok text → text.isAllBlank = false →
      changesetMessage (messagePage before paragraph rest after) = .ok (some (shown text)) := by
    intro text ht hv
    have hne : beforeTag paragraph ≠ [] := by
      intro he
      rw [he] at ht
      cases ht
      cases hv
    apply changesetMessage_of_detail
    rw [hfound, if_neg hne, messageDetail?_beforeTag ht, hv]
    rfl
  refine ⟨hshown, fun ho => ?_, fun text ht hv hrest => ?_, fun hs text ht => ?_⟩
  · have hne : beforeTag paragraph ≠ [] := by
      intro he
      exact not_overlong_nil (he ▸ ho)
    refine changesetMessage_error_iff.mpr (.inl ⟨_, ?_, ho⟩)
    rw [hfound, if_neg hne]
  · apply changesetMessage_of_none
    rw [hfound]
    split
    · next he =>
      rw [hrest he]
      rfl
    · rw [messageDetail?_beforeTag ht, hv]
      rfl
  · exact hshown text (stripTags_eq_beforeTag hs ▸ ht)

theorem changesetMessage_messagePage_break :
    Text.holds "<dt".toList "<h1>Changeset 7</h1>".toList = false ∧
      stripTags (fromTag "Docs:  Fix it...<br/>".toList) = [] ∧
        changesetMessage (messagePage "<h1>Changeset 7</h1>".toList "Docs:  Fix it...<br/>".toList
          [] []) = .ok (some "Docs: Fix it.".toList) := by
  have hb : Text.holds "<dt".toList "<h1>Changeset 7</h1>".toList = false := by decide
  have hs : stripTags (fromTag "Docs:  Fix it...<br/>".toList) = [] := by decide
  have ht : decode (stripTags "Docs:  Fix it...<br/>".toList) = .ok "Docs:  Fix it...".toList := by
    rfl
  obtain ⟨-, -, -, hwhole⟩ := changesetMessage_messagePage _ "Docs:  Fix it...<br/>".toList [] [] hb
    (by decide) (by decide)
  have hshown : shown "Docs:  Fix it...".toList = "Docs: Fix it.".toList := by decide
  exact ⟨hb, hs, hshown ▸ hwhole hs _ ht (by decide)⟩

/-- Markup inside the paragraph loses the text that follows it. -/
theorem exists_changesetMessage_ne_shown : ∃ before paragraph rest after text,
    Text.holds "<dt".toList before = false ∧ Text.holds "</p>".toList paragraph = false ∧
      Text.holds "</dd>".toList paragraph = false ∧ Text.holds "<p".toList paragraph = false ∧
        decode (stripTags paragraph) = .ok text ∧ text.isAllBlank = false ∧
          changesetMessage (messagePage before paragraph rest after) ≠ .ok (some (shown text)) := by
  refine ⟨[], "Fix <code>it</code> now.".toList, [], [], "Fix it now.".toList, by decide,
    by decide, by decide, by decide, by rfl, by decide, ?_⟩
  have hfix : changesetMessage (messagePage [] "Fix <code>it</code> now.".toList [] []) =
      .ok (some "Fix".toList) := by rfl
  rw [hfix]
  decide

end CommitMessage.Page
