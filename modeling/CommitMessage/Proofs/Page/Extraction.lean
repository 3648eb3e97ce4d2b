import CommitMessage.Page.CharacterReferences
import Mathlib
import CommitMessage.Lookup.Response

/-! Texts that cannot be decoded, and pages from which no detail can be read because of them. -/

/-! A text cannot be decoded if it has a decimal reference that is too long. No reference reaches
over an ampersand, so every ampersand is read as the beginning of one. -/

namespace CommitMessage.Page

variable {t rest : Text} {c : Char}

/-- Begins with the number sign and too many digits. -/
def StartsOverlong (t : Text) : Prop :=
  ∃ digits after, t = '#' :: digits ++ after ∧ maxDigits < digits.length ∧
    ∀ d ∈ digits, isAsciiDigit d = true

/-- Holds a decimal reference with too many digits. -/
def Overlong (t : Text) : Prop := ∃ before after, t = before ++ '&' :: after ∧ StartsOverlong after

theorem not_overlong_nil : ¬ Overlong [] := by
  rintro ⟨before, after, he, -⟩
  simp at he

theorem overlong_cons_amp : Overlong ('&' :: t) ↔ StartsOverlong t ∨ Overlong t := by
  constructor
  · rintro ⟨before, after, he, hs⟩
    cases before with
    | nil =>
      obtain rfl : t = after := by simpa using he
      exact .inl hs
    | cons d before => exact .inr ⟨before, after, by simpa using (List.cons.inj he).2, hs⟩
  · rintro (hs | ⟨before, after, rfl, hs⟩)
    · exact ⟨[], t, rfl, hs⟩
    · exact ⟨'&' :: before, after, rfl, hs⟩

theorem overlong_cons (hc : c ≠ '&') : Overlong (c :: t) ↔ Overlong t := by
  constructor
  · rintro ⟨before, after, he, hs⟩
    cases before with
    | nil => exact absurd (List.cons.inj he).1 hc
    | cons d before => exact ⟨before, after, by simpa using (List.cons.inj he).2, hs⟩
  · rintro ⟨before, after, rfl, hs⟩
    exact ⟨c :: before, after, rfl, hs⟩

theorem overlong_append {used : Text} (hu : '&' ∉ used) :
    Overlong (used ++ rest) ↔ Overlong rest := by
  induction used with
  | nil => rfl
  | cons c used ih =>
    simp only [List.mem_cons, not_or] at hu
    rw [List.cons_append, overlong_cons (Ne.symm hu.1), ih hu.2]

/-! What a reference uses -/

/-- What is left after some characters, none of them an ampersand. -/
def LeavesOf (t rest : Text) : Prop := ∃ used, t = used ++ rest ∧ '&' ∉ used

theorem leavesOf_refl (t : Text) : LeavesOf t t := ⟨[], rfl, List.not_mem_nil⟩

theorem LeavesOf.overlong_iff (h : LeavesOf t rest) : Overlong t ↔ Overlong rest := by
  obtain ⟨used, rfl, hu⟩ := h
  exact overlong_append hu

theorem LeavesOf.length_le (h : LeavesOf t rest) : rest.length ≤ t.length := by
  obtain ⟨used, rfl, -⟩ := h
  simp

theorem LeavesOf.trans {t' : Text} (h : LeavesOf t t') (h' : LeavesOf t' rest) :
    LeavesOf t rest := by
  obtain ⟨used, rfl, hu⟩ := h
  obtain ⟨used', rfl, hu'⟩ := h'
  exact ⟨used ++ used', by simp, by simp [hu, hu']⟩

theorem leavesOf_cons (hc : c ≠ '&') : LeavesOf (c :: rest) rest :=
  ⟨[c], rfl, by simpa using hc.symm⟩

theorem leavesOf_dropSemicolon (t : Text) : LeavesOf t (dropSemicolon t) := by
  unfold dropSemicolon
  split
  · exact leavesOf_cons (by decide)
  · exact leavesOf_refl t

/-- The beginning of a text, as long as its characters are of one sort. -/
theorem leavesOf_drop_takeWhile {p : Char → Bool} (hp : p '&' = false) (t : Text) (n : Nat) :
    LeavesOf t (t.drop ((t.takeWhile p).take n).length) := by
  refine ⟨(t.takeWhile p).take n, ?_, fun hm => ?_⟩
  · have hprefix : (t.takeWhile p).take n <+: t :=
      (List.take_prefix n _).trans (List.takeWhile_prefix p)
    exact (List.prefix_iff_eq_append.mp hprefix).symm
  · have hall := List.mem_takeWhile_imp (List.mem_of_mem_take hm)
    rw [hp] at hall
    cases hall

theorem leavesOf_readName (t : Text) : LeavesOf t (readName t).2 := by
  have hname : LeavesOf t (t.drop ((t.takeWhile isNameChar).take maxNameLength).length) :=
    leavesOf_drop_takeWhile rfl t maxNameLength
  have hrest := hname.trans (leavesOf_dropSemicolon _)
  unfold readName
  dsimp only
  split
  · exact hrest
  · split
    · exact hrest
    · exact hrest

theorem startsOverlong_iff :
    StartsOverlong ('#' :: t) ↔ maxDigits < (t.takeWhile isAsciiDigit).length := by
  constructor
  · rintro ⟨digits, after, he, hlong, hall⟩
    obtain rfl : t = digits ++ after := by simpa using he
    rw [List.takeWhile_append_of_pos hall, List.length_append]
    omega
  · intro hlong
    refine ⟨_, t.dropWhile isAsciiDigit, ?_, hlong, fun d hd => List.mem_takeWhile_imp hd⟩
    rw [List.cons_append, List.takeWhile_append_dropWhile]

theorem leavesOf_drop_length {p : Char → Bool} (hp : p '&' = false) (t : Text) :
    LeavesOf t (t.drop (t.takeWhile p).length) := by
  have hlen := leavesOf_drop_takeWhile hp t (t.takeWhile p).length
  rwa [List.take_length] at hlen

theorem reference_hexadecimal {x : Char} (hx : x = 'x' ∨ x = 'X') (rest : Text) :
    ∃ value left, reference ('#' :: x :: rest) = .ok (value, left) ∧
      LeavesOf ('#' :: x :: rest) left ∧ ¬ StartsOverlong ('#' :: x :: rest) := by
  have hnot : x ≠ '&' := by rcases hx with rfl | rfl <;> decide
  have hdigit : isAsciiDigit x = false := by rcases hx with rfl | rfl <;> rfl
  have hdecimal : (x :: rest).takeWhile isAsciiDigit = [] := by simp [hdigit]
  have hshort : ¬ StartsOverlong ('#' :: x :: rest) := by
    rw [startsOverlong_iff, hdecimal]
    exact Nat.not_lt_zero _
  cases hhex : (rest.takeWhile fun c => (hexValue? c).isSome).isEmpty with
  | true =>
    have hr : reference ('#' :: x :: rest) = .ok (['&'], '#' :: x :: rest) := by
      simp only [reference, hx, if_true, hhex, hdecimal]
      rfl
    exact ⟨_, _, hr, leavesOf_refl _, hshort⟩
  | false =>
    have hr : reference ('#' :: x :: rest) =
        .ok (numbered (hexNumber (rest.takeWhile fun c => (hexValue? c).isSome)),
          dropSemicolon (rest.drop (rest.takeWhile fun c => (hexValue? c).isSome).length)) := by
      simp only [reference, hx, if_true, hhex]
      rfl
    have hnumber := leavesOf_drop_length (p := fun c => (hexValue? c).isSome) (by decide) rest
    have hsign : LeavesOf ('#' :: x :: rest) rest :=
      (leavesOf_cons (by decide)).trans (leavesOf_cons hnot)
    exact ⟨_, _, hr, hsign.trans (hnumber.trans (leavesOf_dropSemicolon _)), hshort⟩

theorem reference_decimal_cases {x : Char} (hx : ¬ (x = 'x' ∨ x = 'X')) (rest : Text) :
    (∃ p, reference ('#' :: x :: rest) = .error p ∧ StartsOverlong ('#' :: x :: rest)) ∨
      ∃ value left, reference ('#' :: x :: rest) = .ok (value, left) ∧
        LeavesOf ('#' :: x :: rest) left ∧ ¬ StartsOverlong ('#' :: x :: rest) := by
  rw [startsOverlong_iff]
  by_cases hempty : (x :: rest).takeWhile isAsciiDigit = []
  · have hr : reference ('#' :: x :: rest) = .ok (['&'], '#' :: x :: rest) := by
      simp only [reference, hx, if_false, hempty]
      rfl
    refine .inr ⟨_, _, hr, leavesOf_refl _, ?_⟩
    rw [hempty]
    exact Nat.not_lt_zero _
  · have hne : ((x :: rest).takeWhile isAsciiDigit).isEmpty = false :=
      List.isEmpty_eq_false_iff.mpr hempty
    by_cases hlong : maxDigits < ((x :: rest).takeWhile isAsciiDigit).length
    · have hr : reference ('#' :: x :: rest) =
          .error (.tooManyDigits ((x :: rest).takeWhile isAsciiDigit).length) := by
        simp only [reference, hx, if_false, hne, hlong, if_true]
        rfl
      exact .inl ⟨_, hr, hlong⟩
    · have hr : reference ('#' :: x :: rest) =
          .ok (numbered (Decimal.value ((x :: rest).takeWhile isAsciiDigit)),
            dropSemicolon ((x :: rest).drop ((x :: rest).takeWhile isAsciiDigit).length)) := by
        simp only [reference, hx, if_false, hne, hlong]
        rfl
      have hsign : LeavesOf ('#' :: x :: rest) (x :: rest) := leavesOf_cons (by decide)
      have hnumber : LeavesOf (x :: rest)
          ((x :: rest).drop ((x :: rest).takeWhile isAsciiDigit).length) :=
        leavesOf_drop_length (by decide) _
      exact .inr ⟨_, _, hr, hsign.trans (hnumber.trans (leavesOf_dropSemicolon _)), hlong⟩

/-- A reference fails if it is a number with too many digits, and else leaves what it does not
use. -/
theorem reference_cases (t : Text) :
    (∃ p, reference t = .error p ∧ StartsOverlong t) ∨
      ∃ value rest, reference t = .ok (value, rest) ∧ LeavesOf t rest ∧ ¬ StartsOverlong t := by
  have hname (hr : reference t = .ok (readName t)) (hn : ¬ StartsOverlong t) :
      ∃ value rest, reference t = .ok (value, rest) ∧ LeavesOf t rest ∧ ¬ StartsOverlong t :=
    ⟨_, _, hr, leavesOf_readName t, hn⟩
  cases t with
  | nil =>
    refine .inr (hname rfl ?_)
    rintro ⟨digits, after, he, -⟩
    cases he
  | cons c rest =>
    by_cases hc : c = '#'
    · subst hc
      cases rest with
      | nil =>
        refine .inr (hname rfl ?_)
        rw [startsOverlong_iff]
        exact Nat.not_lt_zero _
      | cons x rest =>
        by_cases hx : x = 'x' ∨ x = 'X'
        · exact .inr (reference_hexadecimal hx rest)
        · exact reference_decimal_cases hx rest
    · refine .inr (hname ?_ ?_)
      · unfold reference
        split
        · rename_i he
          exact absurd (List.cons.inj he).1 hc
        · rfl
      · rintro ⟨digits, after, he, -⟩
        exact hc (List.cons.inj he).1

/-! Decoding -/

theorem decodeUpTo_error_iff {fuel : Nat} (hf : t.length ≤ fuel) :
    (∃ p, decodeUpTo fuel t = .error p) ↔ Overlong t := by
  induction fuel generalizing t with
  | zero =>
    obtain rfl : t = [] := List.length_eq_zero_iff.mp (Nat.le_zero.mp hf)
    simp [decodeUpTo, not_overlong_nil]
  | succ fuel ih =>
    cases t with
    | nil => simp [decodeUpTo, not_overlong_nil]
    | cons c rest =>
      have hlen : rest.length ≤ fuel := by simpa using hf
      by_cases hc : c = '&'
      · subst hc
        rw [overlong_cons_amp]
        rcases reference_cases rest with ⟨p, hr, hs⟩ | ⟨value, left, hr, hleft, hs⟩
        · simp [decodeUpTo, hr, hs, bind, Except.bind]
        · rw [hleft.overlong_iff, ← ih (Nat.le_trans hleft.length_le hlen)]
          cases hd : decodeUpTo fuel left with
          | error p => simp [decodeUpTo, hr, hs, hd, bind, Except.bind]
          | ok t => simp [decodeUpTo, hr, hs, hd, bind, Except.bind, pure, Except.pure]
      · rw [overlong_cons hc, ← ih hlen]
        cases hd : decodeUpTo fuel rest with
        | error p => simp [decodeUpTo, hd, bind, Except.bind]
        | ok t => simp [decodeUpTo, hd, bind, Except.bind, pure, Except.pure]

/-- A text cannot be decoded if it holds a decimal reference with too many digits. -/
theorem decode_error_iff : (∃ p, decode t = .error p) ↔ Overlong t :=
  decodeUpTo_error_iff (le_refl t.length)

end CommitMessage.Page

/-! Everything else about a page, however malformed, costs the detail at most; but a text that is to
be shown and cannot be decoded costs the whole page. -/

namespace CommitMessage.Page

variable {body t : Text}

/-! Tags -/

theorem stripTagsUpTo_of_not_mem {fuel : Nat} (ht : '<' ∉ t) (hf : t.length ≤ fuel) :
    stripTagsUpTo fuel t = t := by
  induction t generalizing fuel with
  | nil => cases fuel <;> rfl
  | cons c rest ih =>
    obtain ⟨hc, hrest⟩ := not_or.mp (List.mem_cons.not.mp ht)
    cases fuel with
    | zero => cases hf
    | succ fuel =>
      rw [stripTagsUpTo, ih hrest (by simpa using hf)]
      exact Ne.symm hc

theorem stripTags_of_not_mem (ht : '<' ∉ t) : stripTags t = t :=
  stripTagsUpTo_of_not_mem ht (le_refl _)

theorem not_mem_of_textBeforeTag? {text : Text} (h : textBeforeTag? t = some text) :
    '<' ∉ text := by
  rw [textBeforeTag?, some?] at h
  split at h
  · cases h
  · cases h
    intro hm
    simpa using List.mem_takeWhile_imp hm

theorem exists_of_firstMatch? {α : Type} {read? : Text → Option α} {found : α}
    (h : firstMatch? read? t = some found) : ∃ t', read? t' = some found := by
  induction t with
  | nil => exact ⟨[], h⟩
  | cons c rest ih =>
    rw [firstMatch?] at h
    split at h
    · rename_i hr
      exact ⟨_, hr.trans h⟩
    · exact ih h

theorem not_mem_of_paragraph? {text : Text}
    (h : (messageSection? body >>= paragraph?) = some text) : '<' ∉ text := by
  obtain ⟨content, -, hp⟩ := Option.bind_eq_some_iff.mp h
  obtain ⟨t', hr⟩ := exists_of_firstMatch? hp
  obtain ⟨after, -, htext⟩ := Option.bind_eq_some_iff.mp hr
  exact not_mem_of_textBeforeTag? htext

theorem not_mem_of_overviewMessage? {text : Text}
    (h : (overviewList? body >>= overviewMessage?) = some text) : '<' ∉ text := by
  obtain ⟨overview, -, hp⟩ := Option.bind_eq_some_iff.mp h
  obtain ⟨t', hr⟩ := exists_of_firstMatch? hp
  obtain ⟨_, -, hr⟩ := Option.bind_eq_some_iff.mp hr
  obtain ⟨after, -, htext⟩ := Option.bind_eq_some_iff.mp hr
  exact not_mem_of_textBeforeTag? htext

/-! Details -/

/-- The title of a ticket cannot be decoded. -/
def TicketUnreadable (body : Text) : Prop :=
  ∃ first number title fields rows,
    tableRows body = .ok (first :: (number :: title :: fields) :: rows) ∧ Overlong title

/-- The paragraph of the message cannot be decoded, or the one of the overview if there is no
paragraph that shows something. -/
def ChangesetUnreadable (body : Text) : Prop :=
  (∃ t, (messageSection? body >>= paragraph?) = some t ∧ Overlong t) ∨
    messageDetail? (messageSection? body >>= paragraph?) = .ok none ∧
      ∃ t, (overviewList? body >>= overviewMessage?) = some t ∧ Overlong t

/-- The title of the page of a profile cannot be decoded. -/
def ProfileUnreadable (body : Text) : Prop := ∃ t, pageTitle? body = some t ∧ Overlong t

theorem error_bind_pure_iff {α β : Type} (x : Except Problem α) (f : α → β) :
    (∃ p, (do return f (← x) : Except Problem β) = .error p) ↔ ∃ p, x = .error p := by
  cases x <;> simp [bind, Except.bind, pure, Except.pure]

theorem ticketTitle_error_iff : (∃ p, ticketTitle body = .error p) ↔ TicketUnreadable body := by
  rw [ticketTitle, TicketUnreadable]
  split
  · rename_i first number title fields rows hrows
    rw [error_bind_pure_iff (decode title) fun text => some? text.trim, decode_error_iff]
    refine ⟨fun ho => ⟨_, _, _, _, _, hrows, ho⟩, ?_⟩
    rintro ⟨_, _, _, _, _, hrows', ho⟩
    rw [hrows] at hrows'
    cases hrows'
    exact ho
  · rename_i hno
    constructor
    · rintro ⟨p, hp⟩
      cases hp
    · rintro ⟨_, _, _, _, _, hrows, -⟩
      exact (hno _ _ _ _ _ hrows).elim

theorem profileName_error_iff : (∃ p, profileName body = .error p) ↔ ProfileUnreadable body := by
  rw [profileName, ProfileUnreadable]
  cases ht : pageTitle? body with
  | none => simp
  | some title =>
    dsimp only
    rw [error_bind_pure_iff (decode title) nameBeforeHandle?, decode_error_iff]
    simp

theorem firstMatch?_of_eq_some {α : Type} {read? : Text → Option α} {found : α}
    (h : read? t = some found) : firstMatch? read? t = some found := by
  cases t with
  | nil => exact h
  | cons c rest => rw [firstMatch?, h]

theorem skipCaseless?_append (lead : Text) (h : lead.map Trailer.caseless = lead) (t : Text) :
    skipCaseless? lead (lead ++ t) = some t := by
  rw [skipCaseless?, List.take_left, List.drop_left, if_pos h]

theorem pageTitle?_of_not_mem (hne : t ≠ []) (ht : '<' ∉ t) :
    pageTitle? ("<title>".toList ++ (t ++ "</title>".toList)) = some t := by
  have htitle : textBeforeTag? (t ++ "</title>".toList) = some t := by
    have htake : (t ++ "</title>".toList).takeWhile (· != '<') = t := by
      rw [List.takeWhile_append_of_pos fun c hc => by
        simpa using fun he : c = '<' => ht (he ▸ hc)]
      simp
    rw [textBeforeTag?, htake, some?, if_neg (by simpa using hne)]
  have hclose : skipCaseless? "</title>".toList ((t ++ "</title>".toList).drop t.length) =
      some [] := by
    rw [List.drop_left]
    rfl
  have hopen := skipCaseless?_append "<title>".toList rfl (t ++ "</title>".toList)
  rw [pageTitle?]
  apply firstMatch?_of_eq_some
  simp only [hopen, htitle, hclose, bind, Option.bind, pure]

/-- A page whose title is a decimal reference with one digit too many. -/
def overlongTitle : Text :=
  "<title>".toList ++ ('&' :: '#' :: List.replicate (maxDigits + 1) '1' ++ "</title>".toList)

theorem overlong_replicate {n : Nat} (hn : maxDigits < n) :
    Overlong ('&' :: '#' :: List.replicate n '1') := by
  refine ⟨[], '#' :: List.replicate n '1', rfl, List.replicate n '1', [], by simp, ?_, ?_⟩
  · simpa using hn
  · intro d hd
    rw [List.eq_of_mem_replicate hd]
    rfl

theorem profileUnreadable_overlongTitle : ProfileUnreadable overlongTitle := by
  refine ⟨_, pageTitle?_of_not_mem (by simp) ?_, overlong_replicate (Nat.lt_succ_self maxDigits)⟩
  simp

/-- A page that costs more than the detail. -/
theorem exists_profileName_error : ∃ p, profileName overlongTitle = .error p :=
  profileName_error_iff.mpr profileUnreadable_overlongTitle

theorem messageDetail?_error_iff {found : Option Text} (hn : ∀ t, found = some t → '<' ∉ t) :
    (∃ p, messageDetail? found = .error p) ↔ ∃ t, found = some t ∧ Overlong t := by
  cases found with
  | none => simp [messageDetail?]
  | some t =>
    rw [messageDetail?]
    rw [error_bind_pure_iff (cleanText t) fun text =>
      (some? text).map fun message => truncate (onePeriod message)]
    rw [cleanText,
      error_bind_pure_iff (decode (stripTags t)) fun text => (collapseBlanks text).trim,
      decode_error_iff, stripTags_of_not_mem (hn t rfl)]
    simp

theorem changesetMessage_error_iff :
    (∃ p, changesetMessage body = .error p) ↔ ChangesetUnreadable body := by
  rw [ChangesetUnreadable, ← messageDetail?_error_iff fun t => not_mem_of_paragraph?,
    ← messageDetail?_error_iff fun t => not_mem_of_overviewMessage?, changesetMessage]
  cases messageDetail? (messageSection? body >>= paragraph?) with
  | error p => simp [bind, Except.bind]
  | ok detail => cases detail <;> simp [bind, Except.bind, pure, Except.pure]

end CommitMessage.Page

namespace CommitMessage.Reference

/-- Whether a page says that its reference exists. -/
def existsBy (kind : Kind) (body : Text) : Bool :=
  match kind with
  | .ticket => Page.ticketExists body
  | .changeset => Page.changesetExists body
  | .profile => true

/-- The reference exists, and the detail cannot be read. -/
def Unreadable (kind : Kind) (body : Text) : Prop :=
  existsBy kind body = true ∧
    match kind with
    | .ticket => Page.TicketUnreadable body
    | .changeset => Page.ChangesetUnreadable body
    | .profile => Page.ProfileUnreadable body

theorem readPage_cases (kind : Kind) (body : Text) :
    Unreadable kind body ∧ (∃ p, readPage kind body = .error p) ∨
      ¬ Unreadable kind body ∧ ∃ detail, readPage kind body = .ok ⟨existsBy kind body, detail⟩ := by
  have hfound {x : Except Page.Problem (Option Text)} {P : Prop} (hx : (∃ p, x = .error p) ↔ P) :
      P ∧ (∃ p, (x.map (⟨true, ·⟩) : Except Page.Problem Verdict) = .error p) ∨
        ¬ P ∧ ∃ detail, (x.map (⟨true, ·⟩) : Except Page.Problem Verdict) = .ok ⟨true, detail⟩ := by
    cases x with
    | error p => exact .inl ⟨hx.mp ⟨p, rfl⟩, p, rfl⟩
    | ok detail => exact .inr ⟨fun h => by simpa using hx.mpr h, detail, rfl⟩
  cases kind with
  | ticket =>
    cases he : Page.ticketExists body with
    | false =>
      exact .inr ⟨by simp [Unreadable, existsBy, he], none, by simp [readPage, existsBy, he]⟩
    | true => simpa [Unreadable, existsBy, he, readPage] using hfound Page.ticketTitle_error_iff
  | changeset =>
    cases he : Page.changesetExists body with
    | false =>
      exact .inr ⟨by simp [Unreadable, existsBy, he], none, by simp [readPage, existsBy, he]⟩
    | true =>
      simpa [Unreadable, existsBy, he, readPage] using hfound Page.changesetMessage_error_iff
  | profile => simpa [Unreadable, existsBy, readPage] using hfound Page.profileName_error_iff

end CommitMessage.Reference
