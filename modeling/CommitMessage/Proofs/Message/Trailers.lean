import CommitMessage.Trailer
import Mathlib

/-! A trailer is its whole line taken apart, and the entries of a username list stand at their
columns, one after the other. A line opens one kind of trailer at most. -/

namespace CommitMessage

namespace Text

variable {p : Char → Bool} {t rest : Text}

theorem takeWhile_append_of_skipSome? (h : skipSome? p t = some rest) :
    t.takeWhile p ++ rest = t := by
  cases t with
  | nil => cases h
  | cons c t =>
    by_cases hc : p c = true
    · rw [skipSome?, if_pos hc] at h
      cases h
      rw [List.takeWhile_cons_of_pos hc, List.cons_append, List.takeWhile_append_dropWhile]
    · rw [skipSome?, if_neg hc] at h
      cases h

theorem takeWhile_ne_nil_of_skipSome? (h : skipSome? p t = some rest) : t.takeWhile p ≠ [] := by
  cases t with
  | nil => cases h
  | cons c t =>
    by_cases hc : p c = true
    · rw [List.takeWhile_cons_of_pos hc]
      exact List.cons_ne_nil _ _
    · rw [skipSome?, if_neg hc] at h
      cases h

/-- A run of characters of a class ends where a character of another class comes. -/
theorem takeWhile_append_of_head? {run : Text} (hrun : ∀ c ∈ run, p c = true)
    (hrest : ∀ c ∈ rest.head?, p c = false) : (run ++ rest).takeWhile p = run ∧
      (run ++ rest).dropWhile p = rest := by
  rw [List.takeWhile_append_of_pos hrun, List.dropWhile_append_of_pos hrun]
  cases rest with
  | nil => simp
  | cons c rest =>
    have hc : ¬ p c = true := by simp [hrest c rfl]
    rw [List.takeWhile_cons_of_neg hc, List.dropWhile_cons_of_neg hc, List.append_nil]
    exact ⟨rfl, rfl⟩

theorem not_of_head?_dropWhile {c : Char} (hc : c ∈ (t.dropWhile p).head?) : p c = false := by
  have hnot := List.head?_dropWhile_not p t
  rw [hc] at hnot
  simpa using hnot

theorem joinWith_cons_cons (separator : Text) (c : Char) (part : Text) (parts : List Text) :
    joinWith separator ((c :: part) :: parts) = c :: joinWith separator (part :: parts) := by
  cases parts <;> rfl

theorem pieces_cons (separator c : Char) (t : Text) :
    (∃ part parts, t.pieces separator = part :: parts ∧
      pieces separator (c :: t) =
        if c = separator then [] :: part :: parts else (c :: part) :: parts) := by
  induction t generalizing c with
  | nil => exact ⟨[], [], rfl, rfl⟩
  | cons d t ih =>
    obtain ⟨part, parts, -, he⟩ := ih d
    have hc (part : Text) (parts : List Text) (h : pieces separator (d :: t) = part :: parts) :
        pieces separator (c :: d :: t) =
          if c = separator then [] :: part :: parts else (c :: part) :: parts := by
      rw [pieces, List.foldr_cons, ← pieces, h]
    split at he
    · exact ⟨_, _, he, hc _ _ he⟩
    · exact ⟨_, _, he, hc _ _ he⟩

/-- Nothing is lost when text is cut. -/
theorem joinWith_pieces (separator : Char) (t : Text) :
    joinWith [separator] (t.pieces separator) = t := by
  induction t with
  | nil => rfl
  | cons c t ih =>
    obtain ⟨part, parts, ht, hc⟩ := pieces_cons separator c t
    rw [ht] at ih
    rw [hc]
    split
    · next he =>
      rw [joinWith, ih, he]
      · rfl
      · nofun
    · rw [joinWith_cons_cons, ih]

theorem trimEnd_isPrefix (t : Text) : t.trimEnd <+: t := List.rdropWhile_prefix isBlank t

theorem trimEnd_eq_nil_iff : t.trimEnd = [] ↔ ∀ c ∈ t, isBlank c = true :=
  List.rdropWhile_eq_nil_iff

theorem trimEnd_append_of_ne_nil (lead : Text) (h : t.trimEnd ≠ []) :
    (lead ++ t).trimEnd = lead ++ t.trimEnd := by
  have hn : t.reverse.dropWhile isBlank ≠ [] := fun he => h (by rw [trimEnd, he, List.reverse_nil])
  rw [trimEnd, trimEnd, List.reverse_append, List.dropWhile_append, if_neg (by simpa using hn),
    List.reverse_append, List.reverse_reverse]

theorem trimEnd_append_of_blank (lead : Text) (h : ∀ c ∈ t, isBlank c = true) :
    (lead ++ t).trimEnd = lead.trimEnd := by
  rw [trimEnd, trimEnd, List.reverse_append,
    List.dropWhile_append_of_pos fun c hc => h c (List.mem_reverse.mp hc)]

theorem dropFinal_isPrefix (c : Char) (t : Text) : t.dropFinal c <+: t := by
  unfold dropFinal
  split
  · exact List.dropLast_prefix t
  · exact List.prefix_refl t

/-- A text is its trimmed form between the blanks at its ends. -/
theorem exists_trim_append (t : Text) : ∃ after, t = t.takeWhile isBlank ++ t.trim ++ after ∧
    ∀ c ∈ after, isBlank c = true := by
  refine ⟨t.trimStart.rtakeWhile isBlank, ?_, fun c => List.mem_rtakeWhile_imp⟩
  have hend : t.trim ++ t.trimStart.rtakeWhile isBlank = t.trimStart :=
    List.rdropWhile_append_rtakeWhile
  rw [List.append_assoc, hend, trimStart, List.takeWhile_append_dropWhile]

end Text

namespace Trailer

/-- A character that a mark can cover. -/
def Mark.covers (c : Char) : Mark → Bool
  | .letter m => caseless c == m
  | .spaceOrHyphen => c == ' ' || c == '-'
  | .blanks => isBlank c

/-- What the first mark covers, and what is left of the line for the others. -/
theorem Mark.take?_cons {mark : Mark} {marks : List Mark} {line written rest : Text}
    (h : Mark.take? (mark :: marks) line = some (written, rest)) : ∃ first line' seen,
      line = first ++ line' ∧ written = first ++ seen ∧ (∀ c ∈ first, mark.covers c = true) ∧
        Mark.take? marks line' = some (seen, rest) := by
  cases line with
  | nil => cases mark <;> cases h
  | cons c line =>
    cases mark with
    | letter m =>
      unfold Mark.take? at h
      split at h
      · next hc =>
        obtain ⟨⟨seen, rest⟩, hs, he⟩ := Option.map_eq_some_iff.mp h
        cases he
        exact ⟨[c], line, seen, rfl, rfl, by simpa [Mark.covers] using hc, hs⟩
      · cases h
    | spaceOrHyphen =>
      unfold Mark.take? at h
      split at h
      · next hc =>
        obtain ⟨⟨seen, rest⟩, hs, he⟩ := Option.map_eq_some_iff.mp h
        cases he
        exact ⟨[c], line, seen, rfl, rfl, by simpa [Mark.covers] using hc, hs⟩
      · cases h
    | blanks =>
      unfold Mark.take? at h
      split at h
      · next hc =>
        obtain ⟨⟨seen, rest⟩, hs, he⟩ := Option.map_eq_some_iff.mp h
        cases he
        refine ⟨c :: line.takeWhile isBlank, line.dropWhile isBlank, seen, ?_, rfl, ?_, hs⟩
        · rw [List.cons_append, List.takeWhile_append_dropWhile]
        · intro d hd
          rcases List.mem_cons.mp hd with rfl | hd
          · exact hc
          · exact List.mem_takeWhile_imp (p := isBlank) hd
      · cases h

theorem Mark.append_of_take? {marks : List Mark} {line seen rest : Text}
    (h : Mark.take? marks line = some (seen, rest)) : seen ++ rest = line := by
  induction marks generalizing line seen with
  | nil =>
    cases h
    rfl
  | cons mark marks ih =>
    obtain ⟨first, line', later, rfl, rfl, -, hs⟩ := Mark.take?_cons h
    rw [List.append_assoc, ih hs]

variable {t : Trailer} {line : Text}

theorem Kind.append_of_read? {kind : Kind} (h : kind.read? line = some t) :
    t.written ++ t.gap ++ t.content = line := by
  obtain ⟨⟨written, rest⟩, hw, h⟩ := Option.bind_eq_some_iff.mp h
  obtain ⟨content, hc, h⟩ := Option.bind_eq_some_iff.mp h
  cases h
  rw [List.append_assoc, Text.takeWhile_append_of_skipSome? hc, Mark.append_of_take? hw]

theorem append_of_ofLine? (h : ofLine? line = some t) :
    t.written ++ t.gap ++ t.content = line := by
  obtain ⟨kind, -, hk⟩ := List.exists_of_findSome?_eq_some h
  exact Kind.append_of_read? hk

end Trailer

/-! Username lists -/

namespace UsernameToken

variable {token : UsernameToken} {column : Nat} {entries : List Text}

theorem le_column (h : token ∈ ofEntries column entries) : column ≤ token.column := by
  induction entries generalizing column with
  | nil => cases h
  | cons entry entries ih =>
    rcases List.mem_cons.mp h with rfl | h
    · exact Nat.le_add_right _ _
    · have hle := ih h
      omega

/-- Each token ends before the next begins, as a comma comes in between. -/
theorem pairwise_columnEnd (column : Nat) (entries : List Text) :
    (ofEntries column entries).Pairwise fun a b => a.columnEnd < b.column := by
  induction entries generalizing column with
  | nil => exact .nil
  | cons entry entries ih =>
    refine List.pairwise_cons.mpr ⟨fun token ht => ?_, ih _⟩
    have hle := le_column ht
    obtain ⟨after, ha, -⟩ := Text.exists_trim_append entry
    have hlength := congrArg List.length ha
    simp only [List.length_append] at hlength
    simp only [columnEnd]
    omega

/-- The text of a token stands at its column, and what stands before it is a blank or a comma, if
anything is. -/
theorem text_at (h : token ∈ ofEntries column entries) : ∃ before after,
    Text.joinWith [','] entries = before ++ token.text ++ after ∧
      column + before.length = token.column ∧
      ∀ c ∈ before.getLast?, isBlank c = true ∨ c = ',' := by
  induction entries generalizing column with
  | nil => cases h
  | cons entry entries ih =>
    rcases List.mem_cons.mp h with rfl | h
    · obtain ⟨after, ha, -⟩ := Text.exists_trim_append entry
      have hjoin : ∃ more, Text.joinWith [','] (entry :: entries) = entry ++ more := by
        cases entries with
        | nil => exact ⟨[], (List.append_nil _).symm⟩
        | cons next entries =>
          exact ⟨[','] ++ Text.joinWith [','] (next :: entries), List.append_assoc ..⟩
      obtain ⟨more, hm⟩ := hjoin
      refine ⟨entry.takeWhile isBlank, after ++ more, ?_, rfl, ?_⟩
      · rw [hm, ← List.append_assoc, ← ha]
      · intro c hc
        exact .inl (List.mem_takeWhile_imp (List.mem_of_getLast? hc))
    · obtain ⟨before, after, he, hl, hb⟩ := ih h
      cases entries with
      | nil => cases h
      | cons next entries =>
        refine ⟨entry ++ [','] ++ before, after, ?_, ?_, ?_⟩
        · rw [Text.joinWith, he]
          · simp only [List.append_assoc]
          · nofun
        · rw [← hl]
          simp only [List.length_append, List.length_singleton]
          omega
        · intro c hc
          cases before with
          | nil => exact .inr (by simpa using hc.symm)
          | cons d before =>
            rw [List.getLast?_append_of_ne_nil _ (List.cons_ne_nil _ _)] at hc
            exact hb c hc

end UsernameToken

namespace Trailer

variable {t : Trailer} {line : Text} {token : UsernameToken}

theorem gap_of_ofLine? (h : ofLine? line = some t) :
    t.gap ≠ [] ∧ ∀ c ∈ t.gap, isBlank c = true := by
  obtain ⟨kind, -, hk⟩ := List.exists_of_findSome?_eq_some h
  obtain ⟨⟨written, rest⟩, -, hk⟩ := Option.bind_eq_some_iff.mp hk
  obtain ⟨content, hc, hk⟩ := Option.bind_eq_some_iff.mp hk
  cases hk
  exact ⟨Text.takeWhile_ne_nil_of_skipSome? hc, fun c hm => List.mem_takeWhile_imp hm⟩

/-- A token of a username list stands at its column, right after a blank or a comma. -/
theorem exists_before_username (hl : ofLine? line = some t) (h : token ∈ t.usernames) :
    ∃ before c after, line = before ++ c :: (token.text ++ after) ∧
      before.length + 1 = token.column ∧ (isBlank c = true ∨ c = ',') := by
  obtain ⟨before, after, he, hc, hb⟩ := UsernameToken.text_at h
  rw [Text.joinWith_pieces] at he
  obtain ⟨more, hm⟩ :=
    (Text.dropFinal_isPrefix '.' t.content.trimEnd).trans (Text.trimEnd_isPrefix t.content)
  have hline : line = t.written ++ t.gap ++ before ++ token.text ++ (after ++ more) := by
    rw [← append_of_ofLine? hl, ← hm, he]
    simp only [List.append_assoc]
  obtain ⟨hgap, hblank⟩ := gap_of_ofLine? hl
  obtain ⟨lead, c, hlead⟩ := List.eq_nil_or_concat (t.written ++ t.gap ++ before)
    |>.resolve_left fun he => hgap (by simp_all)
  rw [List.concat_eq_append] at hlead
  refine ⟨lead, c, after ++ more, ?_, ?_, ?_⟩
  · rw [hline, hlead]
    simp only [List.append_assoc, List.cons_append, List.nil_append]
  · have hlength := congrArg List.length hlead
    simp only [List.length_append, List.length_singleton] at hlength
    rw [contentStart] at hc
    omega
  · have hlast : (t.written ++ t.gap ++ before).getLast? = some c := by rw [hlead]; simp
    cases before with
    | nil =>
      rw [List.append_nil, List.getLast?_append_of_ne_nil _ hgap] at hlast
      exact .inl (hblank c (List.mem_of_getLast? hlast))
    | cons d before =>
      rw [List.getLast?_append_of_ne_nil _ (List.cons_ne_nil _ _)] at hlast
      exact hb c hlast

theorem usernames_at (hl : ofLine? line = some t) (h : token ∈ t.usernames) : ∃ before after,
    line = before ++ token.text ++ after ∧ before.length = token.column := by
  obtain ⟨before, c, after, he, hc, -⟩ := exists_before_username hl h
  exact ⟨before ++ [c], after, by simp [he], by simpa using hc⟩

theorem pairwise_usernames (t : Trailer) : t.usernames.Pairwise fun a b => a.column < b.column :=
  (UsernameToken.pairwise_columnEnd _ _).imp fun h => Nat.lt_of_le_of_lt (Nat.le_add_right _ _) h

end Trailer

end CommitMessage

/-! Keywords: each begins with two letters that no other keyword begins with, and the case of the
letters decides nothing. -/

namespace CommitMessage

/-! Letters in either case -/

/-- What takes every capital letter for the small one takes every text so. -/
theorem apply_toLower {α : Type} {f : Char → α}
    (hf : ∀ n < 26, f (Char.ofNat (65 + n)).toLower = f (Char.ofNat (65 + n))) (c : Char) :
    f c.toLower = f c := by
  by_cases hc : c.isUpper = true
  · obtain ⟨hfirst, hlast⟩ : 65 ≤ c.toNat ∧ c.toNat ≤ 90 := by
      simpa [Char.isUpper, UInt32.le_iff_toNat_le] using hc
    have hn := hf (c.toNat - 65) (by omega)
    rwa [show 65 + (c.toNat - 65) = c.toNat by omega, Char.ofNat_toNat] at hn
  · rw [Char.toLower, dif_neg (by simpa [Char.isUpper] using hc)]

theorem isBlank_toLower (c : Char) : isBlank c.toLower = isBlank c :=
  apply_toLower (by decide) c

namespace Text

theorem takeWhile_map_toLower (t : Text) :
    (t.map Char.toLower).takeWhile isBlank = (t.takeWhile isBlank).map Char.toLower := by
  rw [List.takeWhile_map]
  congr 2
  exact funext isBlank_toLower

theorem dropWhile_map_toLower (t : Text) :
    (t.map Char.toLower).dropWhile isBlank = (t.dropWhile isBlank).map Char.toLower := by
  rw [List.dropWhile_map]
  congr 2
  exact funext isBlank_toLower

theorem skipSome?_map_toLower (t : Text) :
    skipSome? isBlank (t.map Char.toLower) = (skipSome? isBlank t).map (·.map Char.toLower) := by
  cases t with
  | nil => rfl
  | cons c t =>
    rw [List.map_cons, skipSome?, skipSome?, isBlank_toLower, dropWhile_map_toLower]
    split <;> rfl

theorem not_of_head?_skipSome? {p : Char → Bool} {t rest : Text} (h : skipSome? p t = some rest) :
    ∀ c ∈ rest.head?, p c = false := by
  cases t with
  | nil => cases h
  | cons c t =>
    rw [skipSome?] at h
    split at h
    · rw [← Option.some.inj h]
      exact fun _ hc => not_of_head?_dropWhile hc
    · cases h

end Text

namespace Trailer

variable {marks : List Mark} {line line' written rest : Text} {t : Trailer} {kind : Kind}

theorem caseless_toLower (c : Char) : caseless c.toLower = caseless c :=
  apply_toLower (by decide) c

theorem eq_spaceOrHyphen_toLower (c : Char) :
    (c.toLower = ' ' ∨ c.toLower = '-') = (c = ' ' ∨ c = '-') :=
  apply_toLower (f := fun c => c = ' ' ∨ c = '-') (fun n hn => propext (by decide +revert)) c

/-- The marks cover the same places of a line in small letters. -/
theorem Mark.take?_map_toLower (marks : List Mark) (line : Text) :
    Mark.take? marks (line.map Char.toLower) =
      (Mark.take? marks line).map fun found =>
        (found.1.map Char.toLower, found.2.map Char.toLower) := by
  induction marks generalizing line with
  | nil => rfl
  | cons mark marks ih =>
    cases line with
    | nil => cases mark <;> rfl
    | cons c line =>
      cases mark with
      | letter m =>
        rw [List.map_cons, Mark.take?, Mark.take?, caseless_toLower, ih]
        split <;> simp [Function.comp_def]
      | spaceOrHyphen =>
        rw [List.map_cons, Mark.take?, Mark.take?, ih]
        simp only [eq_spaceOrHyphen_toLower]
        split <;> simp [Function.comp_def]
      | blanks =>
        rw [List.map_cons, Mark.take?, Mark.take?, isBlank_toLower, Text.takeWhile_map_toLower,
          Text.dropWhile_map_toLower, ih]
        split <;> simp [Function.comp_def]

/-- A trailer written in small letters. -/
def lower (t : Trailer) : Trailer :=
  { kind := t.kind
    written := t.written.map Char.toLower
    gap := t.gap.map Char.toLower
    content := t.content.map Char.toLower }

theorem contentStart_lower (t : Trailer) : t.lower.contentStart = t.contentStart := by
  simp [contentStart, lower]

theorem Kind.read?_map_toLower (kind : Kind) (line : Text) :
    kind.read? (line.map Char.toLower) = (kind.read? line).map lower := by
  rw [Kind.read?, Kind.read?, Mark.take?_map_toLower]
  cases Mark.take? kind.marks line with
  | none => rfl
  | some found =>
    obtain ⟨written, rest⟩ := found
    simp only [Option.map_some, Option.bind_eq_bind, Option.bind_some, Text.skipSome?_map_toLower,
      Text.takeWhile_map_toLower]
    cases Text.skipSome? isBlank rest <;> rfl

theorem ofLine?_map_toLower (line : Text) :
    ofLine? (line.map Char.toLower) = (ofLine? line).map lower := by
  have hall (kinds : List Kind) : kinds.findSome? (·.read? (line.map Char.toLower)) =
      (kinds.findSome? (·.read? line)).map lower := by
    induction kinds with
    | nil => rfl
    | cons kind kinds ih =>
      rw [List.findSome?_cons, List.findSome?_cons, Kind.read?_map_toLower, ih]
      cases kind.read? line <;> rfl
  exact hall Kind.all

/-! One kind at most -/

theorem Mark.map_caseless_of_take? {letters : Text}
    (h : Mark.take? (letters.map .letter ++ marks) line = some (written, rest)) :
    (line.take letters.length).map caseless = letters := by
  induction letters generalizing line written with
  | nil => rfl
  | cons m letters ih =>
    cases line with
    | nil => cases h
    | cons c line =>
      rw [List.map_cons, List.cons_append, Mark.take?] at h
      split at h
      · next hc =>
        obtain ⟨⟨seen, left⟩, hs, he⟩ := Option.map_eq_some_iff.mp h
        obtain rfl : left = rest := (Prod.mk.inj he).2
        rw [List.length_cons, List.take_succ_cons, List.map_cons, hc, ih hs]
      · cases h

/-- The letters by which a keyword is told from the others. -/
def Kind.opening (kind : Kind) : Text := kind.name.take 2

theorem Kind.opening_injective : Function.Injective Kind.opening := by
  intro kind kind' h
  cases kind <;> cases kind' <;> first | rfl | exact absurd h (by decide)

theorem Kind.exists_marks_eq (kind : Kind) :
    ∃ marks, kind.marks = kind.opening.map .letter ++ marks := by
  cases kind <;> exact ⟨_, rfl⟩

theorem Kind.map_caseless_of_read? (h : kind.read? line = some t) :
    (line.take 2).map caseless = kind.opening := by
  obtain ⟨⟨written, rest⟩, hw, -⟩ := Option.bind_eq_some_iff.mp h
  obtain ⟨marks, hm⟩ := kind.exists_marks_eq
  have hlength : kind.opening.length = 2 := by cases kind <;> rfl
  rw [hm] at hw
  have hletters := Mark.map_caseless_of_take? hw
  rwa [hlength] at hletters

theorem Kind.eq_of_read? {kind' : Kind} {t' : Trailer} (h : kind.read? line = some t)
    (h' : kind'.read? line = some t') : kind = kind' :=
  opening_injective ((map_caseless_of_read? h).symm.trans (map_caseless_of_read? h'))

/-- Whichever kinds a line is tried against, and in whichever order. -/
theorem findSome?_read?_eq_some_iff {kinds : List Kind} :
    kinds.findSome? (·.read? line) = some t ↔ ∃ kind ∈ kinds, kind.read? line = some t := by
  refine ⟨List.exists_of_findSome?_eq_some, ?_⟩
  rintro ⟨kind, hk, ht⟩
  cases hf : kinds.findSome? (·.read? line) with
  | none =>
    rw [List.findSome?_eq_none_iff.mp hf kind hk] at ht
    cases ht
  | some t' =>
    obtain ⟨kind', -, ht'⟩ := List.exists_of_findSome?_eq_some hf
    rw [Kind.eq_of_read? ht' ht, ht] at ht'
    exact ht'.symm

theorem findSome?_read?_of_perm {kinds : List Kind} (h : kinds.Perm Kind.all) :
    kinds.findSome? (·.read? line) = ofLine? line := by
  refine Option.ext fun t => ?_
  rw [ofLine?, findSome?_read?_eq_some_iff, findSome?_read?_eq_some_iff]
  exact exists_congr fun kind => and_congr_left' h.mem_iff

/-! The parts of a line -/

theorem drop_contentStart (h : ofLine? line = some t) : line.drop t.contentStart = t.content := by
  rw [← append_of_ofLine? h, contentStart, ← List.length_append, List.drop_left]

theorem not_isBlank_of_head?_content (h : ofLine? line = some t) :
    ∀ c ∈ t.content.head?, isBlank c = false := by
  obtain ⟨kind, -, hk⟩ := List.exists_of_findSome?_eq_some h
  obtain ⟨⟨written, rest⟩, -, hk⟩ := Option.bind_eq_some_iff.mp hk
  obtain ⟨content, hc, hk⟩ := Option.bind_eq_some_iff.mp hk
  cases hk
  exact Text.not_of_head?_skipSome? hc

theorem read?_kind (h : ofLine? line = some t) : t.kind.read? line = some t := by
  obtain ⟨kind, -, hk⟩ := List.exists_of_findSome?_eq_some h
  have hkind : t.kind = kind := by
    obtain ⟨⟨written, rest⟩, -, he⟩ := Option.bind_eq_some_iff.mp hk
    obtain ⟨content, -, he⟩ := Option.bind_eq_some_iff.mp he
    cases he
    rfl
  rwa [hkind]

/-- A line is read as one kind of trailer at most, in whichever order the kinds are tried. It is
then the keyword, some blanks, and the content, which begins at its place and with no blank. A line
that differs in the case of ASCII letters is read as the same kind, with the same place. -/
theorem ofLine?_determined (hcase : line'.map Char.toLower = line.map Char.toLower) :
    (∀ kind kind' : Kind, (kind.read? line).isSome = true → (kind'.read? line).isSome = true →
      kind = kind') ∧
    (∀ kinds : List Kind, kinds.Perm Kind.all →
      kinds.findSome? (·.read? line) = ofLine? line) ∧
    (∀ t, ofLine? line = some t →
      t.kind.read? line = some t ∧ line = t.written ++ t.gap ++ t.content ∧
      t.gap ≠ [] ∧ (∀ c ∈ t.gap, isBlank c = true) ∧
      (t.written ++ t.gap).length = t.contentStart ∧ line.drop t.contentStart = t.content ∧
      ∀ c ∈ t.content.head?, isBlank c = false) ∧
    (ofLine? line').map (fun t => (t.kind, t.contentStart)) =
      (ofLine? line).map fun t => (t.kind, t.contentStart) := by
  refine ⟨fun kind kind' h h' => ?_, fun kinds => findSome?_read?_of_perm, fun t h => ?_, ?_⟩
  · obtain ⟨t, ht⟩ := Option.isSome_iff_exists.mp h
    obtain ⟨t', ht'⟩ := Option.isSome_iff_exists.mp h'
    exact Kind.eq_of_read? ht ht'
  · obtain ⟨hgap, hblank⟩ := gap_of_ofLine? h
    exact ⟨read?_kind h, (append_of_ofLine? h).symm, hgap, hblank, List.length_append,
      drop_contentStart h, not_isBlank_of_head?_content h⟩
  · have hlower (line : Text) : (ofLine? line).map (fun t => (t.kind, t.contentStart)) =
        (ofLine? (line.map Char.toLower)).map fun t => (t.kind, t.contentStart) := by
      rw [ofLine?_map_toLower, Option.map_map]
      refine congrArg (Option.map · _) (funext fun t => ?_)
      exact congrArg (t.kind, ·) (contentStart_lower t).symm
    rw [hlower line', hcase, ← hlower line]

theorem ofLine?_determined_longS :
    let line := "FıXeſ\t #1.".toList
    let line' := "fıxEſ\t #1.".toList
    line'.map Char.toLower = line.map Char.toLower ∧
      (∀ kind : Kind, (kind.read? line).isSome = true → kind = .fixes) ∧
      line.drop 7 = "#1.".toList ∧
      (ofLine? line').map (fun t => (t.kind, t.contentStart)) = some (.fixes, 7) := by
  intro line line'
  have hcase : line'.map Char.toLower = line.map Char.toLower := by decide
  have hread : ofLine? line =
      some ⟨.fixes, "FıXeſ".toList, "\t ".toList, "#1.".toList⟩ := by decide
  obtain ⟨hone, -, hparts, hsame⟩ := ofLine?_determined hcase
  obtain ⟨hkind, -, -, -, -, hdrop, -⟩ := hparts _ hread
  rw [hread] at hsame
  exact ⟨hcase, fun kind hk => hone kind .fixes hk (Option.isSome_of_mem hkind), hdrop, hsame⟩

end Trailer

end CommitMessage
