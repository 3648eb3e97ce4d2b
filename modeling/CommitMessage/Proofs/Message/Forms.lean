import CommitMessage.Proofs.Message.Agreement
import CommitMessage.Proofs.Message.Summaries

/-! How the lines of a message are to be written, and that such a line is read as it is meant.
No rule about single lines, that on backticks apart, finds anything on it. -/

namespace CommitMessage

/-! Characters -/

theorem exists_of_inRanges {n : Nat} {ranges : List (Nat × Nat)} (h : inRanges n ranges = true) :
    ∃ range ∈ ranges, range.1 ≤ n ∧ n ≤ range.2 := by
  induction ranges with
  | nil => cases h
  | cons range ranges ih =>
    by_cases hfirst : n < range.1
    · simp [inRanges, hfirst] at h
    · by_cases hlast : n ≤ range.2
      · exact ⟨range, List.mem_cons_self, by omega, hlast⟩
      · obtain ⟨other, hm, hb⟩ := ih (by simpa [inRanges, hfirst, hlast] using h)
        exact ⟨other, List.mem_cons_of_mem _ hm, hb⟩

/-- What no blank has is checked on their ranges. -/
theorem eq_false_of_isBlank {p : Nat → Bool} {c : Char} (h : isBlank c = true)
    (hp : ∀ range ∈ blankRanges, ∀ k < range.2 + 1 - range.1, p (range.1 + k) = false) :
    p c.toNat = false := by
  obtain ⟨range, hm, hle, hge⟩ := exists_of_inRanges h
  have hc := hp range hm (c.toNat - range.1) (by omega)
  rwa [Nat.add_sub_cancel' hle] at hc

theorem isUpper_of_isBlank {c : Char} (h : isBlank c = true) : isUpper c = false :=
  eq_false_of_isBlank (p := (inSteps · upperSteps)) h (by decide +kernel)

theorem isDigit_of_isBlank {c : Char} (h : isBlank c = true) : isDigit c = false := by
  have hnone := eq_false_of_isBlank (p := fun n => (digitZeros.find? fun first =>
    first ≤ n && n < first + 10).isSome) h (by decide +kernel)
  rwa [isDigit, digitValue?, Option.isSome_map]

/-- Whether each of `firsts` and the nine numbers after it lie in one of the ranges. -/
def holdTens : List (Nat × Nat) → List Nat → Bool
  | [], firsts => firsts.isEmpty
  | range :: ranges, firsts =>
    range.1 ≤ range.2 &&
      (firsts.takeWhile (· ≤ range.2)).all (fun n => range.1 ≤ n && n + 9 ≤ range.2) &&
      holdTens ranges (firsts.dropWhile (· ≤ range.2))

theorem inRanges_of_holdTens {ranges : List (Nat × Nat)} {firsts : List Nat} {n first : Nat}
    (h : holdTens ranges firsts = true) (hs : firsts.Pairwise (· < ·)) (hm : first ∈ firsts)
    (hle : first ≤ n) (hge : n ≤ first + 9) : inRanges n ranges = true := by
  induction ranges generalizing firsts with
  | nil =>
    rw [holdTens, List.isEmpty_iff] at h
    rw [h] at hm
    cases hm
  | cons range ranges ih =>
    simp only [holdTens, Bool.and_eq_true, decide_eq_true_eq, List.all_eq_true] at h
    obtain ⟨⟨hrange, hhere⟩, hlater⟩ := h
    rw [← List.takeWhile_append_dropWhile (p := (decide <| · ≤ range.2)) (l := firsts)] at hs hm
    rcases List.mem_append.mp hm with hm | hm
    · have hin := hhere first hm
      have hfirst : ¬ n < range.1 := by omega
      have hlast : n ≤ range.2 := by omega
      simp [inRanges, hfirst, hlast]
    · have hlaterSorted := (List.pairwise_append.mp hs).2.1
      have hpast : range.2 < first := by
        have hnext := List.head?_dropWhile_not (decide <| · ≤ range.2) firsts
        cases hd : firsts.dropWhile (decide <| · ≤ range.2) with
        | nil =>
          rw [hd] at hm
          cases hm
        | cons next rest =>
          rw [hd] at hm hnext hlaterSorted
          have hnext : range.2 < next := by simpa using hnext
          rcases List.mem_cons.mp hm with rfl | hm
          · exact hnext
          · exact hnext.trans ((List.pairwise_cons.mp hlaterSorted).1 first hm)
      have hfirst : ¬ n < range.1 := by omega
      have hrest := ih hlater hlaterSorted hm
      simp [inRanges, hfirst, hrest]

theorem isWord_of_isDigit {c : Char} (h : isDigit c = true) : isWord c = true := by
  have hall : holdTens wordRanges digitZeros = true := by decide +kernel
  have hsorted : digitZeros.Pairwise (· < ·) := by decide +kernel
  rw [isDigit, digitValue?, Option.isSome_map, List.find?_isSome] at h
  obtain ⟨first, hm, hb⟩ := h
  obtain ⟨hle, hlt⟩ : first ≤ c.toNat ∧ c.toNat < first + 10 := by simpa using hb
  exact inRanges_of_holdTens hall hsorted hm hle (by omega)

theorem isLower_of_isUpper {c : Char} (h : c.isUpper = true) : isLower c = false := by
  have hall : ∀ k < 26, inSteps (65 + k) lowerSteps = false := by decide +kernel
  obtain ⟨hle, hge⟩ : 65 ≤ c.toNat ∧ c.toNat ≤ 90 := by
    simpa [Char.isUpper, UInt32.le_iff_toNat_le] using h
  have hc := hall (c.toNat - 65) (by omega)
  rwa [Nat.add_sub_cancel' hle] at hc

theorem toNat_of_isUsernameChar {c : Char} (h : isUsernameChar c = true) :
    44 < c.toNat ∧ c.toNat < 123 := by
  have hc : (c.isAlphanum = true ∨ c = '_') ∨ c = '-' := by simpa [isUsernameChar] using h
  rcases hc with (hc | rfl) | rfl
  · simp only [Char.isAlphanum, Char.isAlpha, Char.isUpper, Char.isLower, Char.isDigit,
      Bool.or_eq_true, Bool.and_eq_true, decide_eq_true_eq, UInt32.le_iff_toNat_le, ge_iff_le] at hc
    change ((65 ≤ c.toNat ∧ c.toNat ≤ 90) ∨ (97 ≤ c.toNat ∧ c.toNat ≤ 122)) ∨
      (48 ≤ c.toNat ∧ c.toNat ≤ 57) at hc
    omega
  · decide
  · decide

theorem isBlank_of_isUsernameChar {c : Char} (h : isUsernameChar c = true) :
    isBlank c = false := by
  have hc := toNat_of_isUsernameChar h
  have hall : ∀ n < 123, 44 < n → inRanges n blankRanges = false := by decide
  exact hall _ hc.2 hc.1

theorem ne_comma_of_isBlank {c : Char} (h : isBlank c = true) : c ≠ ',' := by
  rintro rfl
  exact absurd h (by decide)

theorem ne_comma_of_isUsernameChar {c : Char} (h : isUsernameChar c = true) : c ≠ ',' := by
  rintro rfl
  exact absurd h (by decide)

/-! Reading -/

namespace Text

variable {p : Char → Bool} {t rest : Text} {c : Char}

theorem skipSome?_append (hn : t ≠ []) (ht : ∀ c ∈ t, p c = true) (hc : p c = false) :
    skipSome? p (t ++ c :: rest) = some (c :: rest) := by
  cases t with
  | nil => exact absurd rfl hn
  | cons d t =>
    have hd : p d = true := ht d List.mem_cons_self
    have hdrop : (t ++ c :: rest).dropWhile p = c :: rest := by
      rw [List.dropWhile_append_of_pos fun d hd => ht d (List.mem_cons_of_mem _ hd),
        List.dropWhile_cons_of_neg (by simp [hc])]
    rw [List.cons_append, skipSome?, if_pos hd, hdrop]

theorem skip?_append (lead rest : Text) : skip? lead (lead ++ rest) = some rest := by
  induction lead with
  | nil => cases rest <;> rfl
  | cons c lead ih => rw [List.cons_append, skip?, if_pos rfl, ih]

theorem skip?_singleton (c : Char) (rest : Text) : skip? [c] (c :: rest) = some rest :=
  skip?_append [c] rest

/-- One blank before a text that does not begin with a blank. -/
theorem skipSome?_space (h : rest.head?.any isBlank = false) :
    skipSome? isBlank (' ' :: rest) = some rest := by
  rw [skipSome?, if_pos (by decide)]
  cases rest with
  | nil => rfl
  | cons c rest => rw [List.dropWhile_cons_of_neg (by simpa using h)]

theorem trimEnd_append_singleton (hc : isBlank c = false) : trimEnd (t ++ [c]) = t ++ [c] := by
  rw [trimEnd, List.reverse_append, List.reverse_singleton, List.singleton_append,
    List.dropWhile_cons_of_neg (by simp [hc]), List.reverse_cons, List.reverse_reverse]

theorem dropFinal_append_singleton : dropFinal c (t ++ [c]) = t := by
  simp [dropFinal]

/-- A text without blanks stays when it is cut out from between blanks. -/
theorem trim_append {before after : Text} (hb : ∀ c ∈ before, isBlank c = true)
    (ha : ∀ c ∈ after, isBlank c = true) (hn : t ≠ []) (ht : ∀ c ∈ t, isBlank c = false) :
    trim (before ++ t ++ after) = t := by
  obtain ⟨c, start, rfl⟩ := List.exists_cons_of_ne_nil hn
  have hstart : trimStart (before ++ c :: start ++ after) = c :: start ++ after := by
    rw [trimStart, List.append_assoc, List.dropWhile_append_of_pos hb, List.cons_append,
      List.dropWhile_cons_of_neg (by simp [ht c List.mem_cons_self])]
  have hend : (after.reverse ++ (c :: start).reverse).dropWhile isBlank = (c :: start).reverse := by
    rw [List.dropWhile_append_of_pos fun d hd => ha d (List.mem_reverse.mp hd)]
    refine List.dropWhile_eq_self_iff.mpr fun hl => ?_
    simp only [ht _ (List.mem_reverse.mp (List.getElem_mem _)), Bool.false_eq_true,
      not_false_eq_true]
  rw [trim, hstart, trimEnd, List.reverse_append, hend, List.reverse_reverse]

theorem pieces_of_not_mem {separator : Char} (h : separator ∉ t) : t.pieces separator = [t] := by
  induction t with
  | nil => rfl
  | cons c t ih =>
    obtain ⟨hc, ht⟩ := not_or.mp (mt List.mem_cons.mpr h)
    obtain ⟨part, parts, hp, hcons⟩ := pieces_cons separator c t
    rw [ih ht] at hp
    cases hp
    rw [hcons, if_neg (Ne.symm hc)]

theorem pieces_append {separator : Char} (h : separator ∉ t) (rest : Text) :
    pieces separator (t ++ separator :: rest) = t :: rest.pieces separator := by
  induction t with
  | nil =>
    obtain ⟨part, parts, hp, hcons⟩ := pieces_cons separator separator rest
    rw [List.nil_append, hcons, if_pos rfl, hp]
  | cons c t ih =>
    obtain ⟨hc, ht⟩ := not_or.mp (mt List.mem_cons.mpr h)
    obtain ⟨part, parts, hp, hcons⟩ := pieces_cons separator c (t ++ separator :: rest)
    rw [ih ht] at hp
    cases hp
    rw [List.cons_append, hcons, if_neg (Ne.symm hc)]

/-- Parts without the separator are the pieces of the text they make up. -/
theorem pieces_joinWith {separator : Char} {parts : List Text} (hn : parts ≠ [])
    (h : ∀ part ∈ parts, separator ∉ part) :
    (joinWith [separator] parts).pieces separator = parts := by
  induction parts with
  | nil => exact absurd rfl hn
  | cons part parts ih =>
    have hpart : separator ∉ part := h part List.mem_cons_self
    cases parts with
    | nil => exact pieces_of_not_mem hpart
    | cons next parts =>
      have hrest := ih (List.cons_ne_nil _ _) fun part hp => h part (List.mem_cons_of_mem _ hp)
      rw [joinWith, List.append_assoc, List.singleton_append, pieces_append hpart, hrest]
      exact List.cons_ne_nil _ _

theorem joinWith_cons (separator : Char) (part : Text) (parts : List Text) :
    joinWith [separator] (part :: parts) = part ++ parts.flatMap (separator :: ·) := by
  induction parts generalizing part with
  | nil => exact (List.append_nil part).symm
  | cons next parts ih =>
    rw [joinWith, ih, List.flatMap_cons, List.append_assoc, List.singleton_append, List.cons_append]
    exact List.cons_ne_nil _ _

/-- One or more digits, of any script. -/
def IsNumber (t : Text) : Prop := t ≠ [] ∧ ∀ c ∈ t, isDigit c = true

end Text

/-! Trailers -/

/-- A username, with or without blanks around it. -/
def IsEntry (entry : Text) : Prop :=
  ∃ before name after, entry = before ++ name ++ after ∧ (∀ c ∈ before, isBlank c = true) ∧
    (∀ c ∈ after, isBlank c = true) ∧ isUsername name = true

namespace Trailer

/-- What a trailer of each kind has to say. -/
inductive HasForm : Kind → Text → Prop where
  | changeset (before digits after : Text) (hd : digits.IsNumber) :
      HasForm .followUp (before ++ '[' :: (digits ++ ']' :: after))
  | merge (digits : Text) (version : List Text) (hd : digits.IsNumber) (hn : version ≠ [])
      (hv : ∀ part ∈ version, part.IsNumber) :
      HasForm .merges ('[' :: (digits ++ ("] to the ".toList ++
        (Text.joinWith ['.'] version ++ " branch.".toList))))
  | usernames {kind : Kind} (entries : List Text) (hk : kind.listsUsernames = true)
      (hn : entries ≠ []) (he : ∀ entry ∈ entries, IsEntry entry) :
      HasForm kind (Text.joinWith [','] entries ++ ['.'])
  | ticket {kind : Kind} (before digits : Text) (c : Char) (after : Text)
      (hk : kind.isTicketReference = true) (hd : digits.IsNumber) (hc : isWord c = false) :
      HasForm kind (before ++ '#' :: (digits ++ c :: after))

/-- The keyword, one space, and what the kind has to say, with a period at its end. -/
def IsWritten (kind : Kind) (line : Text) : Prop :=
  ∃ content, line = kind.keyword ++ ' ' :: content ∧ content.head?.any isBlank = false ∧
    content.getLast? = some '.' ∧ HasForm kind content

variable {kind : Kind} {content line : Text}

theorem ofLine?_keyword (h : content.head?.any isBlank = false) :
    ofLine? (kind.keyword ++ ' ' :: content) =
      some { kind, written := kind.keyword, gap := [' '], content } := by
  have hdrop : content.dropWhile isBlank = content := by
    cases content with
    | nil => rfl
    | cons c content => exact List.dropWhile_cons_of_neg (by simpa using h)
  have htake : content.takeWhile isBlank = [] := by
    cases content with
    | nil => rfl
    | cons c content => exact List.takeWhile_cons_of_neg (by simpa using h)
  have hread : ofLine? (kind.keyword ++ ' ' :: content) =
      some { kind, written := kind.keyword, gap := ' ' :: content.takeWhile isBlank,
             content := content.dropWhile isBlank } := by
    cases kind <;> rfl
  rw [hread, hdrop, htake]

/-- No keyword begins with a blank. -/
theorem ofLine?_of_isAllBlank (h : line.isAllBlank = true) : ofLine? line = none := by
  rw [ofLine?, List.findSome?_eq_none_iff]
  intro kind _
  obtain ⟨m, marks, hm, hmarks⟩ : ∃ m marks, m ∈ ['f', 'r', 'm', 'p', 's'] ∧
      kind.marks = .letter m :: marks := by
    cases kind <;> exact ⟨_, _, by decide, rfl⟩
  have hnone : Mark.take? kind.marks line = none := by
    cases line with
    | nil => rw [hmarks, Mark.take?]
    | cons c line =>
      have hc : isBlank c = true := by
        rw [Text.isAllBlank, List.all_cons, Bool.and_eq_true] at h
        exact h.1
      have hfirst := eq_false_of_isBlank
        (p := fun n => ['f', 'r', 'm', 'p', 's'].contains (caseless (Char.ofNat n))) hc
        (by decide +kernel)
      rw [Char.ofNat_toNat] at hfirst
      rw [hmarks, Mark.take?, if_neg]
      rintro rfl
      simp [hm] at hfirst
  rw [Kind.read?, hnone]
  rfl

theorem IsWritten.exists_trailer (h : IsWritten kind line) :
    ∃ trailer, ofLine? line = some trailer ∧ trailer.kind = kind := by
  obtain ⟨content, rfl, hb, -, -⟩ := h
  exact ⟨_, ofLine?_keyword hb, rfl⟩

end Trailer

namespace IsEntry

variable {entry : Text}

theorem comma_notMem (h : IsEntry entry) : ',' ∉ entry := by
  obtain ⟨before, name, after, rfl, hb, ha, hname⟩ := h
  have hall : ∀ c ∈ name, isUsernameChar c = true := by
    simp_all [isUsername]
  intro hm
  rcases List.mem_append.mp hm with hm | hm
  · rcases List.mem_append.mp hm with hm | hm
    · exact ne_comma_of_isBlank (hb _ hm) rfl
    · exact ne_comma_of_isUsernameChar (hall _ hm) rfl
  · exact ne_comma_of_isBlank (ha _ hm) rfl

theorem isUsername_trim (h : IsEntry entry) : isUsername entry.trim = true := by
  obtain ⟨before, name, after, rfl, hb, ha, hname⟩ := h
  obtain ⟨hn, hall⟩ : name ≠ [] ∧ ∀ c ∈ name, isUsernameChar c = true := by
    simpa [isUsername] using hname
  rw [Text.trim_append hb ha hn fun c hc => isBlank_of_isUsernameChar (hall c hc), hname]

end IsEntry

theorem UsernameToken.isValid_of_mem_ofEntries {entries : List Text} {column : Nat}
    {token : UsernameToken} (he : ∀ entry ∈ entries, IsEntry entry)
    (h : token ∈ ofEntries column entries) : token.isValid = true := by
  induction entries generalizing column with
  | nil => cases h
  | cons entry entries ih =>
    rcases List.mem_cons.mp h with rfl | h
    · exact (he entry List.mem_cons_self).isUsername_trim
    · exact ih (fun entry hm => he entry (List.mem_cons_of_mem _ hm)) h

namespace Lint

variable {kind : Trailer.Kind} {content : Text}

theorem scan_ne_nil {read? : Text → Option Text} {digits : Text} (before rest : Text)
    (hn : rest ≠ []) (hr : read? rest = some digits) :
    Occurrence.scan read? 0 (before ++ rest) ≠ [] := by
  rw [Ne, Occurrence.scan_eq_nil_iff]
  intro hnone
  have hlength : before.length < (before ++ rest).length := by
    have hpos := List.length_pos_of_ne_nil hn
    rw [List.length_append]
    omega
  have hrest := hnone before.length hlength
  rw [List.drop_left, hr] at hrest
  cases hrest

theorem ticket?_append {digits : Text} {c : Char} (rest : Text) (hd : digits.IsNumber)
    (hc : isWord c = false) :
    Occurrence.ticket? ('#' :: (digits ++ c :: rest)) = some digits := by
  have hdigit : isDigit c = false := by
    by_contra hd
    rw [isWord_of_isDigit (by simpa using hd)] at hc
    cases hc
  have htake : (digits ++ c :: rest).takeWhile isDigit = digits := by
    rw [List.takeWhile_append_of_pos hd.2, List.takeWhile_cons_of_neg (by simp [hdigit]),
      List.append_nil]
  have hdrop : (digits ++ c :: rest).dropWhile isDigit = c :: rest := by
    rw [List.dropWhile_append_of_pos hd.2, List.dropWhile_cons_of_neg (by simp [hdigit])]
  simp [Occurrence.ticket?, htake, hdrop, hd.1, hc]

section

variable {version : List Text} {c : Char} {rest : Text}

theorem skipSome?_version {part : Text} (hp : part.IsNumber) (hc : isDigit c = false) :
    Text.skipSome? isDigit (part ++ (version.flatMap ('.' :: ·) ++ c :: rest)) =
      some (version.flatMap ('.' :: ·) ++ c :: rest) := by
  cases version with
  | nil => exact Text.skipSome?_append hp.1 hp.2 hc
  | cons next version => exact Text.skipSome?_append hp.1 hp.2 (by decide)

theorem skipPoints_flatMap {fuel : Nat} (hfuel : version.length ≤ fuel)
    (hv : ∀ part ∈ version, part.IsNumber) (hc : isDigit c = false) (hpoint : c ≠ '.') :
    skipPoints fuel (version.flatMap ('.' :: ·) ++ c :: rest) = c :: rest := by
  induction version generalizing fuel with
  | nil =>
    cases fuel with
    | zero => rfl
    | succ fuel =>
      rw [List.flatMap_nil, List.nil_append, skipPoints]
      exact fun _ _ _ hhead => hpoint (List.cons.inj hhead).1
  | cons part version ih =>
    cases fuel with
    | zero => exact absurd hfuel (Nat.not_succ_le_zero _)
    | succ fuel =>
      have hpart := hv part List.mem_cons_self
      have hrest := ih (Nat.le_of_succ_le_succ hfuel) fun part hm => hv part (List.mem_cons_of_mem _ hm)
      rw [List.flatMap_cons, List.cons_append, List.cons_append, skipPoints, List.append_assoc,
        skipSome?_version hpart hc]
      exact hrest

theorem skipVersion?_joinWith (hn : version ≠ []) (hv : ∀ part ∈ version, part.IsNumber)
    (hc : isDigit c = false) (hpoint : c ≠ '.') :
    skipVersion? (Text.joinWith ['.'] version ++ c :: rest) = some (c :: rest) := by
  obtain ⟨part, version, rfl⟩ := List.exists_cons_of_ne_nil hn
  have hpart := hv part List.mem_cons_self
  have hlength : version.length ≤ (version.flatMap ('.' :: ·) ++ c :: rest).length := by
    have hsum : version.length ≤ (version.flatMap ('.' :: ·)).length := by
      clear hv hn
      induction version with
      | nil => exact Nat.le_refl _
      | cons next version ih =>
        rw [List.flatMap_cons, List.length_append, List.length_cons, List.length_cons]
        omega
    rw [List.length_append]
    omega
  rw [skipVersion?, Text.joinWith_cons, List.append_assoc, skipSome?_version hpart hc]
  exact congrArg some (skipPoints_flatMap hlength (fun part hm => hv part (List.mem_cons_of_mem _ hm))
    hc hpoint)

end

theorem isMergeContent_append {digits version : Text} (hd : digits.IsNumber)
    (hb : (version ++ " branch.".toList).head?.any isBlank = false)
    (hv : skipVersion? (version ++ " branch.".toList) = some " branch.".toList) :
    isMergeContent ('[' :: (digits ++ ("] to the ".toList ++ (version ++ " branch.".toList)))) =
      true := by
  have htrim : Text.trimEnd ('[' :: (digits ++ ("] to the ".toList ++
      (version ++ " branch.".toList)))) =
        '[' :: (digits ++ ("] to the ".toList ++ (version ++ " branch.".toList))) := by
    have hend : '[' :: (digits ++ ("] to the ".toList ++ (version ++ " branch.".toList))) =
        ('[' :: (digits ++ ("] to the ".toList ++ (version ++ " branch".toList)))) ++ ['.'] := by
      simp only [List.cons_append, List.append_assoc]
      rfl
    rw [hend, Text.trimEnd_append_singleton (by decide)]
  have hdigits (rest : Text) : Text.skipSome? isDigit (digits ++ ']' :: rest) =
      some (']' :: rest) := Text.skipSome?_append hd.1 hd.2 (by decide)
  have hto (rest : Text) : Text.skipSome? isBlank (' ' :: ("to".toList ++ rest)) =
      some ("to".toList ++ rest) := Text.skipSome?_space rfl
  have hthe (rest : Text) : Text.skipSome? isBlank (' ' :: ("the".toList ++ rest)) =
      some ("the".toList ++ rest) := Text.skipSome?_space rfl
  have hbranch : Text.skipSome? isBlank " branch.".toList = some ("branch".toList ++ ['.']) :=
    Text.skipSome?_space rfl
  have hform : '[' :: (digits ++ ("] to the ".toList ++ (version ++ " branch.".toList))) =
      '[' :: (digits ++ ']' :: ' ' :: ("to".toList ++ ' ' :: ("the".toList ++ ' ' ::
        (version ++ " branch.".toList)))) := rfl
  unfold isMergeContent
  rw [htrim, hform]
  simp only [Option.bind_eq_bind, Text.skip?_singleton, Option.bind_some, hdigits, hto,
    Text.skip?_append, hthe, Text.skipSome?_space hb, hv, hbranch]
  rfl

open Trailer (HasForm IsWritten ofLine?_keyword)

theorem startsUsernameList_joinWith {entries : List Text} (hn : entries ≠ [])
    (he : ∀ entry ∈ entries, IsEntry entry)
    (hb : (Text.joinWith [','] entries ++ ['.']).head?.any isBlank = false) :
    Trailer.startsUsernameList (Text.joinWith [','] entries ++ ['.']) = true := by
  obtain ⟨entry, entries, rfl⟩ := List.exists_cons_of_ne_nil hn
  obtain ⟨before, name, after, rfl, hbefore, -, hname⟩ := he entry List.mem_cons_self
  rw [Text.joinWith_cons] at hb ⊢
  cases before with
  | nil =>
    cases name with
    | nil => cases hname
    | cons c name =>
      have hc : isUsernameChar c = true := by
        simp only [isUsername, List.all_cons, Bool.and_eq_true] at hname
        exact hname.2.1
      exact hc
  | cons c before =>
    have hblank : isBlank c = false := hb
    rw [hbefore c List.mem_cons_self] at hblank
    cases hblank

theorem hasContent_of_hasForm (h : HasForm kind content)
    (hb : content.head?.any isBlank = false) : hasContent kind content = true := by
  cases h with
  | changeset before digits after hd =>
    rw [hasContent, Bool.not_eq_true', List.isEmpty_eq_false_iff]
    exact scan_ne_nil before _ (List.cons_ne_nil _ _) (changeset?_append hd.1 hd.2)
  | merge digits version hd hn hv =>
    rw [hasContent]
    refine isMergeContent_append hd ?_ (skipVersion?_joinWith hn hv (by decide) (by decide))
    obtain ⟨part, version, rfl⟩ := List.exists_cons_of_ne_nil hn
    obtain ⟨hne, hall⟩ := hv part List.mem_cons_self
    obtain ⟨d, part, rfl⟩ := List.exists_cons_of_ne_nil hne
    rw [Text.joinWith_cons, List.cons_append, List.cons_append, List.head?_cons, Option.any_some]
    by_contra hblank
    have hdigit := isDigit_of_isBlank (by simpa using hblank)
    rw [hall d List.mem_cons_self] at hdigit
    cases hdigit
  | usernames entries hk hn he =>
    have hstarts := startsUsernameList_joinWith hn he hb
    cases kind with
    | props | reviewedBy => exact hstarts
    | followUp | merges | fixes | see => cases hk
  | ticket before digits c after hk hd hc =>
    have hfound := scan_ne_nil before _ (List.cons_ne_nil _ _) (ticket?_append after hd hc)
    cases kind with
    | fixes | see => rwa [hasContent, Bool.not_eq_true', List.isEmpty_eq_false_iff]
    | followUp | reviewedBy | merges | props => cases hk

theorem entries_of_hasForm (hk : kind.listsUsernames = true) (h : HasForm kind content) :
    ∃ entries, content = Text.joinWith [','] entries ++ ['.'] ∧ entries ≠ [] ∧
      ∀ entry ∈ entries, IsEntry entry := by
  cases h with
  | usernames _ _ hn he => exact ⟨_, rfl, hn, he⟩
  | changeset => cases hk
  | merge => cases hk
  | ticket _ _ _ _ hk' =>
    cases kind with
    | followUp | merges | fixes | see => cases hk
    | reviewedBy | props => cases hk'

theorem usernameFindings_eq_nil {t : TrailerLine} (hk : t.trailer.kind.listsUsernames = true)
    (h : HasForm t.trailer.kind t.trailer.content) : usernameFindings t = [] := by
  obtain ⟨entries, hc, hn, he⟩ := entries_of_hasForm hk h
  have hentries : (Text.dropFinal '.' t.trailer.content.trimEnd).pieces ',' = entries := by
    rw [hc, Text.trimEnd_append_singleton (by decide), Text.dropFinal_append_singleton,
      Text.pieces_joinWith hn fun entry hm => (he entry hm).comma_notMem]
  have hnone : t.trailer.usernames.filter (!·.isValid) = [] := by
    refine List.filter_eq_nil_iff.mpr fun token hm => ?_
    rw [Trailer.usernames, hentries] at hm
    simp [UsernameToken.isValid_of_mem_ofEntries he hm]
  rw [usernameFindings, hnone, List.map_nil]

theorem trailerFindings_eq_nil {number : Nat} {line : Text} {trailer : Trailer}
    (h : IsWritten kind line) (ht : Trailer.ofLine? line = some trailer) :
    trailerFindings { number, line, trailer } = [] := by
  obtain ⟨content, rfl, hb, hlast, hform⟩ := h
  rw [ofLine?_keyword hb] at ht
  cases ht
  have hcontent := hasContent_of_hasForm hform hb
  have hend : (kind.keyword ++ ' ' :: content).getLast? = some '.' := by
    rw [List.getLast?_append, List.getLast?_cons, hlast]
    rfl
  have hnames (hk : kind.listsUsernames = true) : usernameFindings
      { number, line := kind.keyword ++ ' ' :: content,
        trailer := { kind, written := kind.keyword, gap := [' '], content } } = [] :=
    usernameFindings_eq_nil hk hform
  simpa [trailerFindings, keywordFindings, hcontent, hend] using hnames

/-! The summary -/

/-- A summary of at most 70 characters: a component that begins with an ASCII capital, a colon,
one space, and a text that begins with a capital and ends with a period. -/
structure IsSummary (line : Text) : Prop where
  parts : ∃ c component text, line = c :: component ++ ':' :: ' ' :: text ∧ c.isUpper = true ∧
    (∀ d ∈ component, d.isAlphanum = true ∨ d = ' ' ∨ d = '-' ∨ d = '/') ∧
    text.head?.any isUpper = true ∧ text.getLast? = some '.'
  length_le : line.length ≤ 70
  not_trailer : isTrailer line = false

theorem isUsernameChar_of_isUpper {c : Char} (h : c.isUpper = true) : isUsernameChar c = true := by
  simp [isUsernameChar, Char.isAlphanum, Char.isAlpha, h]

theorem IsSummary.isAllBlank {line : Text} (h : IsSummary line) : line.isAllBlank = false := by
  obtain ⟨c, component, text, rfl, hc, -⟩ := h.parts
  have hblank := isBlank_of_isUsernameChar (isUsernameChar_of_isUpper hc)
  simp [Text.isAllBlank, hblank]

theorem summaryText?_space {text : Text} (hfirst : text.head?.any isUpper = true)
    (hl : '\n' ∉ text) : summaryText? (' ' :: text) = some (1, text) := by
  obtain ⟨c, text, rfl⟩ : ∃ c rest, text = c :: rest := by
    cases text with
    | nil => cases hfirst
    | cons c rest => exact ⟨c, rest, rfl⟩
  have hc : isBlank c = false := by
    by_contra hblank
    have hupper := isUpper_of_isBlank (by simpa using hblank)
    rw [List.head?_cons, Option.any_some, hupper] at hfirst
    cases hfirst
  have hblank : ∀ d ∈ [' '], isBlank d = true := List.forall_mem_singleton.mpr rfl
  exact summaryText?_append hblank (summaryText?_of_not_isBlank hc hl)

theorem summaryFindings_eq_nil {line : Text} {rest : List Text} (h : IsSummary line)
    (hl : '\n' ∉ line) : summaryFindings (line :: rest) = [] := by
  have hblank := h.isAllBlank
  obtain ⟨⟨c, component, text, rfl, hc, hcomponent, hfirst, hlast⟩, hlength, -⟩ := h
  have hname : IsName (c :: component) := by
    refine ⟨c, component, rfl, by simp [Char.isAlpha, hc], fun d hd => ?_⟩
    rcases hcomponent d hd with hd | rfl | hd
    · exact .inl hd
    · exact .inr (.inl rfl)
    · exact .inr (.inr hd)
  have hcut : cutAtColon? (c :: component ++ ':' :: ' ' :: text) =
      some (c :: component, ' ' :: text) := cutAtColon?_eq_some_iff.mpr ⟨rfl, hname.notMem_colon⟩
  have htext := summaryText?_space hfirst fun hm =>
    hl (List.mem_append_right _ (List.mem_cons_of_mem _ (List.mem_cons_of_mem _ hm)))
  have hline : isSummaryLine (c :: component ++ ':' :: ' ' :: text) = true := by
    simp only [isSummaryLine, hcut, isComponent_iff.mpr hname, htext, Option.isSome_some,
      Bool.and_self]
  have hparts : summaryParts? (c :: component ++ ':' :: ' ' :: text) =
      some (c :: component, (c :: component).length + 1 + 1, text) := by
    simp only [summaryParts?, hcut, htext, Option.bind_eq_bind, Option.bind_some, List.isEmpty_cons]
    rfl
  have hshort : ¬ (c :: component ++ ':' :: ' ' :: text).length > summaryMaxLength := by
    rw [summaryMaxLength]
    omega
  have hsmall : (c :: component).head?.any isLower = false := isLower_of_isUpper hc
  have hfine : partFindings (c :: component ++ ':' :: ' ' :: text).length (c :: component)
      ((c :: component).length + 1 + 1) text = [] := by
    simp only [partFindings, hsmall, hfirst, hlast, if_true]
    rfl
  simp only [summaryFindings, hblank, hline, hshort, hparts, hfine]
  rfl

end Lint

end CommitMessage
