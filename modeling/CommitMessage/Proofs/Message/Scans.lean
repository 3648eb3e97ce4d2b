import CommitMessage.Proofs.Message.Occurrences

/-! The references of each kind on one line of a message. A keyword and the blanks after it hold
none, so a scan of a whole trailer finds what a scan of its content finds. -/

namespace CommitMessage

/-! Keywords -/

namespace Trailer

variable {x : Char} {line written rest : Text} {t : Trailer}

theorem Mark.not_mem_of_take? {marks : List Mark} (hx : ∀ mark ∈ marks, mark.covers x = false)
    (h : take? marks line = some (written, rest)) : x ∉ written := by
  induction marks generalizing line written with
  | nil =>
    cases h
    exact List.not_mem_nil
  | cons mark marks ih =>
    obtain ⟨first, line', seen, -, rfl, hfirst, hs⟩ := Mark.take?_cons h
    intro hm
    rcases List.mem_append.mp hm with hm | hm
    · have hcovers := hfirst x hm
      rw [hx mark List.mem_cons_self] at hcovers
      cases hcovers
    · exact ih (fun mark hmark => hx mark (List.mem_cons_of_mem _ hmark)) hs hm

/-- Before its content a trailer has no character that can begin a reference by its number. -/
theorem not_mem_before_content (hx : x = '#' ∨ x = '[') (h : ofLine? line = some t) :
    x ∉ t.written ++ t.gap := by
  obtain ⟨kind, -, hk⟩ := List.exists_of_findSome?_eq_some h
  obtain ⟨⟨written, rest⟩, hw, hk⟩ := Option.bind_eq_some_iff.mp hk
  obtain ⟨content, -, hk⟩ := Option.bind_eq_some_iff.mp hk
  cases hk
  have hblank : isBlank x = false := by rcases hx with rfl | rfl <;> decide
  have hmarks : ∀ mark ∈ kind.marks, mark.covers x = false := by
    rcases hx with rfl | rfl <;> cases kind <;> decide
  intro hm
  rcases List.mem_append.mp hm with hm | hm
  · exact Mark.not_mem_of_take? hmarks hw hm
  · have hm := List.mem_takeWhile_imp hm
    simp [hblank] at hm

end Trailer

namespace Occurrence

variable {read? : Text → Option Text} {number : Nat} {line : Text} {t : Trailer}

/-! Scans -/

theorem scan_eq_nil_iff {start : Nat} :
    scan read? start line = [] ↔ ∀ i < line.length, read? (line.drop i) = none := by
  rw [List.eq_nil_iff_forall_not_mem]
  constructor
  · intro h i hi
    cases hr : read? (line.drop i) with
    | none => rfl
    | some digits => exact absurd (mem_scan.mpr ⟨i, hi, rfl, hr⟩) (h (start + i, digits))
  · rintro h ⟨column, digits⟩ hm
    obtain ⟨i, hi, -, hr⟩ := mem_scan.mp hm
    rw [h i hi] at hr
    cases hr

theorem scan_append_eq_nil_iff {c : Char} {before rest : Text}
    (hr : ∀ t digits, read? t = some digits → t.head? = some c) (hc : c ∉ before) :
    scan read? 0 (before ++ rest) = [] ↔ scan read? 0 rest = [] := by
  rw [scan_eq_nil_iff, scan_eq_nil_iff]
  constructor
  · intro h i hi
    have hn := h (before.length + i) (by rw [List.length_append]; omega)
    rwa [List.drop_append, List.drop_of_length_le (by omega), List.nil_append,
      Nat.add_sub_cancel_left] at hn
  · intro h i hi
    by_cases hb : i < before.length
    · cases hd : read? ((before ++ rest).drop i) with
      | none => rfl
      | some digits =>
        have hhead := hr _ _ hd
        rw [List.head?_drop, List.getElem?_append_left hb] at hhead
        exact absurd (List.mem_of_getElem? hhead) hc
    · rw [List.drop_append, List.drop_of_length_le (by omega), List.nil_append]
      rw [List.length_append] at hi
      exact h _ (by omega)

theorem tickets_eq_nil_iff (h : Trailer.ofLine? line = some t) :
    tickets number line = [] ↔ scan ticket? 0 t.content = [] := by
  have hnone := Trailer.not_mem_before_content (.inl rfl) h
  rw [tickets, List.map_eq_nil_iff, ← Trailer.append_of_ofLine? h,
    scan_append_eq_nil_iff (fun _ _ => head?_of_ticket?) hnone]

theorem changesets_eq_nil_iff (h : Trailer.ofLine? line = some t) :
    changesets number line = [] ↔ scan changeset? 0 t.content = [] := by
  have hnone := Trailer.not_mem_before_content (.inr rfl) h
  rw [changesets, List.map_eq_nil_iff, ← Trailer.append_of_ofLine? h,
    scan_append_eq_nil_iff (fun _ _ => head?_of_changeset?) hnone]

/-! Kinds -/

/-- The references of one kind on a line, with those that are repeated. -/
def ofKind (kind : Reference.Kind) (number : Nat) (line : Text) : List Occurrence :=
  match kind with
  | .ticket => tickets number line
  | .changeset => changesets number line
  | .profile => profiles number line

theorem kind_of_mem_ofKind {kind : Reference.Kind} {o : Occurrence}
    (ho : o ∈ ofKind kind number line) : o.reference.kind = kind := by
  cases kind with
  | ticket =>
    obtain ⟨found, -, rfl⟩ := List.mem_map.mp ho
    rfl
  | changeset =>
    obtain ⟨found, -, rfl⟩ := List.mem_map.mp ho
    rfl
  | profile =>
    obtain ⟨trailer, token, -, -, -, rfl⟩ := mem_profiles ho
    rfl

theorem inLine_ofKind (kind : Reference.Kind) (number : Nat) (line : Text) :
    InLine number line kind (ofKind kind number line) := by
  cases kind with
  | ticket => exact inLine_tickets number line
  | changeset => exact inLine_changesets number line
  | profile => exact inLine_profiles number line

theorem filter_ofKind (kind kind' : Reference.Kind) (number : Nat) (line : Text) :
    (ofKind kind' number line).filter (fun o => o.reference.kind == kind) =
      if kind' = kind then ofKind kind number line else [] := by
  by_cases hk : kind' = kind
  · subst hk
    rw [if_pos rfl, List.filter_eq_self]
    intro o ho
    simp [kind_of_mem_ofKind ho]
  · rw [if_neg hk, List.filter_eq_nil_iff]
    intro o ho
    simp [kind_of_mem_ofKind ho, hk]

theorem distinct_congr {seen seen' : List Reference} {l : List Occurrence}
    (h : ∀ o ∈ l, o.reference ∈ seen ↔ o.reference ∈ seen') :
    distinct seen l = distinct seen' l := by
  induction l generalizing seen seen' with
  | nil => rfl
  | cons o l ih =>
    have hrest : ∀ p ∈ l, p.reference ∈ seen ↔ p.reference ∈ seen' := fun p hp =>
      h p (List.mem_cons_of_mem _ hp)
    by_cases ho : o.reference ∈ seen
    · rw [distinct, distinct, if_pos ho, if_pos ((h o List.mem_cons_self).mp ho), ih hrest]
    · rw [distinct, distinct, if_neg ho, if_neg (mt (h o List.mem_cons_self).mpr ho)]
      refine congrArg (o :: ·) (ih fun p hp => ?_)
      simp [hrest p hp]

/-- References of other kinds make no difference to which of one kind are repeated. -/
theorem filter_distinct (kind : Reference.Kind) (seen : List Reference) (l : List Occurrence) :
    (distinct seen l).filter (fun o => o.reference.kind == kind) =
      distinct seen (l.filter fun o => o.reference.kind == kind) := by
  induction l generalizing seen with
  | nil => rfl
  | cons o l ih =>
    by_cases hk : o.reference.kind = kind
    · by_cases ho : o.reference ∈ seen
      · simp [distinct, ho, hk, ih]
      · simp [distinct, ho, hk, ih]
    · have hother : distinct (o.reference :: seen) (l.filter fun o => o.reference.kind == kind) =
          distinct seen (l.filter fun o => o.reference.kind == kind) := by
        refine distinct_congr fun p hp => ?_
        have hne : p.reference ≠ o.reference := by
          intro he
          exact hk (he ▸ by simpa using (List.mem_filter.mp hp).2)
        simp [hne]
      by_cases ho : o.reference ∈ seen
      · simp [distinct, ho, hk, ih]
      · simp [distinct, ho, hk, ih, hother]

theorem filter_ofLine (kind : Reference.Kind) (number : Nat) (line : Text) :
    (ofLine number line).filter (fun o => o.reference.kind == kind) =
      distinct [] (ofKind kind number line) := by
  have hall : tickets number line ++ changesets number line ++ profiles number line =
      ofKind .ticket number line ++ ofKind .changeset number line ++
        ofKind .profile number line := rfl
  rw [ofLine, filter_distinct, hall, List.filter_append, List.filter_append, filter_ofKind,
    filter_ofKind, filter_ofKind]
  cases kind <;> simp

theorem distinct_eq_nil_iff {l : List Occurrence} : distinct [] l = [] ↔ l = [] := by
  cases l with
  | nil => simp [distinct]
  | cons o l => simp [distinct]

/-- Of entries with the same text the first stands for all. -/
theorem distinct_tokens (number : Nat) (seen : List Reference) (tokens : List UsernameToken) :
    let occurrence := fun token : UsernameToken => (⟨number, token.column, token.columnEnd,
      ⟨.profile, token.text⟩⟩ : Occurrence)
    distinct seen (tokens.map occurrence) =
      ((tokens.filter fun token => decide ((⟨.profile, token.text⟩ : Reference) ∉ seen)).eraseDupsBy
        (fun a b => a.text == b.text)).map occurrence := by
  intro occurrence
  induction tokens generalizing seen with
  | nil => rfl
  | cons token tokens ih =>
    by_cases hs : (⟨.profile, token.text⟩ : Reference) ∈ seen
    · simp [distinct, occurrence, hs, ih]
    · have hrest : tokens.filter (fun other =>
            decide ((⟨.profile, other.text⟩ : Reference) ∉
              (⟨.profile, token.text⟩ : Reference) :: seen)) =
          (tokens.filter fun other => decide ((⟨.profile, other.text⟩ : Reference) ∉ seen)).filter
            fun other => (other.text == token.text) = false := by
        rw [List.filter_filter]
        refine List.filter_congr fun other _ => ?_
        by_cases ht : other.text = token.text <;> simp [ht]
      rw [List.map_cons, distinct, if_neg (by simpa [occurrence] using hs), ih, hrest,
        List.filter_cons_of_pos (by simpa using hs), List.eraseDupsBy_cons, List.map_cons]

end Occurrence

end CommitMessage
