import CommitMessage.Occurrence
import CommitMessage.Proofs.Message.Trailers
import Mathlib

/-! The references of a message stand in the order of the text: no two of them begin at the same
place, as each kind begins with characters of its own. -/

namespace CommitMessage.Occurrence

variable {read? : Text → Option Text} {number : Nat} {line : Text} {o : Occurrence}

/-! One line -/

theorem mem_scan {start column : Nat} {digits : Text} :
    (column, digits) ∈ scan read? start line ↔
      ∃ i < line.length, column = start + i ∧ read? (line.drop i) = some digits := by
  induction line generalizing start with
  | nil => simp [scan]
  | cons c line ih =>
    have hhere : (∃ i < (c :: line).length, column = start + i ∧
        read? ((c :: line).drop i) = some digits) ↔
        (column = start ∧ read? (c :: line) = some digits) ∨
          (column, digits) ∈ scan read? (start + 1) line := by
      rw [ih]
      constructor
      · rintro ⟨i, hi, rfl, hr⟩
        cases i with
        | zero => exact .inl ⟨rfl, hr⟩
        | succ i => exact .inr ⟨i, Nat.lt_of_succ_lt_succ hi, by omega, hr⟩
      · rintro (⟨rfl, hr⟩ | ⟨i, hi, rfl, hr⟩)
        · exact ⟨0, Nat.succ_pos _, rfl, hr⟩
        · exact ⟨i + 1, Nat.succ_lt_succ hi, by omega, hr⟩
    rw [hhere, scan]
    cases hr : read? (c :: line) with
    | none => simp
    | some found => simp [eq_comm]

theorem pairwise_scan (read? : Text → Option Text) (start : Nat) (line : Text) :
    (scan read? start line).Pairwise fun a b => a.1 < b.1 := by
  induction line generalizing start with
  | nil => exact .nil
  | cons c line ih =>
    unfold scan
    split
    · refine List.pairwise_cons.mpr ⟨fun found hf => ?_, ih _⟩
      obtain ⟨i, -, hc, -⟩ := mem_scan.mp hf
      rw [hc]
      exact Nat.lt_of_lt_of_le (Nat.lt_succ_self start) (Nat.le_add_right _ _)
    · exact ih _

theorem head?_of_ticket? {t digits : Text} (h : ticket? t = some digits) : t.head? = some '#' := by
  unfold ticket? at h
  split at h
  · rfl
  · cases h

theorem head?_of_changeset? {t digits : Text} (h : changeset? t = some digits) :
    t.head? = some '[' := by
  unfold changeset? at h
  split at h
  · rfl
  · cases h

/-- Where a scan finds something, the line has the character that it begins with. -/
theorem head?_drop_of_mem_scan {c : Char} {found : Nat × Text}
    (hr : ∀ t digits, read? t = some digits → t.head? = some c) (h : found ∈ scan read? 0 line) :
    (line.drop found.1).head? = some c := by
  obtain ⟨i, -, hc, hd⟩ := mem_scan.mp h
  rw [hc, Nat.zero_add]
  exact hr _ _ hd

/-- A place where the line begins a reference of this kind. -/
def Opens (line : Text) (column : Nat) : Reference.Kind → Prop
  | .ticket => (line.drop column).head? = some '#'
  | .changeset => (line.drop column).head? = some '['
  | .profile => ∃ c, (line.drop column).head? = some c ∧ isUsernameChar c = true

theorem Opens.kind_eq {column : Nat} {kind kind' : Reference.Kind} (h : Opens line column kind)
    (h' : Opens line column kind') : kind = kind' := by
  cases kind <;> cases kind' <;> simp_all [Opens, isUsernameChar]

/-- Occurrences of one kind, one after the other in their line. -/
structure InLine (number : Nat) (line : Text) (kind : Reference.Kind)
    (occurrences : List Occurrence) : Prop where
  number : ∀ o ∈ occurrences, o.line = number
  opens : ∀ o ∈ occurrences, Opens line o.columnStart kind
  increasing : occurrences.Pairwise fun o p => o.columnStart < p.columnStart

/-- What a scan finds, as occurrences of one kind. -/
theorem inLine_scan {c : Char} {kind : Reference.Kind} (number width : Nat)
    (hr : ∀ t digits, read? t = some digits → t.head? = some c)
    (ho : ∀ column, (line.drop column).head? = some c → Opens line column kind) :
    InLine number line kind ((scan read? 0 line).map fun (column, digits) =>
      { line := number, columnStart := column, columnEnd := column + width + digits.length,
        reference := ⟨kind, digits⟩ }) := by
  refine ⟨fun o hm => ?_, fun o hm => ?_, ?_⟩
  · obtain ⟨found, -, rfl⟩ := List.mem_map.mp hm
    rfl
  · obtain ⟨found, hf, rfl⟩ := List.mem_map.mp hm
    exact ho _ (head?_drop_of_mem_scan hr hf)
  · exact List.pairwise_map.mpr (pairwise_scan _ _ _)

theorem inLine_tickets (number : Nat) (line : Text) :
    InLine number line .ticket (tickets number line) :=
  inLine_scan number 1 (fun _ _ => head?_of_ticket?) fun _ => id

theorem inLine_changesets (number : Nat) (line : Text) :
    InLine number line .changeset (changesets number line) :=
  inLine_scan number 2 (fun _ _ => head?_of_changeset?) fun _ => id

/-- A profile is a valid entry of the username list of its line. -/
theorem mem_profiles (ho : o ∈ profiles number line) : ∃ trailer token,
    Trailer.ofLine? line = some trailer ∧ token ∈ trailer.usernames ∧ token.isValid = true ∧
      o = ⟨number, token.column, token.columnEnd, ⟨.profile, token.text⟩⟩ := by
  unfold profiles at ho
  split at ho
  · next trailer ht =>
    split at ho
    · obtain ⟨token, hm, rfl⟩ := List.mem_map.mp ho
      obtain ⟨hm, hv⟩ := List.mem_filter.mp hm
      exact ⟨trailer, token, ht, hm, hv, rfl⟩
    · cases ho
  · cases ho

theorem inLine_profiles (number : Nat) (line : Text) :
    InLine number line .profile (profiles number line) := by
  refine ⟨fun o ho => ?_, fun o ho => ?_, ?_⟩
  · obtain ⟨trailer, token, -, -, -, rfl⟩ := mem_profiles ho
    rfl
  · obtain ⟨trailer, token, ht, hm, hv, rfl⟩ := mem_profiles ho
    obtain ⟨before, after, hl, hc⟩ := Trailer.usernames_at ht hm
    unfold UsernameToken.isValid isUsername at hv
    cases hs : token.text with
    | nil =>
      rw [hs] at hv
      cases hv
    | cons c rest =>
      rw [hs] at hv
      refine ⟨c, ?_, (List.all_eq_true.mp hv) c List.mem_cons_self⟩
      rw [hl, hs, ← hc]
      simp
  · unfold profiles
    split
    · next trailer _ =>
      split
      · exact List.pairwise_map.mpr ((Trailer.pairwise_usernames trailer).filter _)
      · exact .nil
    · exact .nil

theorem InLine.disjoint {kind kind' : Reference.Kind} {l l' : List Occurrence} {o p : Occurrence}
    (h : InLine number line kind l) (h' : InLine number line kind' l') (hk : kind ≠ kind')
    (ho : o ∈ l) (hp : p ∈ l') : o.columnStart ≠ p.columnStart := by
  intro he
  have hopens := h.opens o ho
  rw [he] at hopens
  exact hk (hopens.kind_eq (h'.opens p hp))

theorem distinct_sublist (seen : List Reference) (occurrences : List Occurrence) :
    (distinct seen occurrences).Sublist occurrences := by
  induction occurrences generalizing seen with
  | nil => exact .slnil
  | cons o occurrences ih =>
    unfold distinct
    split
    · exact (ih seen).cons o
    · exact (ih _).cons_cons o

theorem line_of_mem_ofLine (ho : o ∈ ofLine number line) : o.line = number := by
  have hm := (distinct_sublist _ _).subset ho
  rcases List.mem_append.mp hm with hm | hm
  · rcases List.mem_append.mp hm with hm | hm
    · exact (inLine_tickets number line).number o hm
    · exact (inLine_changesets number line).number o hm
  · exact (inLine_profiles number line).number o hm

theorem pairwise_ofLine (number : Nat) (line : Text) :
    (ofLine number line).Pairwise fun o p => o.columnStart ≠ p.columnStart := by
  have ht := inLine_tickets number line
  have hc := inLine_changesets number line
  have hp := inLine_profiles number line
  refine List.Pairwise.sublist (distinct_sublist _ _) ?_
  refine List.pairwise_append.mpr ⟨List.pairwise_append.mpr ⟨?_, ?_, fun o ho p hp => ?_⟩, ?_,
    fun o ho p hm => ?_⟩
  · exact ht.increasing.imp Nat.ne_of_lt
  · exact hc.increasing.imp Nat.ne_of_lt
  · exact ht.disjoint hc nofun ho hp
  · exact hp.increasing.imp Nat.ne_of_lt
  · rcases List.mem_append.mp ho with ho | ho
    · exact ht.disjoint hp nofun ho hm
    · exact hc.disjoint hp nofun ho hm

/-! All lines -/

/-- One occurrence stands before another in the text. -/
def Before (o p : Occurrence) : Prop :=
  o.line < p.line ∨ o.line = p.line ∧ o.columnStart < p.columnStart

theorem precedes_iff {o p : Occurrence} : precedes o p = true ↔
    o.line < p.line ∨ o.line = p.line ∧ o.columnStart ≤ p.columnStart := by
  simp [precedes]

theorem ofLines_eq (lines : List Text) : ofLines lines =
    (lines.zipIdx.flatMap fun entry => ofLine entry.2 entry.1).mergeSort precedes := rfl

theorem pairwise_ofLines (lines : List Text) : (ofLines lines).Pairwise Before := by
  have hle := @List.pairwise_mergeSort Occurrence precedes
    (fun o p q hop hpq => by rw [precedes_iff] at *; omega)
    (fun o p => by rw [Bool.or_eq_true, precedes_iff, precedes_iff]; omega)
    (lines.zipIdx.flatMap fun entry => ofLine entry.2 entry.1)
  -- sorting alone leaves room for two occurrences at one place
  have hne : (lines.zipIdx.flatMap fun entry => ofLine entry.2 entry.1).Pairwise
      fun o p => o.line ≠ p.line ∨ o.columnStart ≠ p.columnStart := by
    refine List.pairwise_flatMap.mpr ⟨fun entry _ => ?_, ?_⟩
    · exact (pairwise_ofLine entry.2 entry.1).imp .inr
    · have hidx : lines.zipIdx.Pairwise fun a b => a.2 ≠ b.2 :=
        List.pairwise_map.mp (List.nodup_zipIdx_map_snd lines)
      refine hidx.imp fun hab o ho p hp => .inl ?_
      rw [line_of_mem_ofLine ho, line_of_mem_ofLine hp]
      exact hab
  have hsorted := (List.mergeSort_perm _ precedes).symm.pairwise hne
    (fun h => h.imp Ne.symm Ne.symm)
  refine (hle.and hsorted).imp fun hop => ?_
  have hp := precedes_iff.mp hop.1
  unfold Before
  omega

theorem line_lt_of_mem_ofLines {lines : List Text} (ho : o ∈ ofLines lines) :
    o.line < lines.length := by
  obtain ⟨⟨line, number⟩, hm, ho⟩ := List.mem_flatMap.mp (List.mem_mergeSort.mp ho)
  rw [line_of_mem_ofLine ho]
  exact (List.mem_zipIdx' hm).1

end CommitMessage.Occurrence
