import CommitMessage.Proofs.Message.Forms
import CommitMessage.Proofs.Text.Written
import CommitMessage.Text.Percent

/-! Text with escapes. Whatever characters a text has, it comes back when its escapes are undone, and
so no other text is escaped like it. What is escaped for one segment of a path ends no segment. -/

namespace CommitMessage.Text

variable {count low high value place skip n : Nat} {bytes : Bytes} {t rest : Text} {c : Char}
  {isSafe : Char → Bool}

/-! Bytes read leniently -/

theorem fitting_of_continued (h : continued count low high value bytes = .ok n) :
    (fitting count low high bytes).length = count ∧
      (fitting count low high bytes).foldl (fun value b => value * 64 + (b.toNat - 0x80)) value =
        n := by
  induction count generalizing low high value bytes with
  | zero =>
    rw [continued] at h
    cases h
    exact ⟨rfl, rfl⟩
  | succ count ih =>
    cases bytes with
    | nil => cases h
    | cons b bytes =>
      rw [continued] at h
      split at h
      · next hb =>
        obtain ⟨hlength, hvalue⟩ := ih h
        rw [fitting, if_pos hb, List.length_cons, List.foldl_cons]
        exact ⟨congrArg Nat.succ hlength, hvalue⟩
      · cases h

theorem exists_of_map_eq_ok {α β ε : Type} {f : α → β} {x : Except ε α} {b : β}
    (h : x.map f = .ok b) : ∃ a, x = .ok a ∧ f a = b := by
  cases x with
  | error p => cases h
  | ok a => exact ⟨a, rfl, Except.ok.inj h⟩

/-- Bytes that are a text are read as that text. -/
theorem ofBytesLenientlyFrom_eq (h : ofBytesFrom place skip bytes = .ok t) :
    ofBytesLenientlyFrom skip bytes = t := by
  induction bytes generalizing place skip t with
  | nil =>
    cases h
    rfl
  | cons b bytes ih =>
    cases skip with
    | succ skip => exact ih h
    | zero =>
      rw [ofBytesFrom] at h
      rw [ofBytesLenientlyFrom]
      split at h
      · next hb =>
        obtain ⟨rest, hr, rfl⟩ := exists_of_map_eq_ok h
        rw [if_pos hb, ih hr]
      · next hb =>
        rw [if_neg hb]
        split at h
        · cases h
        · next count low high hc =>
          split at h
          · cases h
          · next value hv =>
            obtain ⟨rest, hr, rfl⟩ := exists_of_map_eq_ok h
            obtain ⟨hlength, hvalue⟩ := fitting_of_continued hv
            simp only [hlength, hvalue, if_true, ih hr]

theorem ofBytesLeniently_toBytes (t : Text) : ofBytesLeniently t.toBytes = t :=
  ofBytesLenientlyFrom_eq (ofBytes_toBytes t)

/-! Escapes -/

theorem hexValue?_digitChar : ∀ n < 16, hexValue? (Nat.digitChar n).toUpper = some n := by decide

theorem unescapedBytes_percentByte (b : UInt8) (rest : Text) :
    unescapedBytes (percentByte b ++ rest) = b :: unescapedBytes rest := by
  have hhigh := hexValue?_digitChar (b.toNat / 16) (by have := b.toNat_lt; omega)
  have hlow := hexValue?_digitChar (b.toNat % 16) (by omega)
  have hbyte : b.toNat / 16 * 16 + b.toNat % 16 = b.toNat := by omega
  simp only [percentByte, List.cons_append, List.nil_append, unescapedBytes, hhigh, hlow, hbyte,
    UInt8.ofNat_toNat]

theorem unescapedBytes_percentBytes (bytes : Bytes) (rest : Text) :
    unescapedBytes (bytes.flatMap percentByte ++ rest) = bytes ++ unescapedBytes rest := by
  induction bytes with
  | nil => rfl
  | cons b bytes ih =>
    rw [List.flatMap_cons, List.append_assoc, unescapedBytes_percentByte, ih, List.cons_append]

theorem unescapedBytes_cons (hc : c ≠ '%') (rest : Text) :
    unescapedBytes (c :: rest) = toBytes [c] ++ unescapedBytes rest := by
  rw [unescapedBytes]
  exact fun _ _ _ he => absurd he hc

theorem unescapedBytes_escape (hs : isSafe '%' = false) (t : Text) :
    unescapedBytes (t.escape isSafe) = t.toBytes := by
  induction t with
  | nil => rfl
  | cons c t ih =>
    have hsplit : toBytes (c :: t) = String.utf8EncodeChar c ++ toBytes t := List.flatMap_cons
    rw [escape, List.flatMap_cons, ← escape, hsplit]
    split
    · next hc =>
      have hne : c ≠ '%' := by
        rintro rfl
        simp [hs] at hc
      rw [List.singleton_append, unescapedBytes_cons hne, ih]
      simp [toBytes]
    · rw [unescapedBytes_percentBytes, ih]

theorem unescape_escape (hs : isSafe '%' = false) (t : Text) : (t.escape isSafe).unescape = t := by
  rw [unescape, unescapedBytes_escape hs, ofBytesLeniently_toBytes]

theorem unescape_percentEncode (t : Text) : (percentEncode t).unescape = t :=
  unescape_escape (by decide) t

theorem percentEncode_injective : Function.Injective percentEncode :=
  Function.LeftInverse.injective unescape_percentEncode

theorem percentEncode_ne_nil (h : t ≠ []) : percentEncode t ≠ [] := fun he =>
  h (percentEncode_injective he)

/-! Segments -/

/-- A character that neither ends a segment of a path nor is a blank. -/
def IsOfSegment (c : Char) : Prop := c ≠ '/' ∧ c ≠ '?' ∧ c ≠ '#' ∧ isBlank c = false

theorem isOfSegment_of_isUnreserved (h : isUnreserved c = true ∨ c = '%') : IsOfSegment c := by
  have hp : isUnreserved c = true ∨ c = '%' → (isUnreserved c || c == '%') = true := by simp
  refine ⟨?_, ?_, ?_, ?_⟩
  · rintro rfl
    exact absurd h (by decide)
  · rintro rfl
    exact absurd h (by decide)
  · rintro rfl
    exact absurd h (by decide)
  · by_contra hb
    have hnot := eq_false_of_isBlank
      (p := fun n => isUnreserved (Char.ofNat n) || Char.ofNat n == '%')
      (by simpa using hb) (by decide +kernel)
    rw [Char.ofNat_toNat, hp h] at hnot
    cases hnot

theorem isUnreserved_digitChar : ∀ n < 16, isUnreserved (Nat.digitChar n).toUpper = true := by
  decide

theorem isUnreserved_of_mem_percentByte {b : UInt8} (h : c ∈ percentByte b) :
    isUnreserved c = true ∨ c = '%' := by
  have hb := b.toNat_lt
  simp only [percentByte, List.mem_cons, List.not_mem_nil, or_false] at h
  rcases h with rfl | rfl | rfl
  · exact .inr rfl
  · exact .inl (isUnreserved_digitChar _ (by omega))
  · exact .inl (isUnreserved_digitChar _ (by omega))

theorem isOfSegment_of_mem_percentEncode (h : c ∈ percentEncode t) : IsOfSegment c := by
  obtain ⟨d, -, hc⟩ := List.mem_flatMap.mp h
  split at hc
  · next hd => exact isOfSegment_of_isUnreserved (.inl (List.mem_singleton.mp hc ▸ hd))
  · obtain ⟨b, -, hb⟩ := List.mem_flatMap.mp hc
    exact isOfSegment_of_isUnreserved (isUnreserved_of_mem_percentByte hb)

end CommitMessage.Text
