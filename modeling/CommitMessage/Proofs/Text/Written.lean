import Mathlib
import CommitMessage.Proofs.Message.Layout
import CommitMessage.Text.Utf8

/-! A text that is written as bytes and read back: the bytes give the same characters, and a text
with every end of a line as a line feed has the lines of the text, unless a carriage return stands
alone. -/

namespace CommitMessage.Text

/-! Bytes -/

theorem ofBytesFrom_skip (place : Nat) (bytes rest : Bytes) :
    ofBytesFrom place bytes.length (bytes ++ rest) = ofBytesFrom (place + bytes.length) 0 rest := by
  induction bytes generalizing place with
  | nil => rfl
  | cons b bytes ih =>
    rw [List.length_cons, List.cons_append, ofBytesFrom, ih]
    congr 1
    omega

variable {b : UInt8} {tail rest : Bytes} {count low high value n : Nat}

theorem ofBytesFrom_lead (place : Nat) (hb : ¬ b.toNat < 0x80)
    (hl : continuation? b.toNat = some (tail.length, low, high))
    (hv : continued tail.length low high (leadBits tail.length b.toNat) (tail ++ rest) = .ok n) :
    ofBytesFrom place 0 (b :: tail ++ rest) =
      (ofBytesFrom (place + (b :: tail).length) 0 rest).map (Char.ofNat n :: ·) := by
  rw [List.cons_append, ofBytesFrom, if_neg hb]
  simp only [hl, hv, ofBytesFrom_skip, List.length_cons]
  congr 2
  omega

theorem continued_cons (hb : low ≤ b.toNat ∧ b.toNat ≤ high) :
    continued (count + 1) low high value (b :: rest) =
      continued count 0x80 0xbf (value * 64 + (b.toNat - 0x80)) rest := by
  rw [continued, if_pos hb]

theorem toNat_ofNat_of_lt (h : n < 256) : (UInt8.ofNat n).toNat = n := by
  rw [UInt8.toNat_ofNat']
  exact Nat.mod_eq_of_lt h

/-- A continuation byte holds six bits. -/
theorem toNat_sixBits (n : Nat) : (UInt8.ofNat (n % 64 + 128)).toNat = n % 64 + 128 :=
  toNat_ofNat_of_lt (by omega)

theorem ofBytesFrom_two (place : Nat) (h : 0x7f < n) (h' : n ≤ 0x7ff) :
    ofBytesFrom place 0 ([UInt8.ofNat (n / 64 % 32 + 192), UInt8.ofNat (n % 64 + 128)] ++ rest) =
      (ofBytesFrom (place + 2) 0 rest).map (Char.ofNat n :: ·) := by
  have hlead := toNat_ofNat_of_lt (show n / 64 % 32 + 192 < 256 by omega)
  have hl : continuation? (n / 64 % 32 + 192) = some (1, 0x80, 0xbf) := by
    rw [continuation?, if_pos (by omega)]
  refine ofBytesFrom_lead place (by omega) (hlead.symm ▸ hl) ?_
  have hn : (n / 64 % 32 + 192 - 0xc0) * 64 + (n % 64 + 128 - 0x80) = n := by omega
  simp only [List.singleton_append, List.length_singleton, leadBits, if_true, hlead]
  rw [continued_cons (by rw [toNat_sixBits]; omega), toNat_sixBits, hn, continued]

theorem ofBytesFrom_three (place : Nat) (h : 0x7ff < n) (h' : n ≤ 0xffff)
    (hn : n < 0xd800 ∨ 0xdfff < n) :
    ofBytesFrom place 0 ([UInt8.ofNat (n / 4096 % 16 + 224), UInt8.ofNat (n / 64 % 64 + 128),
      UInt8.ofNat (n % 64 + 128)] ++ rest) =
      (ofBytesFrom (place + 3) 0 rest).map (Char.ofNat n :: ·) := by
  have hlead := toNat_ofNat_of_lt (show n / 4096 % 16 + 224 < 256 by omega)
  obtain ⟨low, high, hl, hfirst⟩ : ∃ low high,
      continuation? (n / 4096 % 16 + 224) = some (2, low, high) ∧
        low ≤ n / 64 % 64 + 128 ∧ n / 64 % 64 + 128 ≤ high := by
    unfold continuation?
    split_ifs <;> first | omega | exact ⟨_, _, rfl, by omega, by omega⟩
  refine ofBytesFrom_lead place (by omega) (hlead.symm ▸ hl) ?_
  have hn : ((n / 4096 % 16 + 224 - 0xe0) * 64 + (n / 64 % 64 + 128 - 0x80)) * 64 +
      (n % 64 + 128 - 0x80) = n := by omega
  simp only [List.cons_append, List.nil_append, List.length_cons, List.length_nil, leadBits, hlead,
    Nat.reduceAdd, Nat.reduceEqDiff, if_true, if_false]
  rw [continued_cons (by rw [toNat_sixBits]; exact hfirst),
    continued_cons (by rw [toNat_sixBits]; omega), toNat_sixBits, toNat_sixBits, hn, continued]

theorem ofBytesFrom_four (place : Nat) (h : 0xffff < n) (h' : n < 0x110000) :
    ofBytesFrom place 0 ([UInt8.ofNat (n / 262144 % 8 + 240), UInt8.ofNat (n / 4096 % 64 + 128),
      UInt8.ofNat (n / 64 % 64 + 128), UInt8.ofNat (n % 64 + 128)] ++ rest) =
      (ofBytesFrom (place + 4) 0 rest).map (Char.ofNat n :: ·) := by
  have hlead := toNat_ofNat_of_lt (show n / 262144 % 8 + 240 < 256 by omega)
  obtain ⟨low, high, hl, hfirst⟩ : ∃ low high,
      continuation? (n / 262144 % 8 + 240) = some (3, low, high) ∧
        low ≤ n / 4096 % 64 + 128 ∧ n / 4096 % 64 + 128 ≤ high := by
    unfold continuation?
    split_ifs <;> first | omega | exact ⟨_, _, rfl, by omega, by omega⟩
  refine ofBytesFrom_lead place (by omega) (hlead.symm ▸ hl) ?_
  have hn : (((n / 262144 % 8 + 240 - 0xf0) * 64 + (n / 4096 % 64 + 128 - 0x80)) * 64 +
      (n / 64 % 64 + 128 - 0x80)) * 64 + (n % 64 + 128 - 0x80) = n := by omega
  simp only [List.cons_append, List.nil_append, List.length_cons, List.length_nil, leadBits, hlead,
    Nat.reduceAdd, Nat.reduceEqDiff, if_false]
  rw [continued_cons (by rw [toNat_sixBits]; exact hfirst),
    continued_cons (by rw [toNat_sixBits]; omega), continued_cons (by rw [toNat_sixBits]; omega),
    toNat_sixBits, toNat_sixBits, toNat_sixBits, hn, continued]

theorem ofBytesFrom_utf8EncodeChar (place : Nat) (c : Char) (rest : Bytes) :
    ofBytesFrom place 0 (String.utf8EncodeChar c ++ rest) =
      (ofBytesFrom (place + (String.utf8EncodeChar c).length) 0 rest).map (c :: ·) := by
  have hvalid : c.val.toNat < 0xd800 ∨ 0xdfff < c.val.toNat ∧ c.val.toNat < 0x110000 := c.valid
  have hc : Char.ofNat c.val.toNat = c := Char.ofNat_toNat c
  unfold String.utf8EncodeChar
  generalize c.val.toNat = n at *
  subst hc
  dsimp only
  split_ifs with h1 h2 h3
  · have hn := toNat_ofNat_of_lt (show n < 256 by omega)
    rw [List.singleton_append, ofBytesFrom, hn, if_pos (by omega)]
    rfl
  · exact ofBytesFrom_two place (by omega) h2
  · exact ofBytesFrom_three place (by omega) h3 (by omega)
  · exact ofBytesFrom_four place (by omega) (by omega)

theorem ofBytesFrom_toBytes (place : Nat) (t : Text) : ofBytesFrom place 0 t.toBytes = .ok t := by
  induction t generalizing place with
  | nil => rfl
  | cons c t ih =>
    rw [toBytes, List.flatMap_cons, ofBytesFrom_utf8EncodeChar]
    change Except.map _ (ofBytesFrom _ 0 (toBytes t)) = _
    rw [ih]
    rfl

theorem ofBytes_toBytes (t : Text) : ofBytes t.toBytes = .ok t := ofBytesFrom_toBytes 0 t

/-! Ends of lines -/

/-- Every carriage return stands right before a line feed. -/
def HasNoLoneReturn (t : Text) : Prop :=
  ∀ before after : Text, t = before ++ '\r' :: after → after.head? = some '\n'

theorem hasNoLoneReturn_cons {c : Char} {t : Text} :
    HasNoLoneReturn (c :: t) ↔ (c = '\r' → t.head? = some '\n') ∧ HasNoLoneReturn t := by
  constructor
  · intro h
    refine ⟨?_, fun before after ht => h (c :: before) after (by rw [ht, List.cons_append])⟩
    rintro rfl
    exact h [] t rfl
  · rintro ⟨hc, ht⟩ (_ | ⟨d, before⟩) after he
    · obtain ⟨rfl, rfl⟩ := List.cons.inj he
      exact hc rfl
    · exact ht before after (List.cons.inj he).2

theorem return_not_mem_lineFeeds (t : Text) : '\r' ∉ t.lineFeeds := by
  induction t using lineFeeds.induct with
  | case1 rest ih => simpa [lineFeeds] using ih
  | case2 rest hn ih =>
    rw [lineFeeds]
    · simpa using ih
    · exact hn
  | case3 c rest hn hc ih =>
    rw [lineFeeds]
    · rw [List.mem_cons, not_or]
      exact ⟨fun he => hc he.symm, ih⟩
    · exact hn
    · exact hc
  | case4 => exact List.not_mem_nil

theorem plainBreaks_lineFeeds (t : Text) : plainBreaks t.lineFeeds = t.lineFeeds :=
  plainBreaks_of_notMem (return_not_mem_lineFeeds t)

theorem return_mem_plainBreaks_iff (t : Text) : '\r' ∈ plainBreaks t ↔ ¬ HasNoLoneReturn t := by
  induction t using plainBreaks.induct with
  | case1 rest ih =>
    rw [plainBreaks, hasNoLoneReturn_cons, hasNoLoneReturn_cons]
    simpa using ih
  | case2 c rest hn ih =>
    rw [plainBreaks, List.mem_cons, ih, hasNoLoneReturn_cons, not_and_or]
    · refine or_congr_left ⟨fun hc h => ?_, fun hc => ?_⟩
      · obtain ⟨later, hl⟩ := List.head?_eq_some_iff.mp (h hc.symm)
        exact hn later hc.symm hl
      · by_contra hne
        exact hc fun he => absurd he.symm hne
    · exact hn
  | case3 =>
    refine iff_of_false List.not_mem_nil (not_not.mpr fun before after he => ?_)
    simp at he

theorem lineFeeds_eq_plainBreaks {t : Text} (h : HasNoLoneReturn t) :
    t.lineFeeds = plainBreaks t := by
  induction t using lineFeeds.induct with
  | case1 rest ih =>
    have hrest := (hasNoLoneReturn_cons.mp (hasNoLoneReturn_cons.mp h).2).2
    rw [lineFeeds, plainBreaks, ih hrest]
  | case2 rest hn ih =>
    obtain ⟨later, hl⟩ := List.head?_eq_some_iff.mp ((hasNoLoneReturn_cons.mp h).1 rfl)
    exact absurd hl (hn later)
  | case3 c rest hn hc ih =>
    rw [lineFeeds, plainBreaks, ih (hasNoLoneReturn_cons.mp h).2]
    · exact hn
    · exact hn
    · exact hc
  | case4 => rfl

theorem joinWith_messageLines (t : Text) :
    joinWith ['\n'] t.messageLines = dropFinal '\n' (plainBreaks t) := by
  unfold messageLines
  split
  · next he => rw [he]; rfl
  · exact joinWith_pieces '\n' _

theorem mem_dropFinal_iff {c d : Char} (h : c ≠ d) (t : Text) : c ∈ dropFinal d t ↔ c ∈ t := by
  unfold dropFinal
  split
  · next hlast =>
    obtain ⟨front, rfl⟩ := List.getLast?_eq_some_iff.mp hlast
    simp [h]
  · rfl

/-- Reading every end of a line as a line feed leaves the lines of a text as they are exactly if
no carriage return stands alone. -/
theorem messageLines_lineFeeds_iff (t : Text) :
    t.lineFeeds.messageLines = t.messageLines ↔ HasNoLoneReturn t := by
  constructor
  · intro h
    by_contra hlone
    have hjoin := congrArg (joinWith ['\n']) h
    rw [joinWith_messageLines, joinWith_messageLines, plainBreaks_lineFeeds] at hjoin
    have hreturn : '\r' ≠ '\n' := by decide
    have hm := (mem_dropFinal_iff hreturn _).mpr ((return_mem_plainBreaks_iff t).mpr hlone)
    rw [← hjoin] at hm
    exact return_not_mem_lineFeeds t ((mem_dropFinal_iff hreturn _).mp hm)
  · intro h
    unfold messageLines
    rw [plainBreaks_lineFeeds, lineFeeds_eq_plainBreaks h]

end CommitMessage.Text
