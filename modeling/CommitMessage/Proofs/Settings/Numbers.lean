import Mathlib
import CommitMessage.Settings.Basic

/-! Numbers as settings hold them: which quotients are too large for a binary number, and what a
number is that is not less than the least timeout. -/

namespace CommitMessage

/-- Rounding reaches an even number from halfway below it. -/
theorem roundHalfEven_eq_iff {num den : Nat} (top : Nat) (hd : 0 < den)
    (h : num < (2 * top + 2) * den) :
    roundHalfEven num den = 2 * top + 2 ↔ (4 * top + 3) * den ≤ 2 * num := by
  have hr := Nat.mod_lt num hd
  have hsplit := Nat.div_add_mod num den
  have hq : num / den < 2 * top + 2 := (Nat.div_lt_iff_lt_mul hd).mpr h
  simp only [roundHalfEven]
  generalize num / den = q at *
  generalize num % den = r at *
  subst hsplit
  rcases Nat.lt_or_ge q (2 * top + 1) with hlow | hhigh
  · have hle : den * (q + 1) ≤ den * (2 * top + 1) := Nat.mul_le_mul_left den hlow
    constructor
    · intro hround
      split_ifs at hround <;> omega
    · intro hround
      nlinarith
  · obtain rfl : q = 2 * top + 1 := by omega
    have hhalf : (4 * top + 3) * den ≤ 2 * (den * (2 * top + 1) + r) ↔ den ≤ 2 * r := by
      have : (4 * top + 3) * den = 2 * (den * (2 * top + 1)) + den := by ring
      omega
    rw [hhalf]
    split_ifs <;> omega

namespace Binary64

/-- The least whole number that rounds to a power of two that is no number any more: it lies
halfway between that power and the greatest number. -/
def beyond : Nat := (2 ^ 54 - 1) * 2 ^ 970

theorem beyond_pos : 0 < beyond := by
  unfold beyond
  positivity

/-! A quotient in units of a power of two -/

variable {num den : Nat} {exponent : Int}

theorem scaled_pos (num : Nat) (hd : 0 < den) (exponent : Int) :
    0 < (scaled num den exponent).2 := by
  unfold scaled
  split_ifs
  · exact Nat.mul_pos hd (Nat.pow_pos (by decide))
  · exact hd

theorem le_scaled_iff (num den : Nat) (exponent : Int) (a b : Nat) :
    a * (scaled num den exponent).2 ≤ b * (scaled num den exponent).1 ↔
      (a * den * 2 ^ exponent : ℚ) ≤ b * num := by
  unfold scaled
  split_ifs with he
  · obtain ⟨k, rfl⟩ := Int.eq_ofNat_of_zero_le he
    have hcast : ((2 ^ k : Nat) : ℚ) = 2 ^ (k : Int) := by push_cast; rw [zpow_natCast]
    simp only [Int.toNat_natCast]
    rw [← Nat.cast_le (α := ℚ)]
    push_cast
    rw [mul_assoc]
    simp
  · obtain ⟨k, rfl⟩ : ∃ k : Nat, exponent = -k := ⟨(-exponent).toNat, by omega⟩
    have hpos : (0 : ℚ) < 2 ^ k := by positivity
    simp only [neg_neg, Int.toNat_natCast]
    rw [← Nat.cast_le (α := ℚ), zpow_neg, zpow_natCast, ← div_eq_mul_inv, div_le_iff₀ hpos]
    push_cast
    rw [mul_assoc (b : ℚ)]

theorem scaled_lt_iff (num den : Nat) (exponent : Int) (a : Nat) :
    (scaled num den exponent).1 < a * (scaled num den exponent).2 ↔
      (num : ℚ) < a * den * 2 ^ exponent := by
  have h := le_scaled_iff num den exponent a 1
  rw [one_mul, Nat.cast_one, one_mul] at h
  rw [← not_le, ← not_le, h]

/-! The exponent of a quotient -/

/-- The lesser of the two exponents that a quotient can get. -/
def lowExponent (num den : Nat) : Int := max ((num.log2 : Int) - den.log2 - 53) leastExponent

def exponentOf (num den : Nat) : Int :=
  let (n, d) := scaled num den (lowExponent num den)
  if n / d < 2 ^ 53 then lowExponent num den else lowExponent num den + 1

theorem ofRatio_eq (negative : Bool) (hn : num ≠ 0) (den : Nat) : ofRatio negative num den =
    ofParts negative (roundHalfEven (scaled num den (exponentOf num den)).1
      (scaled num den (exponentOf num den)).2) (exponentOf num den) := by
  rw [ofRatio, if_neg hn]
  rfl

theorem cast_lt_two_zpow (n : Nat) : (n : ℚ) < 2 ^ ((n.log2 : Int) + 1) := by
  have h : n < 2 ^ (n.log2 + 1) := Nat.lt_log2_self
  exact_mod_cast h

theorem two_zpow_le_cast (hn : num ≠ 0) : (2 : ℚ) ^ (num.log2 : Int) ≤ num := by
  have h := Nat.log2_self_le hn
  exact_mod_cast h

theorem lt_of_exponentOf (num : Nat) (hd : 0 < den) :
    (num : ℚ) < 2 ^ 53 * den * 2 ^ exponentOf num den := by
  have hdpos := scaled_pos num hd (lowExponent num den)
  unfold exponentOf
  dsimp only
  split_ifs with hsmall
  · have h := (Nat.div_lt_iff_lt_mul hdpos).mp hsmall
    exact_mod_cast (scaled_lt_iff num den _ (2 ^ 53)).mp h
  · have hlow : (num.log2 : Int) - den.log2 - 53 ≤ lowExponent num den := le_max_left _ _
    have hden := two_zpow_le_cast hd.ne'
    calc (num : ℚ) < 2 ^ ((num.log2 : Int) + 1) := cast_lt_two_zpow num
      _ ≤ 2 ^ ((53 : Int) + den.log2 + (lowExponent num den + 1)) :=
        zpow_le_zpow_right₀ (by norm_num) (by omega)
      _ = 2 ^ 53 * 2 ^ (den.log2 : Int) * 2 ^ (lowExponent num den + 1) := by
        rw [zpow_add₀ two_ne_zero (53 + _), zpow_add₀ two_ne_zero 53]
        norm_num
      _ ≤ 2 ^ 53 * den * 2 ^ (lowExponent num den + 1) := by gcongr

theorem le_of_exponentOf (hn : num ≠ 0) (hd : 0 < den) (he : leastExponent < exponentOf num den) :
    2 ^ 52 * (den : ℚ) * 2 ^ exponentOf num den ≤ num := by
  have hdpos := scaled_pos num hd (lowExponent num den)
  unfold exponentOf at he ⊢
  dsimp only at he ⊢
  split_ifs at he ⊢ with hsmall
  · have hlow : lowExponent num den = (num.log2 : Int) - den.log2 - 53 := by
      unfold lowExponent at he ⊢
      omega
    have hden := (cast_lt_two_zpow den).le
    calc 2 ^ 52 * (den : ℚ) * 2 ^ lowExponent num den
        ≤ 2 ^ 52 * 2 ^ ((den.log2 : Int) + 1) * 2 ^ lowExponent num den := by gcongr
      _ = 2 ^ ((52 : Int) + (den.log2 + 1) + lowExponent num den) := by
        rw [zpow_add₀ two_ne_zero (52 + _), zpow_add₀ two_ne_zero 52]
        norm_num
      _ = 2 ^ (num.log2 : Int) := by rw [hlow]; congr 1; omega
      _ ≤ num := two_zpow_le_cast hn
  · have h := (Nat.le_div_iff_mul_le hdpos).mp (not_lt.mp hsmall)
    have hge : ((2 ^ 53 : Nat) * den * 2 ^ lowExponent num den : ℚ) ≤ (1 : Nat) * num :=
      (le_scaled_iff num den _ (2 ^ 53) 1).mp (by simpa using h)
    rw [zpow_add_one₀ (by norm_num)]
    push_cast at hge
    linarith

/-! Quotients that are too large -/

theorem ofParts_eq_infinity_iff (negative : Bool) (n : Nat) (exponent : Int) :
    ofParts negative n exponent = .infinity negative ↔
      greatestExponent < exponent ∨ exponent = greatestExponent ∧ n = 2 ^ 53 := by
  unfold ofParts
  by_cases h : n = 2 ^ 53
  · rw [if_pos h]
    dsimp only
    split_ifs with he
    · exact iff_of_true rfl (by omega)
    · exact iff_of_false (by simp) (by omega)
  · rw [if_neg h]
    dsimp only
    split_ifs with he
    · exact iff_of_true rfl (.inl he)
    · exact iff_of_false (by simp) (by omega)

theorem ofRatio_eq_infinity_iff (negative : Bool) (num : Nat) (hd : 0 < den) :
    ofRatio negative num den = .infinity negative ↔ beyond * den ≤ num := by
  by_cases hn : num = 0
  · have hpos := Nat.mul_pos beyond_pos hd
    refine iff_of_false ?_ (by omega)
    simp [ofRatio, hn]
  have hlt := lt_of_exponentOf num hd
  have hle := le_of_exponentOf hn hd
  have hdpos := scaled_pos num hd (exponentOf num den)
  have hden : (0 : ℚ) < den := by exact_mod_cast hd
  have hround : roundHalfEven (scaled num den (exponentOf num den)).1
      (scaled num den (exponentOf num den)).2 = 2 ^ 53 ↔
        ((2 ^ 54 - 1 : Nat) * den * 2 ^ exponentOf num den : ℚ) ≤ (2 : Nat) * num := by
    have hbound :=
      (scaled_lt_iff num den (exponentOf num den) (2 ^ 53)).mpr (by exact_mod_cast hlt)
    rw [← le_scaled_iff]
    exact roundHalfEven_eq_iff (2 ^ 52 - 1) hdpos hbound
  have hbeyond : beyond * den ≤ num ↔ ((2 ^ 54 - 1) * den * 2 ^ (970 : Int) : ℚ) ≤ num := by
    have hcast : ((beyond * den : Nat) : ℚ) = (2 ^ 54 - 1) * den * 2 ^ (970 : Int) := by
      rw [beyond, Nat.cast_mul, Nat.cast_mul, Nat.cast_pow, ← zpow_natCast, mul_right_comm]
      norm_num
    rw [← Nat.cast_le (α := ℚ), hcast]
  have hhalf : (0 : ℚ) < 2 ^ (970 : Int) := by positivity
  have hnext : (2 : ℚ) ^ (971 : Int) = 2 ^ (970 : Int) * 2 := zpow_add_one₀ two_ne_zero 970
  rw [ofRatio_eq negative hn, ofParts_eq_infinity_iff, hround, hbeyond]
  generalize exponentOf num den = e at *
  -- below the greatest exponent the quotient is small, above it is large, and at it the rounding
  -- decides
  rcases lt_trichotomy e greatestExponent with hless | rfl | hmore
  · have hpow : (2 : ℚ) ^ e ≤ 2 ^ (970 : Int) :=
      zpow_le_zpow_right₀ (by norm_num) (Int.le_of_lt_add_one hless)
    refine iff_of_false (by omega) (not_le.mpr (hlt.trans_le ?_))
    generalize (2 : ℚ) ^ (970 : Int) = k at *
    nlinarith [mul_le_mul_of_nonneg_left hpow hden.le, mul_pos hden hhalf]
  · rw [greatestExponent, hnext]
    generalize (2 : ℚ) ^ (970 : Int) = k at *
    simp only [lt_irrefl, false_or, true_and]
    push_cast
    constructor <;> intro h <;> linarith
  · have hpow : (2 : ℚ) ^ (971 : Int) * 2 ≤ 2 ^ e := by
      rw [← zpow_add_one₀ two_ne_zero]
      exact zpow_le_zpow_right₀ (by norm_num) hmore
    have hlarge := hle (lt_trans (by decide) hmore)
    refine iff_of_true (.inl hmore) (le_trans ?_ hlarge)
    rw [hnext] at hpow
    generalize (2 : ℚ) ^ (970 : Int) = k at *
    nlinarith [mul_le_mul_of_nonneg_left hpow hden.le, mul_pos hden hhalf]

theorem sign_of_ofRatio_eq_infinity {negative sign : Bool}
    (h : ofRatio negative num den = .infinity sign) : sign = negative := by
  by_cases hn : num = 0
  · rw [ofRatio, if_pos hn] at h
    cases h
  · rw [ofRatio_eq negative hn] at h
    unfold ofParts at h
    dsimp only at h
    split_ifs at h <;> cases h <;> rfl

/-! The least exponent -/

/-- The exponent of a finite number is not below the least one. -/
def IsInRange : Binary64 → Prop
  | finite _ _ exponent => leastExponent ≤ exponent
  | _ => True

theorem isInRange_ofParts (negative : Bool) (n : Nat) (he : leastExponent ≤ exponent) :
    (ofParts negative n exponent).IsInRange := by
  unfold ofParts
  split_ifs
  · dsimp only
    split_ifs
    · trivial
    · exact he.trans (Int.le_add_one le_rfl)
  · dsimp only
    split_ifs
    · trivial
    · exact he

theorem isInRange_ofRatio (negative : Bool) (num den : Nat) :
    (ofRatio negative num den).IsInRange := by
  by_cases hn : num = 0
  · rw [ofRatio, if_pos hn]
    exact le_refl leastExponent
  · rw [ofRatio_eq negative hn]
    have hlow : leastExponent ≤ lowExponent num den := le_max_right _ _
    refine isInRange_ofParts _ _ ?_
    unfold exponentOf
    dsimp only
    split_ifs
    · exact hlow
    · exact hlow.trans (Int.le_add_one le_rfl)

theorem isInRange_ofDecimal (negative : Bool) (n : Nat) (exponent : Int) :
    (ofDecimal negative n exponent).IsInRange := by
  unfold ofDecimal
  dsimp only
  split_ifs
  · exact le_refl leastExponent
  · trivial
  · exact le_refl leastExponent
  · exact isInRange_ofRatio _ _ _
  · exact isInRange_ofRatio _ _ _

theorem ofDecimal_ne_nan (negative : Bool) (n : Nat) (exponent : Int) :
    ofDecimal negative n exponent ≠ .nan := by
  have hparts (n : Nat) (e : Int) : ofParts negative n e ≠ .nan := by
    unfold ofParts
    split_ifs <;> dsimp only <;> split_ifs <;> simp
  have hratio (num den : Nat) : ofRatio negative num den ≠ .nan := by
    by_cases hn : num = 0
    · rw [ofRatio, if_pos hn]
      simp
    · rw [ofRatio_eq negative hn]
      exact hparts _ _
  unfold ofDecimal
  dsimp only
  split_ifs
  · simp
  · simp
  · simp
  · exact hratio _ _
  · exact hratio _ _

end Binary64

namespace Written

/-- The text is nan in letters of any case, with a sign or without one. -/
def IsNan (t : Text) : Prop :=
  ∃ plain, plain? t = some plain ∧ (splitSign plain).2.map Char.toLower = "nan".toList

theorem number?_cases {t : Text} {x : Binary64} (h : number? t = some x) :
    (x = .nan ∧ IsNan t) ∨ (∃ negative, x = .infinity negative) ∨
      ∃ negative n exponent, x = .ofDecimal negative n exponent := by
  simp only [number?, Option.bind_eq_bind, Option.bind_eq_some_iff] at h
  obtain ⟨plain, hplain, h⟩ := h
  split_ifs at h with hnan hinf
  · cases h
    exact .inl ⟨rfl, plain, hplain, by rw [← hnan, String.toList_ofList]⟩
  · cases h
    exact .inr (.inl ⟨_, rfl⟩)
  · simp only [unsigned?, Option.bind_eq_bind] at h
    split_ifs at h
    obtain ⟨exponent, -, h⟩ := Option.bind_eq_some_iff.mp h
    cases h
    exact .inr (.inr ⟨_, _, _, rfl⟩)

theorem isInRange_number? {t : Text} {x : Binary64} (h : number? t = some x) : x.IsInRange := by
  rcases number?_cases h with ⟨rfl, -⟩ | ⟨negative, rfl⟩ | ⟨negative, n, exponent, rfl⟩
  · trivial
  · trivial
  · exact Binary64.isInRange_ofDecimal negative n exponent

theorem number?_eq_nan_iff {t : Text} : number? t = some .nan ↔ IsNan t := by
  constructor
  · intro h
    rcases number?_cases h with ⟨-, hnan⟩ | ⟨negative, he⟩ | ⟨negative, n, exponent, he⟩
    · exact hnan
    · cases he
    · exact absurd he.symm (Binary64.ofDecimal_ne_nan negative n exponent)
  · rintro ⟨plain, hplain, hword⟩
    have hnan : String.ofList ((splitSign plain).2.map Char.toLower) = "nan" := by
      rw [hword]
      rfl
    simp only [number?, hplain, Option.bind_eq_bind, Option.bind_some, hnan, if_true]
    rfl

end Written

/-! Spans of time -/

theorem Settings.seconds?_eq_none_iff (ms : Nat) :
    Settings.seconds? ms = none ↔ Binary64.beyond * 1000 ≤ ms := by
  rw [← Binary64.ofRatio_eq_infinity_iff false ms (by decide), Settings.seconds?]
  split
  · next sign h =>
    obtain rfl := Binary64.sign_of_ofRatio_eq_infinity h
    exact iff_of_true rfl h
  · next h => exact iff_of_false (by simp) (h false)

/-- What a number counts in units of the least exponent. -/
theorem Binary64.units_cast (negative : Bool) (n k : Nat) :
    (Binary64.units negative n (k - 1074) : ℚ) =
      (if negative then -1 else 1) * (n * 2 ^ (k : Int)) := by
  have hk : ((k : Int) - 1074 - Binary64.leastExponent).toNat = k := by
    rw [Binary64.leastExponent]
    omega
  simp only [Binary64.units, hk]
  cases negative <;> simp

namespace Settings

theorem leastTimeout_eq : leastTimeout = .finite false 7205759403792794 (-56) := by decide

/-- What a number is that is not less than the least timeout. Nothing that is not a number is less
than anything. -/
def IsLongEnough (x : Binary64) : Prop :=
  x = .infinity false ∨ ∃ n e, x = .finite false n e ∧ (1 / 10 : ℚ) ≤ n * 2 ^ (e : Int)

theorem eq_nan_or_isLongEnough {x : Binary64} (hx : x.IsInRange)
    (h : x.less leastTimeout = false) : x = .nan ∨ IsLongEnough x := by
  rw [leastTimeout_eq] at h
  cases x with
  | nan => exact .inl rfl
  | infinity negative =>
    obtain rfl : negative = false := h
    exact .inr (.inl rfl)
  | finite negative n e =>
    obtain ⟨k, hk⟩ : ∃ k : Nat, e = k - 1074 := ⟨(e + 1074).toNat, by
      have he : -1074 ≤ e := hx
      omega⟩
    subst hk
    have hless : Binary64.units false 7205759403792794 (-56) ≤
        Binary64.units negative n (k - 1074) := by simpa [Binary64.less] using h
    have hleast : (Binary64.units false 7205759403792794 (-56) : ℚ) = _ :=
      Binary64.units_cast false 7205759403792794 1018
    have hunits := Binary64.units_cast negative n k
    have hcast : (Binary64.units false 7205759403792794 (-56) : ℚ) ≤
        Binary64.units negative n (k - 1074) := Int.cast_le.mpr hless
    have hpos : (0 : ℚ) < 2 ^ ((1018 : Nat) : Int) := zpow_pos two_pos _
    have hunit : (2 : ℚ) ^ (1074 : Int) = 2 ^ ((1018 : Nat) : Int) * 2 ^ (56 : Int) :=
      zpow_add₀ two_ne_zero 1018 56
    have hsize : (0 : ℚ) ≤ n * 2 ^ (k : Int) :=
      mul_nonneg (Nat.cast_nonneg n) (zpow_nonneg zero_le_two _)
    rw [hunits, hleast] at hcast
    cases negative with
    | true =>
      simp only [Bool.false_eq_true, if_false, if_true, one_mul] at hcast
      generalize (2 : ℚ) ^ ((1018 : Nat) : Int) = unit at *
      push_cast at hcast
      linarith only [hcast, hpos, hsize]
    | false =>
      refine .inr (.inr ⟨n, k - 1074, rfl, ?_⟩)
      rw [zpow_sub₀ two_ne_zero, ← mul_div_assoc, le_div_iff₀ (zpow_pos two_pos _), hunit]
      simp only [Bool.false_eq_true, if_false, one_mul] at hcast
      generalize (2 : ℚ) ^ ((1018 : Nat) : Int) = unit at *
      push_cast at hcast
      have hscale : (2 : ℚ) ^ (56 : Int) = 72057594037927936 := by norm_num
      rw [hscale]
      linarith only [hcast, hpos]

end Settings

end CommitMessage
