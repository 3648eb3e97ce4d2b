import Mathlib
import CommitMessage.Address.Url
import CommitMessage.Proofs.Settings.Numbers
import CommitMessage.Proofs.Settings.Reading
import CommitMessage.Workspace.Setup

/-! What settings are good for that have been read without a problem. -/

namespace CommitMessage

/-! Slashes at the end of an address -/

section Slashes

variable {p : Char → Bool} {t s host rest : Text} {mark : Char}

theorem exists_trimSlashes_append (t : Text) :
    ∃ s : Text, t = trimSlashes t ++ s ∧ ∀ c ∈ s, c = '/' := by
  refine ⟨(t.reverse.takeWhile (· == '/')).reverse, ?_, fun c hc => ?_⟩
  · rw [trimSlashes, ← List.reverse_append, List.takeWhile_append_dropWhile, List.reverse_reverse]
  · simpa using List.mem_takeWhile_imp (List.mem_reverse.mp hc)

theorem getLast?_trimSlashes (t : Text) : (trimSlashes t).getLast? ≠ some '/' := by
  intro h
  rw [trimSlashes, List.getLast?_reverse] at h
  have hhead := List.head?_dropWhile_not (· == '/') t.reverse
  rw [h] at hhead
  simp at hhead

theorem takeWhile_append_slashes (hs : ∀ c ∈ s, c = '/') (hp : p '/' = false) :
    (t ++ s).takeWhile p = t.takeWhile p := by
  have hnone : s.takeWhile p = [] := by
    cases s with
    | nil => rfl
    | cons c s => exact List.takeWhile_cons_of_neg (by simp [hs c List.mem_cons_self, hp])
  rw [List.takeWhile_append, hnone, List.append_nil]
  split
  · next hlen => exact ((List.takeWhile_prefix p).eq_of_length hlen).symm
  · rfl

theorem dropWhile_append_slashes (hs : ∀ c ∈ s, c = '/') (hp : p '/' = false) :
    (t ++ s).dropWhile p = t.dropWhile p ++ s := by
  have hall : s.dropWhile p = s := by
    cases s with
    | nil => rfl
    | cons c s => exact List.dropWhile_cons_of_neg (by simp [hs c List.mem_cons_self, hp])
  rw [List.dropWhile_append, hall]
  split
  · next hempty => rw [List.isEmpty_iff.mp hempty, List.nil_append]
  · rfl

theorem Text.cutAt_append (hs : ∀ c ∈ s, c = '/') (hm : mark ≠ '/') :
    (t.cutAt mark = (t, none) ∧ (t ++ s).cutAt mark = (t ++ s, none)) ∨
    ∃ before after, t.cutAt mark = (before, some after) ∧
      (t ++ s).cutAt mark = (before, some (after ++ s)) := by
  have hpass : s.dropWhile (· != mark) = [] :=
    List.dropWhile_eq_nil_iff.mpr fun c hc => by simpa [hs c hc] using Ne.symm hm
  have hdrop : (t ++ s).dropWhile (· != mark) =
      if (t.dropWhile (· != mark)).isEmpty then s.dropWhile (· != mark)
      else t.dropWhile (· != mark) ++ s := List.dropWhile_append
  rw [hpass] at hdrop
  unfold cutAt
  cases ht : t.dropWhile (· != mark) with
  | nil =>
    rw [ht, List.isEmpty_nil, if_pos rfl] at hdrop
    exact .inl ⟨rfl, by rw [hdrop]⟩
  | cons c after =>
    rw [ht, List.isEmpty_cons, if_neg Bool.false_ne_true, List.cons_append] at hdrop
    refine .inr ⟨_, after, rfl, ?_⟩
    have htake : (t ++ s).takeWhile (· != mark) = t.takeWhile (· != mark) := by
      rw [List.takeWhile_append, if_neg]
      intro hlen
      have hsplit : (t.takeWhile (· != mark) ++ t.dropWhile (· != mark)).length = t.length :=
        congrArg List.length List.takeWhile_append_dropWhile
      rw [List.length_append, ht, List.length_cons] at hsplit
      omega
    rw [hdrop, htake]

end Slashes

namespace Address

variable {t s scheme host rest : Text}

theorem cutScheme_of_none (h : t.cutAt ':' = (t, none)) : cutScheme t = ([], t) := by
  unfold cutScheme
  rw [h]
  cases t <;> rfl

theorem cutScheme_append (hs : ∀ c ∈ s, c = '/') (t : Text) :
    cutScheme (t ++ s) = ((cutScheme t).1, (cutScheme t).2 ++ s) := by
  rcases Text.cutAt_append (t := t) hs (show ':' ≠ '/' by decide) with
    ⟨h, h'⟩ | ⟨before, after, h, h'⟩
  · rw [cutScheme_of_none h, cutScheme_of_none h']
  · unfold cutScheme
    rw [h, h']
    cases before with
    | nil => rfl
    | cons c before => dsimp only; split <;> rfl

/-- A host stands after two slashes. -/
theorem exists_of_cutHost_ne_nil (h : (cutHost t).1 ≠ []) :
    ∃ rest, t = '/' :: '/' :: rest ∧ (cutHost t).1 = rest.takeWhile (!isHostEnd ·) := by
  unfold cutHost at h ⊢
  split at h
  · exact ⟨_, rfl, rfl⟩
  · exact absurd rfl h

theorem cutHost_append (hs : ∀ c ∈ s, c = '/') (h : (cutHost (t ++ s)).1 ≠ []) :
    (cutHost t).1 = (cutHost (t ++ s)).1 := by
  obtain ⟨rest, he, hhost⟩ := exists_of_cutHost_ne_nil h
  have hend : (!isHostEnd '/') = false := by decide
  -- with only one slash or none before them, the slashes at the end would leave no host
  have hslashes (hr : ∀ c ∈ rest, c = '/') : False := by
    have hnone : ([] ++ rest).takeWhile (!isHostEnd ·) = [] := takeWhile_append_slashes hr hend
    exact h (hhost.trans hnone)
  rcases t with _ | ⟨c, _ | ⟨d, t⟩⟩
  · exact (hslashes fun c hc => hs c (by simp_all)).elim
  · exact (hslashes fun c hc => hs c (by simp_all)).elim
  · simp only [List.cons_append, List.cons.injEq] at he
    obtain ⟨rfl, rfl, rfl⟩ := he
    rw [hhost]
    exact (takeWhile_append_slashes hs hend).symm

/-- What counts of an address. -/
def cleaned (t : Text) : Text :=
  (t.dropWhile fun c => c.toNat ≤ 32).filter fun c => c ≠ '\t' ∧ c ≠ '\r' ∧ c ≠ '\n'

theorem split_eq_ok_iff : split t = .ok (scheme, host) ↔
    (cutScheme (cleaned t)).1.map Char.toLower = scheme ∧
      (cutHost (cutScheme (cleaned t)).2).1 = host ∧ checkHost host = .ok () := by
  have hsplit : split t = (checkHost (cutHost (cutScheme (cleaned t)).2).1).bind fun _ =>
      .ok ((cutScheme (cleaned t)).1.map Char.toLower, (cutHost (cutScheme (cleaned t)).2).1) := rfl
  rw [hsplit]
  cases hc : checkHost (cutHost (cutScheme (cleaned t)).2).1 with
  | error p =>
    refine iff_of_false (by simp [Except.bind]) ?_
    rintro ⟨-, rfl, hok⟩
    cases hc.symm.trans hok
  | ok u =>
    simp only [Except.bind, Except.ok.injEq, Prod.mk.injEq]
    refine and_congr_right fun _ => ⟨?_, And.left⟩
    rintro rfl
    exact ⟨rfl, hc⟩

/-- An address with a host has the same scheme and host without the slashes at its end. -/
theorem split_trimSlashes (h : split t = .ok (scheme, host)) (hh : host ≠ []) :
    split (trimSlashes t) = .ok (scheme, host) := by
  obtain ⟨s, ht, hs⟩ := exists_trimSlashes_append t
  have hclean : cleaned t = cleaned (trimSlashes t) ++ s := by
    conv_lhs => rw [ht]
    unfold cleaned
    rw [dropWhile_append_slashes hs (by decide), List.filter_append]
    exact congrArg _ (List.filter_eq_self.mpr fun c hc => by rw [hs c hc]; decide)
  obtain ⟨rfl, rfl, hc⟩ := split_eq_ok_iff.mp h
  rw [hclean, cutScheme_append hs] at hh hc ⊢
  exact split_eq_ok_iff.mpr ⟨rfl, cutHost_append hs hh, hc⟩

end Address

/-- A place holds no host if nothing stands behind its user but a port. -/
theorem Url.host_ofText_eq_nil_iff (place : Text) :
    (Place.ofText place).host = [] ↔ ∀ c ∈ (place.afterLast '@').head?, c = ':' := by
  simp only [Place.ofText]
  generalize place.afterLast '@' = rest
  cases rest with
  | nil => simp
  | cons c rest =>
    split
    · next hbracket =>
      simp only [List.head?_cons, Option.some.injEq, Bool.and_eq_true,
        decide_eq_true_eq, List.contains_iff_mem] at hbracket
      obtain ⟨rfl, hm⟩ := hbracket
      refine iff_of_false (fun hnil => ?_) (by simp)
      rw [Text.throughLast, List.reverse_eq_nil_iff, List.dropWhile_eq_nil_iff] at hnil
      simpa using hnil ']' (List.mem_reverse.mpr hm)
    · by_cases hc : c = ':' <;> simp [hc]

namespace Settings

variable {env : Environment} {settings : Settings} {α β : Type} {v : Variable}

theorem exists_of_bind_eq_ok {ε : Type} {x : Except ε α} {f : α → Except ε β} {b : β}
    (h : x >>= f = .ok b) : ∃ a, x = .ok a ∧ f a = .ok b := by
  cases x with
  | error e => cases h
  | ok a => exact ⟨a, rfl, h⟩

theorem readTrimmed_eq_ok {fallback x : α} {read : Text → Except Problem α}
    (h : readTrimmed env v fallback read = .ok x) : (env.get? v.name = none ∧ x = fallback) ∨
      ∃ raw, env.get? v.name = some raw ∧ read raw.trim = .ok x := by
  unfold readTrimmed at h
  split at h
  · next hget =>
    cases h
    exact .inl ⟨hget, rfl⟩
  · next raw hget =>
    split at h
    · cases h
    · exact .inr ⟨raw, hget, h⟩

/-- A base address of settings. -/
def IsBase (base : Text) : Prop :=
  ∃ scheme place, Address.split base = .ok (scheme, place) ∧
    (scheme = "http".toList ∨ scheme = "https".toList) ∧ place ≠ [] ∧
    ((Url.Place.ofText place).host = [] ↔ ∀ c ∈ (place.afterLast '@').head?, c = ':') ∧
    base.getLast? ≠ some '/'

theorem isBase_trimSlashes {base scheme place : Text}
    (hs : Address.split base = .ok (scheme, place))
    (hc : scheme = "http".toList ∨ scheme = "https".toList) (hp : place ≠ []) :
    IsBase (trimSlashes base) :=
  ⟨scheme, place, Address.split_trimSlashes hs hp, hc, hp, Url.host_ofText_eq_nil_iff place,
    getLast?_trimSlashes base⟩

theorem isBase_of_read {fallback base : Text} (hf : IsBase fallback)
    (h : readTrimmed env v fallback (readAddress v) = .ok base) : IsBase base := by
  rcases readTrimmed_eq_ok h with ⟨-, rfl⟩ | ⟨raw, -, hread⟩
  · exact hf
  · unfold readAddress at hread
    split at hread
    · cases hread
    · next scheme place hs =>
      split at hread
      · next hc =>
        cases hread
        exact isBase_trimSlashes hs hc.1 (by simpa using hc.2)
      · cases hread

theorem isBase_trac : IsBase ({} : Settings).hosts.trac := by
  have hs : Address.split ({} : Settings).hosts.trac =
      .ok ("https".toList, "core.trac.wordpress.org".toList) := by decide
  have ht : trimSlashes ({} : Settings).hosts.trac = ({} : Settings).hosts.trac := by decide
  rw [← ht]
  exact isBase_trimSlashes hs (.inr rfl) (by decide)

theorem isBase_profiles : IsBase ({} : Settings).hosts.profiles := by
  have hs : Address.split ({} : Settings).hosts.profiles =
      .ok ("https".toList, "profiles.wordpress.org".toList) := by decide
  have ht : trimSlashes ({} : Settings).hosts.profiles = ({} : Settings).hosts.profiles := by decide
  rw [← ht]
  exact isBase_trimSlashes hs (.inr rfl) (by decide)

theorem readTimeout_eq_ok {value : Text} {x : Binary64} (h : readTimeout value = .ok x) :
    Written.number? value = some x ∧ x.less leastTimeout = false := by
  unfold readTimeout at h
  split at h
  · next y hy =>
    split at h
    · cases h
    · next hless =>
      cases h
      exact ⟨hy, by simpa using hless⟩
  · cases h

theorem standardTimeout_ne_nan : ({} : Settings).timeout ≠ .nan := by decide

theorem isLongEnough_standardTimeout : IsLongEnough ({} : Settings).timeout := by
  have hless : ({} : Settings).timeout.less leastTimeout = false := by decide +kernel
  exact (eq_nan_or_isLongEnough (Binary64.isInRange_ofRatio false 10 1) hless).resolve_left
    standardTimeout_ne_nan

/-- The timeout is long enough, unless it is set to a text that says that it is not a number. -/
theorem timeout_of_read {timeout : Binary64}
    (h : readTrimmed env .timeout ({} : Settings).timeout readTimeout = .ok timeout) :
    (timeout = .nan ∨ IsLongEnough timeout) ∧ (timeout = .nan ↔
      ∃ raw, env.get? Variable.timeout.name = some raw ∧ Written.IsNan raw.trim) := by
  rcases readTrimmed_eq_ok h with ⟨hget, rfl⟩ | ⟨raw, hget, hread⟩
  · refine ⟨.inr isLongEnough_standardTimeout, iff_of_false standardTimeout_ne_nan ?_⟩
    rintro ⟨raw, hraw, -⟩
    cases hget.symm.trans hraw
  · obtain ⟨hx, hless⟩ := readTimeout_eq_ok hread
    refine ⟨eq_nan_or_isLongEnough (Written.isInRange_number? hx) hless, ?_⟩
    rw [hget]
    simp only [Option.some.injEq, exists_eq_left', ← Written.number?_eq_nan_iff, hx]

/-- A whole number as the environment has it, or its fallback. -/
def IsCountOf (env : Environment) (v : Variable) (fallback n : Nat) : Prop :=
  (env.get? v.name = none ∧ n = fallback) ∨
    ∃ raw, env.get? v.name = some raw ∧ Written.int? raw.trim = some (n : Int)

theorem isCountOf_of_read {least fallback n : Nat} (hf : least ≤ fallback)
    (h : readTrimmed env v fallback (readCount v least) = .ok n) :
    IsCountOf env v fallback n ∧ least ≤ n := by
  rcases readTrimmed_eq_ok h with ⟨hget, rfl⟩ | ⟨raw, hget, hread⟩
  · exact ⟨.inl ⟨hget, rfl⟩, hf⟩
  · unfold readCount at hread
    split at hread
    · next i hi =>
      split at hread
      · cases hread
      · next hle =>
        cases hread
        have hcast : (i.toNat : Int) = i := Int.toNat_of_nonneg (by omega)
        exact ⟨.inr ⟨raw, hget, by rw [hcast]; exact hi⟩, by omega⟩
    · cases hread

/-- What holds of settings that are accepted. -/
structure Accepted (env : Environment) (settings : Settings) : Prop where
  timeout : settings.timeout = .nan ∨ IsLongEnough settings.timeout
  nan : settings.timeout = .nan ↔
    ∃ raw, env.get? Variable.timeout.name = some raw ∧ Written.IsNan raw.trim
  interval : IsCountOf env .interval 100 settings.intervalMs
  debounce : IsCountOf env .debounce 100 settings.debounceMs
  cacheMax : IsCountOf env .cacheMax 1000 settings.cacheMax ∧ 1 ≤ settings.cacheMax
  trac : IsBase settings.hosts.trac
  profiles : IsBase settings.hosts.profiles
  intervalSeconds : seconds? settings.intervalMs = none ↔
    Binary64.beyond * 1000 ≤ settings.intervalMs
  debounceSeconds : seconds? settings.debounceMs = none ↔
    Binary64.beyond * 1000 ≤ settings.debounceMs
  /-- Only these two can keep a workspace from being made. -/
  plan : ∀ {τ : Type} (time : Binary64 → τ) (network : Text → Delivery τ),
    Workspace.Plan.ofSettings time network settings = none ↔
      seconds? settings.intervalMs = none ∨ seconds? settings.debounceMs = none

theorem plan_eq_none_iff {τ : Type} (time : Binary64 → τ) (network : Text → Delivery τ)
    (settings : Settings) : Workspace.Plan.ofSettings time network settings = none ↔
      seconds? settings.intervalMs = none ∨ seconds? settings.debounceMs = none := by
  unfold Workspace.Plan.ofSettings
  cases seconds? settings.intervalMs <;> cases seconds? settings.debounceMs <;> simp

theorem accepted_of_read (h : read env = .ok settings) : Accepted env settings := by
  obtain ⟨trac, htrac, h⟩ := exists_of_bind_eq_ok h
  obtain ⟨profiles, hprofiles, h⟩ := exists_of_bind_eq_ok h
  obtain ⟨level, -, h⟩ := exists_of_bind_eq_ok h
  obtain ⟨timeout, htimeout, h⟩ := exists_of_bind_eq_ok h
  obtain ⟨interval, hinterval, h⟩ := exists_of_bind_eq_ok h
  obtain ⟨debounce, hdebounce, h⟩ := exists_of_bind_eq_ok h
  obtain ⟨cacheMax, hcacheMax, h⟩ := exists_of_bind_eq_ok h
  obtain ⟨enabled, -, h⟩ := exists_of_bind_eq_ok h
  cases h
  exact
    { timeout := (timeout_of_read htimeout).1
      nan := (timeout_of_read htimeout).2
      interval := (isCountOf_of_read (Nat.zero_le _) hinterval).1
      debounce := (isCountOf_of_read (Nat.zero_le _) hdebounce).1
      cacheMax := isCountOf_of_read (by decide) hcacheMax
      trac := isBase_of_read isBase_trac htrac
      profiles := isBase_of_read isBase_profiles hprofiles
      intervalSeconds := seconds?_eq_none_iff interval
      debounceSeconds := seconds?_eq_none_iff debounce
      plan := fun time network => plan_eq_none_iff time network _ }

theorem accepted_of_read_fourSet :
    ∃ (env : Environment) (settings : Settings), read env = .ok settings ∧
      settings.hosts.trac = "https://t.test/trac".toList ∧ settings.intervalMs = 250 ∧
      Accepted env settings := by
  have hread : read [(Variable.trac.name, " https://t.test/trac// ".toList),
      (Variable.timeout.name, "2.5".toList), (Variable.interval.name, "2_50".toList),
      (Variable.cacheMax.name, "1".toList)] = .ok
        { hosts := ⟨"https://t.test/trac".toList, ({} : Settings).hosts.profiles⟩
          timeout := .finite false (5 * 2 ^ 50) (-51), intervalMs := 250, cacheMax := 1 } := by
    decide +kernel
  exact ⟨_, _, hread, rfl, rfl, accepted_of_read hread⟩

/-- Settings are accepted with a timeout that is not a number, with more milliseconds than a
workspace can be made of, and with an address that names no host. -/
theorem exists_accepted_unusable :
    (∃ (env : Environment) (settings : Settings), read env = .ok settings ∧
      settings.timeout = .nan) ∧
    (∃ (env : Environment) (settings : Settings), read env = .ok settings ∧
      ∀ (time : Binary64 → ℚ) (network : Text → Delivery ℚ),
        Workspace.Plan.ofSettings time network settings = none) ∧
    ∃ (env : Environment) (settings : Settings) (scheme place : Text), read env = .ok settings ∧
      Address.split settings.hosts.trac = .ok (scheme, place) ∧
      (Url.Place.ofText place).host = [] := by
  have hnan : read [(Variable.timeout.name, "nan".toList)] =
      .ok { ({} : Settings) with timeout := .nan } := by decide +kernel
  have hlong : read [(Variable.interval.name, List.replicate 320 '9')] =
      .ok { ({} : Settings) with intervalMs := 10 ^ 320 - 1 } := by decide +kernel
  have hport : read [(Variable.trac.name, "http://:80".toList)] =
      .ok { ({} : Settings) with
        hosts := ⟨"http://:80".toList, ({} : Settings).hosts.profiles⟩ } := by decide +kernel
  have hnone : seconds? (10 ^ 320 - 1) = none :=
    (seconds?_eq_none_iff _).mpr (by decide +kernel)
  refine ⟨⟨_, _, hnan, rfl⟩, ⟨_, _, hlong, fun time network => ?_⟩,
    ⟨_, _, "http".toList, ":80".toList, hport, by decide +kernel, by decide +kernel⟩⟩
  exact (plan_eq_none_iff time network _).mpr (.inl hnone)

end Settings

end CommitMessage
