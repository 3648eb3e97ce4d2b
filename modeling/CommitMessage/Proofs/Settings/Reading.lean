import Mathlib
import CommitMessage.Settings.Basic

/-! What a variable may be set to, and what becomes of an environment: its variables are read one
after another, and the first that is set to something else is the one that is told of. -/

namespace CommitMessage.Settings

/-- The values that a variable may be set to. -/
def Variable.Admits (raw : Text) : Variable → Prop
  | trac | profiles => ∃ scheme host, Address.split raw.trim = .ok (scheme, host) ∧
      (scheme = "http".toList ∨ scheme = "https".toList) ∧ host ≠ []
  | logLevel => ∃ level : Level, level.name = raw.trim.map capital
  | timeout => ∃ x, Written.number? raw.trim = some x ∧ x.less leastTimeout = false
  | interval | debounce => ∃ n, Written.int? raw.trim = some n ∧ 0 ≤ n
  | cacheMax => ∃ n, Written.int? raw.trim = some n ∧ 1 ≤ n
  | enabled => raw.trim.map Char.toLower ∈ trueWords ++ falseWords
  | patterns => True

def Variable.IsAddress (v : Variable) : Prop := v = trac ∨ v = profiles

def Variable.IsNumber (v : Variable) : Prop :=
  v = timeout ∨ v = interval ∨ v = debounce ∨ v = cacheMax

/-- A variable with a few words for its values. -/
def Variable.IsChoice (v : Variable) : Prop := v = logLevel ∨ v = enabled

/-- The variable is set to a value that it may not be set to. -/
def Misuses (env : Environment) (v : Variable) (raw : Text) : Prop :=
  env.get? v.name = some raw ∧ ¬ v.Admits raw

/-- The problem is that of a variable with a value, and it quotes the value. -/
def Problem.TellsOf (v : Variable) (raw : Text) : Problem → Prop
  | emptyValue u => u = v ∧ (v.IsAddress ∨ v.IsNumber) ∧ raw.trim = []
  | notAllowed u value => u = v ∧ v.IsChoice ∧ value = raw
  | notANumber u value => u = v ∧ v.IsNumber ∧ value = raw.trim
  | notAnAddress u value =>
    u = v ∧ v.IsAddress ∧ value = raw.trim ∧ ∃ parts, Address.split value = .ok parts
  | brokenAddress p => v.IsAddress ∧ Address.split raw.trim = .error p

/-- What reading some variables in order can come to. -/
inductive Reading (env : Environment) {α : Type} : List Variable → Except Problem α → Prop where
  | fine {vs : List Variable} (x : α) (h : ∀ v ∈ vs, ∀ raw, ¬ Misuses env v raw) :
    Reading env vs (.ok x)
  | stops {before after : List Variable} {v : Variable} {raw : Text} {p : Problem}
    (hb : ∀ u ∈ before, ∀ raw, ¬ Misuses env u raw) (hv : Misuses env v raw)
    (hp : p.TellsOf v raw) : Reading env (before ++ v :: after) (.error p)

variable {env : Environment} {α β : Type} {v : Variable} {vs us : List Variable}

theorem Reading.pure (x : α) : Reading env [] (.ok x) := .fine x (by simp)

theorem Reading.bind {r : Except Problem α} {f : α → Except Problem β} (hr : Reading env vs r)
    (hf : ∀ x, Reading env us (f x)) : Reading env (vs ++ us) (r >>= f) := by
  cases hr with
  | fine x h =>
    have hrest := hf x
    change Reading env (vs ++ us) (f x)
    generalize f x = r at hrest
    cases hrest with
    | fine y h' =>
      refine .fine y fun v hm => ?_
      rcases List.mem_append.mp hm with hm | hm
      · exact h v hm
      · exact h' v hm
    | stops hb hv hp =>
      rw [← List.append_assoc]
      refine .stops (fun u hm => ?_) hv hp
      rcases List.mem_append.mp hm with hm | hm
      · exact h u hm
      · exact hb u hm
  | stops hb hv hp =>
    rw [List.append_assoc, List.cons_append]
    exact .stops hb hv hp

/-! One variable -/

theorem reading_unset (hget : env.get? v.name = none) (x : α) : Reading env [v] (.ok x) := by
  refine .fine x fun u hm raw hu => ?_
  rw [List.mem_singleton.mp hm] at hu
  cases hget.symm.trans hu.1

theorem reading_set {raw : Text} {r : Except Problem α} (hget : env.get? v.name = some raw)
    (hok : ∀ x, r = .ok x → v.Admits raw)
    (herr : ∀ p, r = .error p → ¬ v.Admits raw ∧ p.TellsOf v raw) : Reading env [v] r := by
  cases r with
  | ok x =>
    refine .fine x fun u hm raw' hu => ?_
    rw [List.mem_singleton.mp hm] at hu
    obtain rfl := Option.some.inj (hget.symm.trans hu.1)
    exact hu.2 (hok x rfl)
  | error p =>
    have hbefore : ∀ u ∈ ([] : List Variable), ∀ raw, ¬ Misuses env u raw := by simp
    exact .stops hbefore ⟨hget, (herr p rfl).1⟩ (herr p rfl).2

theorem int?_nil : Written.int? [] = none := by decide

theorem number?_nil : Written.number? [] = none := by decide

theorem not_admits_blank (hv : v.IsAddress ∨ v.IsNumber) {raw : Text} (hr : raw.trim = []) :
    ¬ v.Admits raw := by
  rcases hv with (rfl | rfl) | (rfl | rfl | rfl | rfl)
  -- the addresses, the timeout, the whole numbers
  iterate 2
    rintro ⟨scheme, host, hs, -, hh⟩
    rw [hr] at hs
    cases hs
    exact hh rfl
  · rintro ⟨x, hx, -⟩
    rw [hr, number?_nil] at hx
    cases hx
  all_goals
    rintro ⟨n, hn, -⟩
    rw [hr, int?_nil] at hn
    cases hn

theorem reading_trimmed (hv : v.IsAddress ∨ v.IsNumber) (fallback : α)
    {read : Text → Except Problem α} (hok : ∀ raw x, read raw.trim = .ok x → v.Admits raw)
    (herr : ∀ raw p, read raw.trim = .error p → ¬ v.Admits raw ∧ p.TellsOf v raw) :
    Reading env [v] (readTrimmed env v fallback read) := by
  unfold readTrimmed
  split
  · next hget => exact reading_unset hget fallback
  · next raw hget =>
    split
    · next hempty =>
      have hr : raw.trim = [] := List.isEmpty_iff.mp hempty
      refine reading_set hget (fun x hx => by cases hx) fun p hp => ?_
      cases hp
      exact ⟨not_admits_blank hv hr, rfl, hv, hr⟩
    · exact reading_set hget (hok raw) (herr raw)

theorem reading_address (hv : v.IsAddress) (fallback : Text) :
    Reading env [v] (readTrimmed env v fallback (readAddress v)) := by
  have hadmits (raw : Text) : v.Admits raw ↔ ∃ scheme host,
      Address.split raw.trim = .ok (scheme, host) ∧
        (scheme = "http".toList ∨ scheme = "https".toList) ∧ host ≠ [] := by
    rcases hv with rfl | rfl <;> exact Iff.rfl
  refine reading_trimmed (.inl hv) fallback (fun raw x hx => ?_) fun raw p hp => ?_
  · rw [hadmits]
    unfold readAddress at hx
    split at hx
    · cases hx
    · next scheme host hs =>
      split at hx
      · next hc => exact ⟨scheme, host, hs, hc.1, by simpa using hc.2⟩
      · cases hx
  · rw [hadmits]
    unfold readAddress at hp
    split at hp
    · next problem hs =>
      cases hp
      exact ⟨by simp [hs], hv, hs⟩
    · next scheme host hs =>
      split at hp
      · cases hp
      · next hc =>
        cases hp
        refine ⟨?_, rfl, hv, rfl, _, hs⟩
        rintro ⟨scheme', host', hs', hscheme, hhost⟩
        cases hs.symm.trans hs'
        exact hc ⟨hscheme, by simpa using hhost⟩

theorem reading_count {least : Nat} (hv : v.IsNumber)
    (hadmits : ∀ raw, v.Admits raw ↔ ∃ n, Written.int? raw.trim = some n ∧ (least : Int) ≤ n)
    (fallback : Nat) : Reading env [v] (readTrimmed env v fallback (readCount v least)) := by
  refine reading_trimmed (.inr hv) fallback (fun raw x hx => ?_) fun raw p hp => ?_
  · rw [hadmits]
    unfold readCount at hx
    split at hx
    · next n hn =>
      split at hx
      · cases hx
      · next hlt => exact ⟨n, hn, not_lt.mp hlt⟩
    · cases hx
  · rw [hadmits]
    unfold readCount at hp
    split at hp
    · next n hn =>
      split at hp
      · next hlt =>
        cases hp
        refine ⟨?_, rfl, hv, rfl⟩
        rintro ⟨n', hn', hle⟩
        cases hn.symm.trans hn'
        exact absurd hle (not_le.mpr hlt)
      · cases hp
    · next hn =>
      cases hp
      exact ⟨by simp [hn], rfl, hv, rfl⟩

theorem reading_timeout (fallback : Binary64) :
    Reading env [.timeout] (readTrimmed env .timeout fallback readTimeout) := by
  have hv : Variable.IsNumber .timeout := .inl rfl
  refine reading_trimmed (.inr hv) fallback (fun raw x hx => ?_) fun raw p hp => ?_
  · unfold readTimeout at hx
    split at hx
    · next y hy =>
      split at hx
      · cases hx
      · next hless => exact ⟨y, hy, by simpa using hless⟩
    · cases hx
  · unfold readTimeout at hp
    split at hp
    · next y hy =>
      split at hp
      · next hless =>
        cases hp
        refine ⟨?_, rfl, hv, rfl⟩
        rintro ⟨y', hy', hle⟩
        cases hy.symm.trans hy'
        exact absurd hless (by simp [hle])
      · cases hp
    · next hn =>
      cases hp
      refine ⟨?_, rfl, hv, rfl⟩
      rintro ⟨y', hy', -⟩
      cases hn.symm.trans hy'

theorem reading_level (fallback : Level) : Reading env [.logLevel] (readLevel env fallback) := by
  unfold readLevel
  split
  · next hget => exact reading_unset hget fallback
  · next raw hget =>
    refine reading_set hget (fun x hx => ?_) fun p hp => ?_
    · dsimp only at hx
      split at hx
      · next level hfind => exact ⟨level, by simpa using List.find?_some hfind⟩
      · cases hx
    · dsimp only at hp
      split at hp
      · cases hp
      · next hfind =>
        cases hp
        refine ⟨?_, rfl, .inl rfl, rfl⟩
        rintro ⟨level, hlevel⟩
        have hnone := List.find?_eq_none.mp hfind level (by cases level <;> simp [Level.all])
        exact hnone (by simpa using hlevel)

theorem reading_enabled : Reading env [.enabled] (readEnabled env) := by
  unfold readEnabled
  split
  · next hget => exact reading_unset hget true
  · next raw hget =>
    refine reading_set hget (fun x hx => ?_) fun p hp => ?_
    · dsimp only at hx
      split at hx
      · next htrue => exact List.mem_append_left _ htrue
      · split at hx
        · next hfalse => exact List.mem_append_right _ hfalse
        · cases hx
    · dsimp only at hp
      split at hp
      · cases hp
      · next htrue =>
        split at hp
        · cases hp
        · next hfalse =>
          cases hp
          exact ⟨fun hm => (List.mem_append.mp hm).elim htrue hfalse, rfl, .inr rfl, rfl⟩

/-! All variables -/

theorem reading_read (env : Environment) : Reading env Variable.all (read env) := by
  have hcount (v : Variable) (hv : v = .interval ∨ v = .debounce) (fallback : Nat) :
      Reading env [v] (readTrimmed env v fallback (readCount v 0)) := by
    rcases hv with rfl | rfl
    · exact reading_count (.inr (.inl rfl)) (fun _ => Iff.rfl) fallback
    · exact reading_count (.inr (.inr (.inl rfl))) (fun _ => Iff.rfl) fallback
  have hcache (fallback : Nat) :
      Reading env [.cacheMax] (readTrimmed env .cacheMax fallback (readCount .cacheMax 1)) :=
    reading_count (.inr (.inr (.inr rfl))) (fun _ => Iff.rfl) fallback
  have hlast (settings : Settings) : Reading env [.patterns] (.ok settings) :=
    .fine settings fun v hm raw hv => by
      rw [List.mem_singleton.mp hm] at hv
      exact hv.2 trivial
  refine (reading_address (.inl rfl) _).bind fun trac => ?_
  refine (reading_address (.inr rfl) _).bind fun profiles => ?_
  refine (reading_level _).bind fun level => ?_
  refine (reading_timeout _).bind fun timeout => ?_
  refine (hcount .interval (.inl rfl) _).bind fun interval => ?_
  refine (hcount .debounce (.inr rfl) _).bind fun debounce => ?_
  refine (hcache _).bind fun cacheMax => ?_
  exact reading_enabled.bind fun enabled => hlast _

end CommitMessage.Settings
