import Mathlib
import CommitMessage.CommandLine.Run
import CommitMessage.Proofs.ExactTime
import CommitMessage.Proofs.Settings.Reading

/-! What a command makes of its environment. With no variable misused it has its settings. Else
the first misused variable decides: its problem is complained of, unless its value is an address
that cannot even be split, which no complaint is made of. -/

namespace CommitMessage

namespace Settings

/-- A complaint says first which variable it is about. -/
theorem Problem.TellsOf.names {v : Variable} {raw : Text} {p : Problem} (h : p.TellsOf v raw)
    (hp : ∀ q, p ≠ .brokenAddress q) : "Invalid ".toList ++ v.name <+: p.message := by
  have hfront (t : Text) : "Invalid ".toList ++ v.name <+: "Invalid ".toList ++ (v.name ++ t) := by
    rw [← List.append_assoc]
    exact List.prefix_append _ _
  cases p with
  | brokenAddress q => exact absurd rfl (hp q)
  | _ =>
    obtain ⟨rfl, -⟩ := h
    unfold Problem.message
    simp only [List.append_assoc]
    exact hfront _

theorem Problem.TellsOf.splits {v : Variable} {raw : Text} {p : Problem} (h : p.TellsOf v raw)
    (hp : ∀ q, p ≠ .brokenAddress q) (hv : v.IsAddress) :
    ∃ parts, Address.split raw.trim = .ok parts := by
  cases p with
  | emptyValue u => exact ⟨([], []), by rw [h.2.2]; rfl⟩
  | notAllowed u value => rcases hv with rfl | rfl <;> simpa [Variable.IsChoice] using h.2.1
  | notANumber u value => rcases hv with rfl | rfl <;> simpa [Variable.IsNumber] using h.2.1
  | notAnAddress u value =>
    obtain ⟨-, -, rfl, hs⟩ := h
    exact hs
  | brokenAddress q => exact absurd rfl (hp q)

end Settings

namespace CommandLine

open Settings

variable {τ : Type} [TimeLine τ] [DecidableLT τ]

theorem run_of_problem {s : Surroundings τ} {problem : Problem}
    (hread : Settings.read s.env = .error problem) (hp : ∀ q, problem ≠ .brokenAddress q)
    (request : Request) :
    run s request = .ok { status := exitMisuse, complaints := problem.message ++ ['\n'] } := by
  cases problem with
  | brokenAddress q => exact absurd rfl (hp q)
  | _ => simp only [run, hread, complaint]

/-- With a misused variable the command prints nothing and ends with the status of a misuse and one
complaint, that of the first such variable; but where its value cannot be split as an address,
the command breaks down. -/
theorem run_of_environment (s : Surroundings τ) (request : Request) :
    ((∀ v raw, ¬ Misuses s.env v raw) ∧ ∃ settings, Settings.read s.env = .ok settings) ∨
    ∃ before v after raw, Variable.all = before ++ v :: after ∧
      (∀ u ∈ before, ∀ raw, ¬ Misuses s.env u raw) ∧ Misuses s.env v raw ∧
      ((∃ p, v.IsAddress ∧ Address.split raw.trim = .error p ∧
          Settings.read s.env = .error (.brokenAddress p) ∧
          run s request = .error (.settings (.brokenAddress p))) ∨
        (v.IsAddress → ∃ parts, Address.split raw.trim = .ok parts) ∧
          ∃ problem, problem.TellsOf v raw ∧ Settings.read s.env = .error problem ∧
            "Invalid ".toList ++ v.name <+: problem.message ∧
            run s request =
              .ok { status := exitMisuse, complaints := problem.message ++ ['\n'] }) := by
  have hall (v : Variable) : v ∈ Variable.all := by cases v <;> decide
  have hreading := reading_read s.env
  generalize hvs : Variable.all = vs at hreading
  generalize hread : Settings.read s.env = r at hreading
  cases hreading with
  | fine settings h => exact .inl ⟨fun v => h v (hvs ▸ hall v), settings, rfl⟩
  | @stops before after v raw p hb hv hp =>
    refine .inr ⟨before, v, after, raw, rfl, hb, hv, ?_⟩
    by_cases hbroken : ∃ q, p = .brokenAddress q
    · obtain ⟨q, rfl⟩ := hbroken
      exact .inl ⟨q, hp.1, hp.2, rfl, by simp only [run, hread]⟩
    · have hne : ∀ q, p ≠ .brokenAddress q := fun q hq => hbroken ⟨q, hq⟩
      exact .inr ⟨hp.splits hne, p, hp, rfl, hp.names hne, run_of_problem hread hne request⟩

theorem exists_misuse_without_complaint :
    ∃ (env : Environment) (raw : Text), Misuses env .trac raw ∧
      ∀ (s : Surroundings ℚ) (request : Request), run { s with env } request =
        .error (.settings (.brokenAddress .strayBrackets)) := by
  have hsplit : Address.split (Text.trim "http://[".toList) = .error .strayBrackets := by decide
  have hread : Settings.read [(Variable.trac.name, "http://[".toList)] =
      .error (.brokenAddress .strayBrackets) := by decide
  refine ⟨[(Variable.trac.name, "http://[".toList)], "http://[".toList, ⟨by decide, ?_⟩,
    fun s request => by simp only [run, hread]⟩
  rintro ⟨scheme, host, hs, -, -⟩
  cases hsplit.symm.trans hs

end CommandLine

end CommitMessage
