import CommitMessage.Proofs.Lookup.Answers
import Mathlib

/-! What a desk may still cost: jobs, and alarms that ring. Every job done takes it closer to rest,
and no client sleeps twice, for time is exact: a sleep ends when the interval is over. -/

namespace CommitMessage

/-- When the holder of the slot is to wake. -/
def Limiter.sleeps {ι : Type} (l : Limiter ℚ ι) : List (ℚ × ι) :=
  match l.holder, l.lastGrant with
  | some (c, .sleeping), some last => [(last + l.interval, c)]
  | _, _ => []

/-- One who is awake does not have to sleep again. -/
def Limiter.Prompt {ι : Type} (now : ℚ) (l : Limiter ℚ ι) : Prop :=
  ∀ c, l.holder = some (c, .awake) → ∀ last, l.lastGrant = some last → last + l.interval ≤ now

namespace Desk

variable {κ : Type} {d : Desk ℚ κ} {f f' : Fetch κ} {r c : Reference} {due : Wake → Prop} {now : ℚ}

/-- The jobs that a fetch still makes, but for turns at the limiter. -/
def Fetch.load (f : Fetch κ) : Nat :=
  match f.stage with
  | .fresh => f.callers.length + 2
  | .inLine | .fetching => f.callers.length + 1
  | .finished _ => 0

/-- The alarms that a fetch still sets, but for the sleep of one in the line. -/
def Fetch.rings (f : Fetch κ) : Nat :=
  match f.stage with
  | .fresh => 2
  | .inLine => 1
  | .fetching | .finished _ => 0

def uncalled (line : List (Reference × Limiter.Standing)) : Nat := line.countP (·.2 == .waiting)

def load (d : Desk ℚ κ) : Nat := (d.fetches.map Fetch.load).sum + uncalled d.limiter.line

def rings (d : Desk ℚ κ) : Nat := (d.fetches.map Fetch.rings).sum + d.limiter.line.length

def Signal.isJob : Signal ℚ κ → Bool
  | .fetchTurn _ | .limiterTurn _ | .deliver _ _ | .forget _ => true
  | _ => false

def Signal.isAlarm : Signal ℚ κ → Bool
  | .sleep _ _ | .request _ _ => true
  | _ => false

/-- When those who fall asleep are to wake. -/
def sleepsIn (now : ℚ) (signals : List (Signal ℚ κ)) : List (ℚ × Reference) :=
  signals.filterMap fun
    | .sleep r delay => some (now + delay, r)
    | _ => none

/-- A change that costs at most so many jobs and alarms. -/
structure Frugal (now : ℚ) (jobs alarms : Nat) (d : Desk ℚ κ)
    (change : Desk ℚ κ × List (Signal ℚ κ)) : Prop where
  load : change.2.countP Signal.isJob + change.1.load ≤ d.load + jobs
  rings : change.2.countP Signal.isAlarm + change.1.rings ≤ d.rings + alarms
  sleeps : change.1.limiter.sleeps = d.limiter.sleeps ++ sleepsIn now change.2
  prompt : change.1.limiter.Prompt now

theorem load_setFetch (hnd : (d.fetches.map (·.reference)).Nodup) (hf : f ∈ d.fetches)
    (hr : f'.reference = f.reference) : (d.setFetch f').load + f.load = d.load + f'.load := by
  have hs := Keyed.sum_replace Fetch.load hnd hf hr
  simp only [load, setFetch] at hs ⊢
  omega

theorem rings_setFetch (hnd : (d.fetches.map (·.reference)).Nodup) (hf : f ∈ d.fetches)
    (hr : f'.reference = f.reference) : (d.setFetch f').rings + f.rings = d.rings + f'.rings := by
  have hs := Keyed.sum_replace Fetch.rings hnd hf hr
  simp only [rings, setFetch] at hs ⊢
  omega

/-! Turns -/

theorem uncalled_callFirst (κ : Type) (line : List (Reference × Limiter.Standing)) :
    (callTurns line : List (Signal ℚ κ)).countP Signal.isJob + uncalled (Limiter.callFirst line) =
      uncalled line := by
  unfold callTurns Limiter.callFirst
  split
  · simp [uncalled, Signal.isJob]
    omega
  · simp

theorem alarms_callTurns (κ : Type) (now : ℚ) (line : List (Reference × Limiter.Standing)) :
    (callTurns line : List (Signal ℚ κ)).countP Signal.isAlarm = 0 ∧
      sleepsIn now (callTurns line : List (Signal ℚ κ)) = [] := by
  unfold callTurns
  split
  · exact ⟨rfl, rfl⟩
  · exact ⟨rfl, rfl⟩

/-- An attempt may cost one alarm, a sleep, unless the interval is over. -/
theorem Taking.frugal_attempt (h : d.Taking due c) {alarms : Nat}
    (hs : d.limiter.sleeps = [])
    (ha : alarms = 1 ∨ ∀ last, d.limiter.lastGrant = some last → last + d.limiter.interval ≤ now) :
    d.Frugal now 0 alarms (d.attempt now c) := by
  rcases h.attempt_cases now with ⟨last, delay, hl, hd, hlt, he⟩ | ⟨hl, f, hf, rfl, hst, he⟩
  · rw [he]
    obtain rfl := ha.resolve_right fun hover => absurd (hover last hl) (not_le.mpr hlt)
    refine ⟨le_of_eq (Nat.zero_add _), le_of_eq (Nat.add_comm _ _), ?_, nofun⟩
    rw [hs]
    simp [Limiter.sleeps, hl, sleepsIn, hd]
  · rw [he]
    let granted : Desk ℚ κ := { d with limiter := d.limiter.granting now }
    have hload : (granted.setFetch { f with stage := .fetching }).load + f.load =
        granted.load + (f.callers.length + 1) := load_setFetch h.nodup hf rfl
    have hrings : (granted.setFetch { f with stage := .fetching }).rings + f.rings =
        granted.rings + 0 := rings_setFetch h.nodup hf rfl
    have hcalls := uncalled_callFirst κ d.limiter.line
    obtain ⟨halarms, hsleeps⟩ := alarms_callTurns κ now d.limiter.line
    have hline : (Limiter.callFirst d.limiter.line).length = d.limiter.line.length := by
      rw [← List.length_map (·.1), Limiter.callFirst_clients, List.length_map]
    simp only [Fetch.load, Fetch.rings, hst] at hload hrings
    refine ⟨?_, ?_, ?_, nofun⟩
    · have hl : granted.load = (d.fetches.map Fetch.load).sum +
          uncalled (Limiter.callFirst d.limiter.line) := rfl
      have hd : d.load = (d.fetches.map Fetch.load).sum + uncalled d.limiter.line := rfl
      rw [List.countP_append]
      change _ + 0 + (granted.setFetch _).load ≤ _
      omega
    · have hl : granted.rings = (d.fetches.map Fetch.rings).sum +
          (Limiter.callFirst d.limiter.line).length := rfl
      have hd : d.rings = (d.fetches.map Fetch.rings).sum + d.limiter.line.length := rfl
      rw [List.countP_append, halarms]
      change 0 + 1 + (granted.setFetch _).rings ≤ _
      omega
    · rw [hs, sleepsIn, List.filterMap_append]
      exact (congrArg (· ++ []) hsleeps).symm

theorem frugal_nil (hp : d.limiter.Prompt now) : d.Frugal now 0 0 (d, []) :=
  ⟨le_of_eq (Nat.zero_add _), le_of_eq (Nat.zero_add _), (List.append_nil _).symm, hp⟩

theorem load_enter (hnd : (d.fetches.map (·.reference)).Nodup) (hf : f ∈ d.fetches)
    (hs : f.stage = .fresh) : (d.enter f).load + 1 = d.load ∧ (d.enter f).rings + 1 = d.rings := by
  have hload : (d.enter f).load + f.load = d.load + (f.callers.length + 1) :=
    load_setFetch hnd hf rfl
  have hrings : (d.enter f).rings + f.rings = d.rings + 1 := rings_setFetch hnd hf rfl
  simp only [Fetch.load, Fetch.rings, hs] at hload hrings
  exact ⟨by omega, by omega⟩

theorem Live.frugal_fetchTurn (h : d.Live (fun w => due w ∨ w = .fetch r) none)
    (hp : d.limiter.Prompt now) : d.Frugal now 0 0 (d.fetchTurn now r) := by
  rcases fetchTurn_cases h now with ⟨he, -⟩ | ⟨f, hf, rfl, hst, ⟨hh, he, ht⟩ | ⟨he, -⟩⟩
  · rw [he]
    exact frugal_nil hp
  · obtain ⟨hload, hrings⟩ := load_enter h.nodup hf hst
    have hs : d.limiter.sleeps = [] := by simp [Limiter.sleeps, hh]
    have ha : (d.enter f).Frugal now 0 1 ((d.enter f).attempt now f.reference) :=
      ht.frugal_attempt hs (.inl rfl)
    rw [he]
    refine ⟨?_, ?_, ha.sleeps, ha.prompt⟩
    · have := ha.load
      omega
    · have := ha.rings
      omega
  · obtain ⟨hload, hrings⟩ := load_enter h.nodup hf hst
    rw [he]
    refine ⟨?_, ?_, (List.append_nil _).symm, hp⟩
    · have hl : ((d.enter f).withLine (d.limiter.line ++ [(f.reference, .waiting)])).load =
          (d.enter f).load + 1 := by
        simp only [load, withLine, enter, uncalled, List.countP_append]
        rfl
      rw [hl, hload]
      exact le_of_eq (Nat.zero_add _)
    · have hl : ((d.enter f).withLine (d.limiter.line ++ [(f.reference, .waiting)])).rings =
          (d.enter f).rings + 1 := by
        simp only [rings, withLine, enter, List.length_append]
        rfl
      rw [hl, hrings]
      exact le_of_eq (Nat.zero_add _)

theorem Live.frugal_limiterTurn (h : d.Live (fun w => due w ∨ w = .limiter r) none)
    (hp : d.limiter.Prompt now) : d.Frugal now 0 0 (d.limiterTurn now r) := by
  rcases limiterTurn_cases h now with ⟨he, -⟩ | ⟨hh, he, ht⟩ | ⟨line, hh, hl, he, ht⟩
  · rw [he]
    exact frugal_nil hp
  · rw [he]
    exact ht.frugal_attempt (by simp [Limiter.sleeps, hh]) (.inr (hp r hh))
  · have hs : d.limiter.sleeps = [] := by simp [Limiter.sleeps, hh]
    have ha : (d.withLine line).Frugal now 0 1 ((d.withLine line).attempt now r) :=
      ht.frugal_attempt (by simpa [Limiter.sleeps, withLine] using hs) (.inl rfl)
    have hload : (d.withLine line).load = d.load := by
      simp [load, withLine, hl, uncalled]
    have hrings : (d.withLine line).rings + 1 = d.rings := by
      simp only [rings, withLine, hl, List.length_cons]
      rfl
    rw [he]
    refine ⟨?_, ?_, ha.sleeps, ha.prompt⟩
    · have := ha.load
      omega
    · have := ha.rings
      omega

/-- One whose time has come is woken, and is not to sleep again. -/
theorem limiterWake_of_sleeps {t : ℚ} (hs : d.limiter.sleeps = [(t, r)]) (ht : t ≤ now) :
    (d.limiterWake r).2 = [.limiterTurn r] ∧ (d.limiterWake r).1.load = d.load ∧
      (d.limiterWake r).1.rings = d.rings ∧ (d.limiterWake r).1.limiter.sleeps = [] ∧
      (d.limiterWake r).1.limiter.Prompt now := by
  have hh : d.limiter.holder = some (r, .sleeping) ∧
      ∃ last, d.limiter.lastGrant = some last ∧ last + d.limiter.interval = t := by
    unfold Limiter.sleeps at hs
    split at hs
    · rename_i c last hh hl
      cases hs
      exact ⟨hh, last, hl, rfl⟩
    · cases hs
  obtain ⟨hh, last, hl, rfl⟩ := hh
  obtain ⟨-, he⟩ := (limiterWake_cases d r).resolve_right fun hn => hn.1 hh
  rw [he]
  refine ⟨rfl, rfl, rfl, by simp [Limiter.sleeps], fun c _ last' hl' => ?_⟩
  cases hl.symm.trans hl'
  exact ht

/-! Replies and questions -/

theorem cost_notes {notes : List (Signal ℚ κ)} (hn : ∀ n ∈ notes, ∃ e, n = .note e) (now : ℚ) :
    notes.countP Signal.isJob = 0 ∧ notes.countP Signal.isAlarm = 0 ∧ sleepsIn now notes = [] := by
  refine ⟨List.countP_eq_zero.mpr fun n hm => ?_, List.countP_eq_zero.mpr fun n hm => ?_,
    List.filterMap_eq_nil_iff.mpr fun n hm => ?_⟩
  all_goals obtain ⟨e, rfl⟩ := hn n hm
  · simp [Signal.isJob]
  · simp [Signal.isAlarm]
  · rfl

theorem Ends.frugal {a : Option Resolution} {change : Desk ℚ κ × List (Signal ℚ κ)}
    (he : d.Ends now f a change) (hnd : (d.fetches.map (·.reference)).Nodup) (hf : f ∈ d.fetches)
    (hs : f.stage = .fetching) (hp : d.limiter.Prompt now) : d.Frugal now 0 0 change := by
  obtain ⟨cache, notes, outcome, -, hn, -, rfl⟩ := he
  have hload : ({ d with cache }.setFetch (f.finished outcome)).load + f.load = d.load + 0 :=
    load_setFetch (d := { d with cache }) hnd hf rfl
  have hrings : ({ d with cache }.setFetch (f.finished outcome)).rings + f.rings = d.rings + 0 :=
    rings_setFetch (d := { d with cache }) hnd hf rfl
  obtain ⟨hjobs, halarms, hsleeps⟩ := cost_notes hn now
  simp only [Fetch.load, Fetch.rings, hs] at hload hrings
  refine ⟨?_, ?_, ?_, hp⟩
  · have hcount : (f.callers.map (Signal.deliver · outcome : κ → Signal ℚ κ)).countP
        Signal.isJob = f.callers.length := by
      rw [List.countP_map, List.countP_eq_length.mpr (by simp [Signal.isJob])]
    rw [List.countP_append, hjobs, List.countP_cons, hcount]
    simp only [Signal.isJob, if_true]
    omega
  · have hcount : (f.callers.map (Signal.deliver · outcome : κ → Signal ℚ κ)).countP
        Signal.isAlarm = 0 := by
      rw [List.countP_map, List.countP_eq_zero.mpr (by simp [Signal.isAlarm])]
    rw [List.countP_append, halarms, List.countP_cons, hcount]
    simp only [Signal.isAlarm, Bool.false_eq_true, if_false]
    omega
  · have hnone : sleepsIn now (f.callers.map (Signal.deliver · outcome)) = [] :=
      List.filterMap_eq_nil_iff.mpr fun s hm => by
        obtain ⟨c, -, rfl⟩ := List.mem_map.mp hm
        rfl
    rw [sleepsIn] at hsleeps hnone ⊢
    rw [List.filterMap_append, hsleeps, List.filterMap_cons_none rfl, hnone, List.append_nil,
      List.append_nil]
    rfl

theorem Live.frugal_reply (h : d.Live due none) (hp : d.limiter.Prompt now) (r : Reference)
    (reply : Reply) : d.Frugal now 0 0 (d.reply now r reply) := by
  rcases reply_cases h now r reply with ⟨he, -⟩ | ⟨f, hf, rfl, hs, he⟩
  · rw [he]
    exact frugal_nil hp
  · exact he.frugal h.nodup hf hs hp

theorem frugal_forget (hp : d.limiter.Prompt now) (r : Reference) :
    d.Frugal now 0 0 (d.forget r) := by
  obtain ⟨he, hn⟩ := forget_cases d r
  obtain ⟨hjobs, halarms, hsleeps⟩ := cost_notes hn now
  have hsum (p : Fetch κ → Nat) :
      ((d.fetches.filter fun f => f.reference ≠ r).map p).sum ≤ (d.fetches.map p).sum :=
    (List.filter_sublist.map p).sum_le_sum fun _ _ => Nat.zero_le _
  refine ⟨?_, ?_, ?_, ?_⟩
  · rw [hjobs, he]
    have := hsum Fetch.load
    simp only [load]
    omega
  · rw [halarms, he]
    have := hsum Fetch.rings
    simp only [rings]
    omega
  · rw [hsleeps, List.append_nil, he]
  · rw [he]
    exact hp

/-- One who asks may make a fetch, and that costs the most. -/
theorem Live.frugal_ask (h : d.Live due none) (hp : d.limiter.Prompt now) (caller : κ)
    (pass : Option Text) (r : Reference) :
    d.Frugal now 4 2 (d.ask now caller pass r).2 := by
  rcases ask_cases d now caller pass r with ⟨outcome, notes, he, hn, -⟩ | ⟨f, hf, rfl, ho, he⟩ |
    ⟨-, -, he⟩
  · obtain ⟨hjobs, halarms, hsleeps⟩ := cost_notes hn now
    rw [he]
    refine ⟨?_, ?_, ?_, hp⟩
    · rw [hjobs]
      dsimp only
      omega
    · rw [halarms]
      dsimp only
      omega
    · rw [hsleeps, List.append_nil]
  · have hload : (d.setFetch { f with callers := f.callers ++ [caller] }).load + f.load =
        d.load + Fetch.load { f with callers := f.callers ++ [caller] } :=
      load_setFetch h.nodup hf rfl
    have hrings : (d.setFetch { f with callers := f.callers ++ [caller] }).rings + f.rings =
        d.rings + Fetch.rings { f with callers := f.callers ++ [caller] } :=
      rings_setFetch h.nodup hf rfl
    have hone : Fetch.load { f with callers := f.callers ++ [caller] } ≤ f.load + 1 := by
      unfold Fetch.load
      cases f.stage <;> simp
    have hsame : Fetch.rings { f with callers := f.callers ++ [caller] } = f.rings := rfl
    rw [he]
    refine ⟨?_, ?_, (List.append_nil _).symm, hp⟩
    · simp only [List.countP_nil]
      omega
    · simp only [List.countP_nil]
      omega
  · rw [he]
    refine ⟨?_, ?_, (List.append_nil _).symm, hp⟩
    · simp only [load, List.map_append, List.sum_append, List.countP_singleton, Signal.isJob,
        Fetch.load, List.map_cons, List.map_nil, List.sum_cons, List.sum_nil, List.length_cons,
        List.length_nil, if_true]
      omega
    · simp only [rings, List.map_append, List.sum_append, List.countP_singleton, Signal.isAlarm,
        Fetch.rings, List.map_cons, List.map_nil, List.sum_cons, List.sum_nil]
      simp only [Bool.false_eq_true, if_false]
      omega

end Desk

end CommitMessage
