import CommitMessage.Proofs.ExactTime
import CommitMessage.Schedule.DebounceSession

/-! What a debouncer is called for in the course of time, and what ought to come of it: when the
quiet after a trigger is over, when a flush finds a timer that waits, and when callbacks begin. -/

namespace CommitMessage.Debouncer

inductive Call where
  | trigger
  | flush
  | cancel
  deriving DecidableEq

/-- A trigger came one delay before, and no call between. -/
def Expires (d : ℚ) (h : List (ℚ × Call)) (time : ℚ) : Prop :=
  (time - d, .trigger) ∈ h ∧ ∀ call ∈ h, ¬(time - d < call.1 ∧ call.1 < time)

/-- A trigger came less than one delay ago, and no call since. -/
def Pending (d : ℚ) (h : List (ℚ × Call)) (now : ℚ) : Prop :=
  ∃ call ∈ h, call.2 = .trigger ∧ now < call.1 + d ∧ ∀ later ∈ h, ¬call.1 < later.1

/-- A flush came when a timer waited. -/
def Flushes (d : ℚ) (h : List (ℚ × Call)) (time : ℚ) : Prop :=
  (time, .flush) ∈ h ∧ Pending d (h.filter (·.1 < time)) time

/-- A cancel came after the one time and no later than the other. -/
def Cancelled (h : List (ℚ × Call)) (start stop : ℚ) : Prop :=
  ∃ call ∈ h, call.2 = .cancel ∧ start < call.1 ∧ call.1 ≤ stop

instance (d : ℚ) (h : List (ℚ × Call)) (time : ℚ) : Decidable (Expires d h time) :=
  inferInstanceAs (Decidable (_ ∧ _))

instance (d : ℚ) (h : List (ℚ × Call)) (now : ℚ) : Decidable (Pending d h now) :=
  inferInstanceAs (Decidable (∃ call ∈ h, _))

/-- The last call was a trigger at this time. -/
def Newest (h : List (ℚ × Call)) (u : ℚ) : Prop := (u, .trigger) ∈ h ∧ ∀ call ∈ h, call.1 ≤ u

variable {d now time u v : ℚ} {h : List (ℚ × Call)} {c : Call}

theorem Newest.unique (hu : Newest h u) (hv : Newest h v) : u = v :=
  le_antisymm (hv.2 _ hu.1) (hu.2 _ hv.1)

theorem pending_iff : Pending d h now ↔ ∃ u, Newest h u ∧ now < u + d := by
  constructor
  · rintro ⟨⟨u, c⟩, hm, rfl, hlt, hlast⟩
    exact ⟨u, ⟨hm, fun call hc => not_lt.mp (hlast call hc)⟩, hlt⟩
  · rintro ⟨u, ⟨hm, hlast⟩, hlt⟩
    exact ⟨_, hm, rfl, hlt, fun call hc => not_lt.mpr (hlast call hc)⟩

theorem Newest.expires (hu : Newest h u) : Expires d h (u + d) := by
  rw [Expires, add_sub_cancel_right]
  exact ⟨hu.1, fun call hc hlt => absurd (hu.2 call hc) (not_le.mpr hlt.1)⟩

/-- What expires later than all calls is the timer of the last. -/
theorem Expires.newest (hx : Expires d h time) (hpast : ∀ call ∈ h, call.1 < time) :
    Newest h (time - d) := by
  refine ⟨hx.1, fun call hc => ?_⟩
  by_contra hlt
  exact hx.2 call hc ⟨not_le.mp hlt, hpast call hc⟩

/-! One more call -/

theorem mem_concat {call : ℚ × Call} : call ∈ h ++ [(now, c)] ↔ call ∈ h ∨ call = (now, c) := by
  rw [List.mem_append, List.mem_singleton]

theorem expires_concat (hd : 0 < d) (ht : time ≤ now) :
    Expires d (h ++ [(now, c)]) time ↔ Expires d h time := by
  constructor
  · rintro ⟨hm, hno⟩
    refine ⟨(mem_concat.mp hm).resolve_right fun he => ?_, fun call hc =>
      hno call (mem_concat.mpr (.inl hc))⟩
    have hnow : time - d = now := congrArg Prod.fst he
    linarith
  · rintro ⟨hm, hno⟩
    refine ⟨mem_concat.mpr (.inl hm), fun call hc hlt => ?_⟩
    rcases mem_concat.mp hc with hc | rfl
    · exact hno call hc hlt
    · exact absurd hlt.2 (not_lt.mpr ht)

theorem newest_concat_trigger (hpast : ∀ call ∈ h, call.1 < now) :
    Newest (h ++ [(now, .trigger)]) now := by
  refine ⟨mem_concat.mpr (.inr rfl), fun call hc => ?_⟩
  rcases mem_concat.mp hc with hc | rfl
  · exact (hpast call hc).le
  · exact le_refl _

theorem not_newest_concat (hpast : ∀ call ∈ h, call.1 < now) (hc : c ≠ .trigger) :
    ¬Newest (h ++ [(now, c)]) u := by
  rintro ⟨hm, hlast⟩
  have hle : now ≤ u := hlast _ (mem_concat.mpr (.inr rfl))
  rcases mem_concat.mp hm with hm | he
  · exact absurd (hpast _ hm) (not_lt.mpr hle)
  · exact hc (congrArg Prod.snd he).symm

/-- The calls before a time are still the same when there is one more that came no earlier. -/
theorem filter_concat (ht : time ≤ now) :
    (h ++ [(now, c)]).filter (·.1 < time) = h.filter (·.1 < time) := by
  rw [List.filter_append, List.filter_cons_of_neg (by simpa using ht), List.filter_nil,
    List.append_nil]

theorem flushes_concat_of_lt (ht : time < now) :
    Flushes d (h ++ [(now, c)]) time ↔ Flushes d h time := by
  rw [Flushes, filter_concat ht.le, mem_concat]
  refine and_congr_left fun _ => or_iff_left fun he => ?_
  exact absurd (congrArg Prod.fst he) ht.ne

theorem flushes_concat_self (hpast : ∀ call ∈ h, call.1 < now) :
    Flushes d (h ++ [(now, c)]) now ↔ c = .flush ∧ Pending d h now := by
  have hall : h.filter (·.1 < now) = h :=
    List.filter_eq_self.mpr fun call hc => by simpa using hpast call hc
  rw [Flushes, filter_concat le_rfl, hall, mem_concat]
  refine and_congr_left fun _ => ⟨fun hm => ?_, fun he => .inr (he ▸ rfl)⟩
  rcases hm with hm | he
  · exact absurd (hpast _ hm) (lt_irrefl _)
  · exact (congrArg Prod.snd he).symm

theorem Cancelled.concat {start stop : ℚ} (hc : Cancelled h start stop) :
    Cancelled (h ++ [(now, c)]) start stop := by
  obtain ⟨call, hm, hcall⟩ := hc
  exact ⟨call, mem_concat.mpr (.inl hm), hcall⟩

/-! The calls of a session -/

def Event.call? {τ : Type} : Event τ → Option Call
  | .trigger => some .trigger
  | .flush => some .flush
  | .cancel => some .cancel
  | _ => none

/-- How much time passes. -/
def Event.lapse : Event ℚ → ℚ
  | .advance dt => dt
  | _ => 0

/-- The time when all events are over. -/
def clock (now : ℚ) (events : List (Event ℚ)) : ℚ :=
  events.foldl (fun time e => time + e.lapse) now

/-- The calls among events from a time on, each with the time at which it comes. -/
def calls : ℚ → List (Event ℚ) → List (ℚ × Call)
  | _, [] => []
  | now, e :: events => (e.call?.map (now, ·)).toList ++ calls (now + e.lapse) events

theorem calls_append (now : ℚ) (events more : List (Event ℚ)) :
    calls now (events ++ more) = calls now events ++ calls (clock now events) more := by
  induction events generalizing now with
  | nil => rfl
  | cons e events ih =>
    rw [List.cons_append, calls, ih, calls, List.append_assoc]
    rfl

/-! When callbacks begin: at the end of each quiet, and when a flush comes that finds a timer. No
two begin at the same time. -/

/-- The starts are those that the calls bring about, the latest first. One that is due may be
outstanding, for as long as the timer waits. -/
structure Begun (d : ℚ) (h : List (ℚ × Call)) (now : ℚ) (waits : Bool) (starts : List (Nat × ℚ)) :
    Prop where
  past : ∀ call ∈ h, call.1 ≤ now
  rising : starts.Pairwise fun a b => b.1 < a.1 ∧ b.2 < a.2
  due : ∀ start ∈ starts, start.2 ≤ now ∧ (Expires d h start.2 ∨ Flushes d h start.2)
  expired : ∀ time ≤ now, Expires d h time →
    (∃ run, (run, time) ∈ starts) ∨ waits = true ∧ Newest h (time - d)
  flushed : ∀ time, Flushes d h time → ∃ run, (run, time) ∈ starts
  before : waits = true → ∀ u, Newest h u → ∀ start ∈ starts, start.2 ≤ u
  rested : waits = false → ∀ u, Newest h u → u + d ≤ now

variable {waits : Bool} {starts : List (Nat × ℚ)} {run : Nat}

theorem begun_new (d now : ℚ) : Begun d [] now false [] := by
  refine ⟨nofun, List.Pairwise.nil, nofun, fun time _ hx => ?_, fun time hf => ?_, nofun,
    fun _ u hu => ?_⟩
  · exact absurd hx.1 List.not_mem_nil
  · exact absurd hf.1 List.not_mem_nil
  · exact absurd hu.1 List.not_mem_nil

/-- Each run begins once. -/
theorem Begun.time_unique (hb : Begun d h now waits starts) (ht : (run, time) ∈ starts)
    (hu : (run, u) ∈ starts) : time = u := by
  have hnodup : (starts.map Prod.fst).Nodup :=
    List.pairwise_map.mpr (hb.rising.imp fun hlater => hlater.1.ne')
  exact congrArg Prod.snd (List.inj_on_of_nodup_map hnodup ht hu rfl)

/-- Time passes. -/
theorem Begun.tick (hb : Begun d h now waits starts) (hle : now ≤ time) :
    Begun d h time waits starts := by
  refine { hb with
    past := fun call hc => (hb.past call hc).trans hle
    due := fun start hs => ⟨(hb.due start hs).1.trans hle, (hb.due start hs).2⟩
    expired := fun t ht hx => ?_
    rested := fun hno u hu => (hb.rested hno u hu).trans hle }
  rcases le_or_gt t now with hnow | hnow
  · exact hb.expired t hnow hx
  · have hu := hx.newest fun call hc => (hb.past call hc).trans_lt hnow
    cases hwaits : waits with
    | true => exact .inr ⟨rfl, hu⟩
    | false =>
      have hle := hb.rested hwaits _ hu
      rw [sub_add_cancel] at hle
      exact absurd hnow (not_lt.mpr hle)

/-- The quiet is over, and the callback begins. -/
theorem Begun.fire (hd : 0 < d) (hb : Begun d h now true starts) (hu : Newest h u)
    (hnow : now = u + d) (hrun : ∀ start ∈ starts, start.1 < run) :
    Begun d h now false ((run, now) :: starts) := by
  have hlt : ∀ start ∈ starts, start.2 < now := fun start hs => by
    have hle := hb.before rfl u hu start hs
    linarith
  refine ⟨hb.past, List.pairwise_cons.mpr ⟨fun start hs => ⟨hrun start hs, hlt start hs⟩,
    hb.rising⟩, fun start hs => ?_, fun time ht hx => .inl ?_, fun time hf => ?_, nofun,
    fun _ v hv => ?_⟩
  · rcases List.mem_cons.mp hs with rfl | hs
    · exact ⟨le_rfl, .inl (hnow ▸ hu.expires)⟩
    · exact hb.due start hs
  · rcases hb.expired time ht hx with ⟨r, hr⟩ | ⟨-, hv⟩
    · exact ⟨r, List.mem_cons_of_mem _ hr⟩
    · refine ⟨run, List.mem_cons.mpr (.inl ?_)⟩
      have he := hu.unique hv
      rw [hnow, he, sub_add_cancel]
  · obtain ⟨r, hr⟩ := hb.flushed time hf
    exact ⟨r, List.mem_cons_of_mem _ hr⟩
  · rw [hu.unique hv] at hnow
    exact hnow.ge

/-! Calls -/

/-- What is known when a call comes: no other came at the same time, and no quiet ends. -/
structure Timely (d : ℚ) (h : List (ℚ × Call)) (now : ℚ) : Prop where
  apart : ∀ call ∈ h, call.1 < now
  clear : ¬Expires d h now

theorem pending_of_waits (ht : Timely d h now) (hw : ∃ u, Newest h u ∧ now ≤ u + d) :
    Pending d h now := by
  obtain ⟨u, hu, hle⟩ := hw
  exact pending_iff.mpr ⟨u, hu, lt_of_le_of_ne hle fun he => ht.clear (he ▸ hu.expires)⟩

theorem Begun.waits_of_pending (hb : Begun d h now waits starts) (hp : Pending d h now) :
    waits = true := by
  obtain ⟨u, hu, hlt⟩ := pending_iff.mp hp
  cases hw : waits with
  | true => rfl
  | false => exact absurd hlt (not_lt.mpr (hb.rested hw u hu))

theorem Begun.earlier (hb : Begun d h now waits starts) (ht : Timely d h now) :
    ∀ start ∈ starts, start.2 < now := by
  intro start hs
  obtain ⟨hle, hx | hf⟩ := hb.due start hs
  · exact lt_of_le_of_ne hle fun he => ht.clear (he ▸ hx)
  · exact ht.apart _ hf.1

theorem Begun.past_concat (hb : Begun d h now waits starts) :
    ∀ call ∈ h ++ [(now, c)], call.1 ≤ now := by
  intro call hm
  rcases mem_concat.mp hm with hm | rfl
  · exact hb.past call hm
  · exact le_rfl

theorem Begun.due_concat (hd : 0 < d) (hb : Begun d h now waits starts) (ht : Timely d h now) :
    ∀ start ∈ starts, start.2 ≤ now ∧
      (Expires d (h ++ [(now, c)]) start.2 ∨ Flushes d (h ++ [(now, c)]) start.2) := by
  intro start hs
  have hlt := hb.earlier ht start hs
  refine ⟨hlt.le, (hb.due start hs).2.imp (fun hx => ?_) fun hf => ?_⟩
  · exact (expires_concat hd hlt.le).mpr hx
  · exact (flushes_concat_of_lt hlt).mpr hf

/-- Nothing is outstanding when a call comes. -/
theorem Begun.expired_concat (hd : 0 < d) (hb : Begun d h now waits starts) (ht : Timely d h now)
    (hw : waits = true → ∃ u, Newest h u ∧ now ≤ u + d) (hle : time ≤ now)
    (hx : Expires d (h ++ [(now, c)]) time) : ∃ run, (run, time) ∈ starts := by
  have hx := (expires_concat hd hle).mp hx
  refine (hb.expired time hle hx).resolve_right fun hv => ?_
  obtain ⟨u, hu, hdue⟩ := hw hv.1
  have hnow : now = time := by
    have he := hu.unique hv.2
    linarith
  exact ht.clear (hnow ▸ hx)

theorem Begun.flushed_concat (hb : Begun d h now waits starts)
    (hf : Flushes d (h ++ [(now, c)]) time) : (∃ run, (run, time) ∈ starts) ∨ time = now := by
  rcases lt_or_ge time now with hbefore | hafter
  · exact .inl (hb.flushed time ((flushes_concat_of_lt hbefore).mp hf))
  · exact .inr (le_antisymm (hb.past_concat _ hf.1) hafter)

/-- A call that starts no run. -/
theorem Begun.call (hd : 0 < d) (hb : Begun d h now waits starts) (ht : Timely d h now)
    (hw : waits = true → ∃ u, Newest h u ∧ now ≤ u + d) (hc : c = .flush → waits = false) :
    Begun d (h ++ [(now, c)]) now (c == .trigger) starts := by
  refine ⟨hb.past_concat, hb.rising, hb.due_concat hd ht, fun time hle hx =>
    .inl (hb.expired_concat hd ht hw hle hx), fun time hf => ?_, fun hcall u hu start hs => ?_,
    fun hcall u hu => ?_⟩
  · refine (hb.flushed_concat hf).resolve_right ?_
    rintro rfl
    obtain ⟨hflush, hp⟩ := (flushes_concat_self ht.apart).mp hf
    exact absurd (hb.waits_of_pending hp) (by simp [hc hflush])
  · obtain rfl := of_decide_eq_true hcall
    exact (hb.earlier ht start hs).le.trans (hu.2 _ (mem_concat.mpr (.inr rfl)))
  · have hne : c ≠ .trigger := of_decide_eq_false hcall
    exact absurd hu (not_newest_concat ht.apart hne)

/-- A flush that finds a timer. -/
theorem Begun.flush (hd : 0 < d) (hb : Begun d h now true starts) (ht : Timely d h now)
    (hw : ∃ u, Newest h u ∧ now ≤ u + d) (hrun : ∀ start ∈ starts, start.1 < run) :
    Begun d (h ++ [(now, .flush)]) now false ((run, now) :: starts) := by
  refine ⟨hb.past_concat, List.pairwise_cons.mpr ⟨fun start hs => ⟨hrun start hs,
    hb.earlier ht start hs⟩, hb.rising⟩, fun start hs => ?_, fun time hle hx => .inl ?_,
    fun time hf => ?_, nofun, fun _ u hu => absurd hu (not_newest_concat ht.apart nofun)⟩
  · rcases List.mem_cons.mp hs with rfl | hs
    · exact ⟨le_rfl, .inr ((flushes_concat_self ht.apart).mpr ⟨rfl, pending_of_waits ht hw⟩)⟩
    · exact hb.due_concat hd ht start hs
  · obtain ⟨r, hr⟩ := hb.expired_concat hd ht (fun _ => hw) hle hx
    exact ⟨r, List.mem_cons_of_mem _ hr⟩
  · rcases hb.flushed_concat hf with ⟨r, hr⟩ | rfl
    · exact ⟨r, List.mem_cons_of_mem _ hr⟩
    · exact ⟨run, List.mem_cons_self⟩

end CommitMessage.Debouncer
