import CommitMessage.Proofs.Workspace.Runs

/-! What the cache holds is true. Every entry is what the last reply said that said anything, and
every verified answer is such an entry while it is fresh, or comes with a reply. -/

namespace CommitMessage

namespace Workspace

open Desk (Happening Since)
open Desk.Traffic (Step Steps)

variable {w : Workspace ℚ} {p : Plan ℚ} {history : List (Happening Asker)} {m : Move}
  {r : Reference} {c : Asker} {reply : Reply} {time : ℚ}

/-! What happens in a move -/

theorem requesting_cases {x : Happening Asker} {s : Desk.Signal ℚ Asker}
    (hx : x ∈ w.requesting s) : ∃ r url, s = .request r url ∧
      (x = .begun r (w.network url).reply w.agenda.now ∨
        x = .received r (w.network url).reply w.agenda.now) := by
  cases s with
  | request r url =>
    refine ⟨r, url, rfl, ?_⟩
    rcases List.mem_cons.mp hx with rfl | hx
    · exact .inl rfl
    · split at hx
      · exact .inr (List.mem_singleton.mp hx)
      · cases hx
  | _ => cases hx

/-- Requests and replies are those of the network at the present time, someone who asks is
received by the desk, and one who is told something waited for it. -/
theorem Orderly.doing_cases (h : w.Orderly) {job : Job} {x : Happening Asker}
    (hx : x ∈ w.doing job) :
    (∃ r, x = .begun r (w.network (r.url w.desk.hosts)).reply w.agenda.now) ∨
    (∃ r reply, x = .received r reply w.agenda.now) ∨
    (∃ c outcome, job = .answer c outcome ∧ x = .told c outcome) ∨
    ∃ c pass r, x = .asked c r (w.desk.reception w.agenda.now c pass r) := by
  have hturn {change : Desk ℚ Asker × List (Desk.Signal ℚ Asker)} (ht : w.desk.Turned change)
      (hx : x ∈ change.2.flatMap w.requesting) :
      (∃ r, x = .begun r (w.network (r.url w.desk.hosts)).reply w.agenda.now) ∨
        ∃ r reply, x = .received r reply w.agenda.now := by
    obtain ⟨s, hs, hx⟩ := List.mem_flatMap.mp hx
    obtain ⟨r, url, rfl, he⟩ := requesting_cases hx
    obtain ⟨-, rfl⟩ := ht.signals _ hs
    exact he.imp (fun he => ⟨r, he⟩) fun he => ⟨r, _, he⟩
  cases job with
  | fetch r =>
    have ht := (h.sane.during (.fetch r)).turned_fetchTurn w.agenda.now
    exact (hturn ht hx).elim .inl fun hx => .inr (.inl hx)
  | limiter r =>
    have ht := (h.sane.during (.limiter r)).turned_limiterTurn w.agenda.now
    exact (hturn ht hx).elim .inl fun hx => .inr (.inl hx)
  | reply r reply => exact .inr (.inl ⟨r, reply, List.mem_singleton.mp hx⟩)
  | answer c outcome =>
    exact .inr (.inr (.inl ⟨c, outcome, rfl, List.mem_singleton.mp hx⟩))
  | _ =>
    simp only [doing] at hx
    split at hx
    · exact .inr (.inr (.inr ⟨_, _, _, List.mem_singleton.mp hx⟩))
    · cases hx

theorem mem_happenings {x : Happening Asker} (hx : x ∈ w.happenings m) :
    (∃ job ∈ w.agenda.jobs, x ∈ w.doing job) ∨ x = .thinned := by
  cases m with
  | event e =>
    cases e with
    | work =>
      unfold happenings at hx
      cases hj : w.agenda.jobs with
      | nil => simp [hj] at hx
      | cons job rest =>
        simp only [hj, List.head?_cons, Option.map_some, Option.getD_some] at hx
        exact .inl ⟨job, List.mem_cons_self, hx⟩
    | sweep => exact .inr (List.mem_singleton.mp hx)
    | clear => exact .inr (List.mem_singleton.mp hx)
    | _ => cases hx
  | ring => cases hx
  | wait time => cases hx

/-! Entries -/

/-- The last that was learned about a reference, and when: the verdict of the reply to a request
for it. -/
def Learned (history : List (Happening Asker)) (r : Reference) (verdict : Verdict) (time : ℚ) :
    Prop :=
  ∃ before reply begun after, history = before ++ .received r reply time :: after ∧
    Since (.begun r reply begun) (Happening.Ends r) before ∧ reply.verdict? r = some verdict ∧
    ∀ x ∈ after, ¬ x.Teaches r

theorem Faithful.learned {e : Cache.Entry ℚ} (h : Faithful p history w)
    (he : w.desk.cache.entries.get? r = some e) : Learned history r e.verdict e.time := by
  obtain ⟨reply, hv, before, after, hh, ha⟩ := h.accounts.kept r e he
  obtain ⟨begun, hb⟩ := h.paired before r reply e.time after hh
  exact ⟨before, reply, begun, after, hh, hb, hv, ha⟩

theorem verdict_of_verified {res : Resolution} (ho : .resolved res = reply.outcome r)
    (hv : res.verified = true) : ∃ verdict, reply.verdict? r = some verdict ∧
      res = .ofVerdict r verdict := by
  rcases reply.verdict?_cases r with ⟨verdict, hverdict, he⟩ | ⟨-, ⟨failure, he⟩ | he⟩
  · rw [he] at ho
    exact ⟨verdict, hverdict, Outcome.resolved.inj ho⟩
  · rw [he] at ho
    cases ho
  · rw [he] at ho
    cases ho
    cases hv

theorem gives_of_reception {d : Desk ℚ Asker} {now : ℚ} {pass : Option Text} {outcome : Outcome}
    (h : .given outcome = d.reception now c pass r) :
    Desk.Gives d.cache d.fetches now r outcome := by
  unfold Desk.reception at h
  rcases Desk.ask_eq d now c pass r with ⟨outcome', notes, he, -, hg⟩ |
    ⟨-, -, ⟨f, hf, -, he⟩ | ⟨hf, he⟩⟩
  · rw [he] at h
    cases h
    exact hg
  · simp [he, hf] at h
  · simp [he, hf] at h

/-- An entry of the cache that is fresh by now. -/
def IsEntry (w : Workspace ℚ) (r : Reference) (res : Resolution) : Prop :=
  ∃ e, w.desk.cache.entries.get? r = some e ∧
    w.agenda.now - e.time < (Cache.standardLifetime r.kind : Nat) ∧ res = .ofVerdict r e.verdict

/-- What the last reply said, to a fetch that is over and not forgotten. -/
def IsOutcome (w : Workspace ℚ) (history : List (Happening Asker)) (r : Reference)
    (res : Resolution) : Prop :=
  ∃ f ∈ w.desk.fetches, f.reference = r ∧ f.stage = .finished (.resolved res) ∧
    ∃ reply time verdict, Since (.received r reply time) (Happening.Ends r) history ∧
      reply.verdict? r = some verdict ∧ res = .ofVerdict r verdict

/-- What one waited for who asked when the fetch was there, or made it: the first reply after that
said so. -/
def IsAwaited (history : List (Happening Asker)) (c : Asker) (res : Resolution) : Prop :=
  ∃ before r how between reply time after verdict,
    history = before ++ .asked c r how :: between ++ .received r reply time :: after ∧
      (how = .joined ∨ how = .made) ∧ (∀ x ∈ between, ¬ x.Ends r) ∧
      reply.verdict? r = some verdict ∧ res = .ofVerdict r verdict

theorem Faithful.given {res : Resolution} (h : Faithful p history w)
    (hx : .asked c r (.given (.resolved res)) ∈ w.happenings m) (hr : r.isValid = true)
    (hv : res.verified = true) : w.IsEntry r res ∨ w.IsOutcome history r res := by
  have hg : Desk.Gives w.desk.cache w.desk.fetches w.agenda.now r (.resolved res) := by
    rcases mem_happenings hx with ⟨job, -, hx⟩ | hx
    · rcases h.orderly.doing_cases hx with ⟨_, he⟩ | ⟨_, _, he⟩ | ⟨_, _, -, he⟩ | ⟨c', pass, r', he⟩
      · cases he
      · cases he
      · cases he
      · simp only [Happening.asked.injEq] at he
        obtain ⟨rfl, rfl, he⟩ := he
        exact gives_of_reception he
    · cases hx
  cases hg with
  | missing hn => simp [hr] at hn
  | cached _ hc =>
    obtain ⟨he, hfresh⟩ := Option.filter_eq_some_iff.mp hc
    rw [Cache.isFresh, h.lifetime] at hfresh
    exact .inl ⟨_, he, of_decide_eq_true hfresh, rfl⟩
  | ended _ _ hf hfr hs =>
    subst hfr
    obtain ⟨reply, time, ho, hsince⟩ := h.accounts.ended _ hf _ hs
    obtain ⟨verdict, hverdict, he⟩ := verdict_of_verified ho hv
    exact .inr ⟨_, hf, rfl, hs, reply, time, verdict, hsince, hverdict, he⟩

theorem Faithful.told {res : Resolution} (h : Faithful p history w)
    (hx : .told c (.resolved res) ∈ w.happenings m) (hv : res.verified = true) :
    IsAwaited history c res := by
  have hanswer : (c, .resolved res) ∈ w.traffic.answers := by
    rcases mem_happenings hx with ⟨job, hj, hx⟩ | hx
    · rcases h.orderly.doing_cases hx with ⟨_, he⟩ | ⟨_, _, he⟩ | ⟨_, _, rfl, he⟩ | ⟨_, _, _, he⟩
      · cases he
      · cases he
      · cases he
        exact List.mem_filterMap.mpr ⟨_, hj, rfl⟩
      · cases he
    · cases hx
  obtain ⟨r, how, reply, time, before, between, after, hh, hhow, hb, ho⟩ :=
    h.accounts.answers _ _ hanswer
  obtain ⟨verdict, hverdict, he⟩ := verdict_of_verified ho hv
  exact ⟨before, r, how, between, reply, time, after, verdict, hh, hhow, hb, hverdict, he⟩

/-! Pages -/

theorem Orderly.received_eq (h : w.Orderly) (hx : .received r reply time ∈ w.happenings m) :
    time = w.agenda.now := by
  rcases mem_happenings hx with ⟨job, -, hx⟩ | hx
  · rcases h.doing_cases hx with ⟨_, he⟩ | ⟨_, _, he⟩ | ⟨_, _, -, he⟩ | ⟨_, _, _, he⟩
    · cases he
    · cases he
      rfl
    · cases he
    · cases he
  · cases hx

/-- No page is found. -/
def emptyPlan : Plan ℚ where
  hosts := ⟨[], []⟩
  timeout := .ofNat 1
  interval := 1
  pause := 0
  capacity := 1
  network _ := { reply := .page ⟨404, []⟩ }

end Workspace

end CommitMessage
