import CommitMessage.Proofs.Lookup.Turns
import CommitMessage.Proofs.Register

/-! What replies, questions and forgetting do to a desk. A reply ends its fetch for all who wait;
one who asks gets an outcome at once, joins a fetch, or makes one. -/

namespace CommitMessage

/-- The answer that a reply gives; none if the lookup fails. -/
def Reply.answer (r : Reference) : Reply → Option Resolution
  | page response =>
    if response.isTransient then some (.unverified r)
    else match Reference.interpret r.kind response with
      | .ok verdict => some (.ofVerdict r verdict)
      | .error _ => none
  | timedOut | failed _ => some (.unverified r)
  | crashed _ => none

/-- How a lookup ends with a reply, for all who wait. -/
def Reply.outcome (r : Reference) : Reply → Outcome
  | page response =>
    if response.isTransient then .resolved (.unverified r)
    else match Reference.interpret r.kind response with
      | .ok verdict => .resolved (.ofVerdict r verdict)
      | .error problem => .failed ⟨"ValueError".toList, problem.message⟩
  | timedOut | failed _ => .resolved (.unverified r)
  | crashed text => .failed (.plain text)

/-- What a reply says about a reference for good; none if nothing was learned. -/
def Reply.verdict? (r : Reference) : Reply → Option Verdict
  | page response =>
    if response.isTransient then none
    else match Reference.interpret r.kind response with
      | .ok verdict => some verdict
      | .error _ => none
  | _ => none

/-- An outcome that brings this answer. -/
def Outcome.IsFor (answer : Option Resolution) : Outcome → Prop
  | resolved r => answer = some r
  | failed _ => answer = none
  | stopped => False

theorem Reply.verdict?_cases (reply : Reply) (r : Reference) :
    (∃ verdict, reply.verdict? r = some verdict ∧
      reply.outcome r = .resolved (.ofVerdict r verdict)) ∨
    reply.verdict? r = none ∧ ((∃ failure, reply.outcome r = .failed failure) ∨
      reply.outcome r = .resolved (.unverified r)) := by
  cases reply with
  | page response =>
    unfold verdict? outcome
    dsimp only
    split
    · exact .inr ⟨rfl, .inr rfl⟩
    · cases Reference.interpret r.kind response with
      | ok verdict => exact .inl ⟨verdict, rfl, rfl⟩
      | error problem => exact .inr ⟨rfl, .inl ⟨_, rfl⟩⟩
  | timedOut => exact .inr ⟨rfl, .inr rfl⟩
  | failed reason => exact .inr ⟨rfl, .inr rfl⟩
  | crashed text => exact .inr ⟨rfl, .inl ⟨_, rfl⟩⟩

theorem Reply.isFor_outcome (reply : Reply) (r : Reference) :
    (reply.outcome r).IsFor (reply.answer r) := by
  cases reply with
  | page response =>
    unfold outcome answer
    dsimp only
    split
    · rfl
    · cases Reference.interpret r.kind response <;> rfl
  | _ => rfl

namespace Cache

variable {τ : Type} [TimeLine τ] [DecidableLT τ]

theorem mem_put {c : Cache τ} {now : τ} {r : Reference} {e : Entry τ}
    {entry : Reference × Entry τ} (h : entry ∈ (c.put now r e).2.entries) :
    entry = (r, e) ∨ entry ∈ c.entries := by
  unfold put at h
  refine (Register.mem_set h).imp id fun hm => ?_
  split at hm
  · exact (List.mem_filter.mp hm).1
  · exact hm

/-- The cache after it was learned what there is to a reference, if anything was. -/
def learn (c : Cache τ) (now : τ) (r : Reference) : Option Verdict → Cache τ
  | some verdict => (c.put now r ⟨verdict, now⟩).2
  | none => c

end Cache

namespace Desk

variable {κ : Type} {d : Desk ℚ κ} {f f' : Fetch κ} {r c : Reference} {due : Wake → Prop}

def Fetch.finished (f : Fetch κ) (outcome : Outcome) : Fetch κ :=
  { f with stage := .finished outcome, callers := [] }

def Fetch.IsOver (f : Fetch κ) : Prop := ∃ outcome, f.stage = .finished outcome

/-! Replies -/

/-- A fetch ends with this answer, and all who wait for it get the outcome. What is kept besides is
the answer. -/
def Ends (d : Desk ℚ κ) (now : ℚ) (f : Fetch κ) (answer : Option Resolution)
    (change : Desk ℚ κ × List (Signal ℚ κ)) : Prop :=
  ∃ cache notes outcome, outcome.IsFor answer ∧ (∀ n ∈ notes, ∃ e, n = Signal.note e) ∧
    (cache = d.cache ∨ ∃ verdict, answer = some (.ofVerdict f.reference verdict) ∧
      cache = (d.cache.put now f.reference ⟨verdict, now⟩).2) ∧
    change = ({ d with cache }.setFetch (f.finished outcome),
      notes ++ .forget f.reference :: f.callers.map (.deliver · outcome))

/-- The reply to a fetch ends it: the cache learns from it, and all who wait get its outcome. -/
theorem reply_fetching (hf : d.fetch? r = some f) (hs : f.stage = .fetching)
    (hc : f.calledOff = false) (now : ℚ) (reply : Reply) :
    ∃ notes, (∀ n ∈ notes, ∃ e, n = Signal.note e) ∧ d.reply now r reply =
      ({ d with cache := d.cache.learn now r (reply.verdict? r) }.setFetch
          (f.finished (reply.outcome r)),
        notes ++ .forget r :: f.callers.map (.deliver · (reply.outcome r))) := by
  obtain ⟨-, rfl⟩ := mem_of_fetch? hf
  have hreply : d.reply now f.reference reply = match reply with
      | .page response => d.readResponse now f response
      | .timedOut => d.readError f (.timedOut (f.reference.url d.hosts) d.timeout)
      | .failed reason => d.readError f (.failed (f.reference.url d.hosts) reason)
      | .crashed text => d.finish f (.failed (.plain text)) := by
    cases reply <;> simp [Desk.reply, hf, hs, hc]
  have hone {e : LogEntry} : ∀ n ∈ [(Signal.note e : Signal ℚ κ)], ∃ e, n = Signal.note e :=
    fun n hn => ⟨e, List.mem_singleton.mp hn⟩
  rw [hreply]
  cases reply with
  | timedOut => exact ⟨_, hone, rfl⟩
  | failed reason => exact ⟨_, hone, rfl⟩
  | crashed text => exact ⟨[], nofun, rfl⟩
  | page response =>
    dsimp only [readResponse, Reply.outcome, Reply.verdict?]
    split
    · exact ⟨_, hone, rfl⟩
    · cases Reference.interpret f.reference.kind response with
      | error problem => exact ⟨[], nofun, rfl⟩
      | ok verdict =>
        refine ⟨_, fun n hn => ?_, rfl⟩
        obtain ⟨notice, -, rfl⟩ := List.mem_map.mp hn
        exact ⟨_, rfl⟩

theorem reply_cases (h : d.Live due none) (now : ℚ) (r : Reference) (reply : Reply) :
    (d.reply now r reply = (d, []) ∧ ∀ f ∈ d.fetches, f.reference = r → f.stage ≠ .fetching) ∨
    ∃ f ∈ d.fetches, f.reference = r ∧ f.stage = .fetching ∧
      d.Ends now f (reply.answer r) (d.reply now r reply) := by
  cases hf : d.fetch? r with
  | none => exact .inl ⟨by simp [Desk.reply, hf], fun f hm hr => absurd hr (fetch?_eq_none hf f hm)⟩
  | some f =>
    obtain ⟨hm, rfl⟩ := mem_of_fetch? hf
    by_cases hs : f.stage = .fetching
    · obtain ⟨notes, hn, he⟩ := reply_fetching hf hs (h.calledOff f hm) now reply
      refine .inr ⟨f, hm, rfl, hs, _, notes, _, reply.isFor_outcome _, hn, ?_, he⟩
      have hi := reply.isFor_outcome f.reference
      rcases reply.verdict?_cases f.reference with ⟨verdict, hv, ho⟩ | ⟨hv, -⟩
      · rw [ho] at hi
        exact .inr ⟨verdict, hi, by rw [hv]; rfl⟩
      · exact .inl (by rw [hv]; rfl)
    · refine .inl ⟨by simp only [Desk.reply, hf, ne_eq, hs, not_false_eq_true, if_true],
        fun g hg hr => ?_⟩
      rwa [List.inj_on_of_nodup_map h.nodup hg hm hr]

theorem Live.withCache {busy : Option Reference} (h : d.Live due busy) (cache : Cache ℚ) :
    ({ d with cache } : Desk ℚ κ).Live due busy :=
  ⟨h.nodup, h.calledOff, h.fair, h.client, h.attended, h.sleeping, h.awake, h.called⟩

theorem Live.reply (h : d.Live (fun w => due w ∨ w = .reply r) none) (now : ℚ) (reply : Reply) :
    (d.reply now r reply).1.Live due none := by
  have hbusy := h.take (.inr rfl)
  rcases reply_cases h now r reply with ⟨he, hs⟩ | ⟨f, hm, rfl, hs, cache, _, outcome, -, -, -, he⟩
  · rw [he]
    refine hbusy.free fun g hg hr => ?_
    have ha := h.attended g hg nofun
    exact ⟨fun hf => (ha.fresh hf).resolve_right nofun, ha.inLine,
      fun hf => absurd hf (hs g hg hr), ha.finished⟩
  · rw [he]
    have hout : f.reference ∉ d.limiter.clients := h.not_mem_clients hm (by simp [hs])
    exact (hbusy.withCache cache).setFetch hm rfl (h.calledOff f hm)
      ⟨nofun, nofun, nofun, fun _ _ => rfl⟩ fun hc => absurd hc hout

/-! Fetches that are forgotten -/

theorem forget_cases (d : Desk ℚ κ) (r : Reference) :
    (d.forget r).1 = { d with fetches := d.fetches.filter fun f => f.reference ≠ r } ∧
      ∀ n ∈ (d.forget r).2, ∃ e, n = Signal.note e := by
  unfold forget
  cases hf : d.fetch? r with
  | none =>
    refine ⟨?_, nofun⟩
    have hkept : (d.fetches.filter fun f => f.reference ≠ r) = d.fetches :=
      List.filter_eq_self.mpr fun f hm => by simpa using fetch?_eq_none hf f hm
    dsimp only
    rw [hkept]
  | some f =>
    dsimp only
    split
    · exact ⟨rfl, fun n hn => ⟨_, List.mem_singleton.mp hn⟩⟩
    · exact ⟨rfl, nofun⟩

theorem Live.forget (h : d.Live due none)
    (hr : ∀ f ∈ d.fetches, f.reference = r → f.IsOver) : (d.forget r).1.Live due none := by
  rw [(forget_cases d r).1]
  have hsub : ∀ f ∈ d.fetches.filter fun f => f.reference ≠ r, f ∈ d.fetches := fun f hf =>
    (List.mem_filter.mp hf).1
  refine ⟨h.nodup.sublist (List.filter_sublist.map _), fun f hf => h.calledOff f (hsub f hf),
    h.fair, fun c hc => ?_, fun f hf => h.attended f (hsub f hf), h.sleeping, h.awake, h.called⟩
  obtain ⟨f, hf, rfl, hs⟩ := h.client c hc
  refine ⟨f, List.mem_filter.mpr ⟨hf, ?_⟩, rfl, hs⟩
  by_contra hn
  obtain ⟨outcome, ho⟩ := hr f hf (by simpa using hn)
  rw [hs] at ho
  cases ho

/-! Questions -/

/-- An outcome that one who asks gets at once. -/
inductive Gives (cache : Cache ℚ) (fetches : List (Fetch κ)) (now : ℚ) (r : Reference) :
    Outcome → Prop
  | missing (hv : r.isValid = false) : Gives cache fetches now r (.resolved (.missing r))
  | cached {entry : Cache.Entry ℚ} (hv : r.isValid = true) (hc : cache.get? now r = some entry) :
      Gives cache fetches now r (.resolved (.ofVerdict r entry.verdict))
  | ended {f : Fetch κ} {outcome : Outcome} (hv : r.isValid = true) (hc : cache.get? now r = none)
      (hf : f ∈ fetches) (hr : f.reference = r) (hs : f.stage = .finished outcome) :
      Gives cache fetches now r outcome

/-- The outcome is at hand; or it is not in the cache, and the one who asks joins a fetch, or a
fetch is made. -/
theorem ask_eq (d : Desk ℚ κ) (now : ℚ) (caller : κ) (pass : Option Text) (r : Reference) :
    (∃ outcome notes, d.ask now caller pass r = (some outcome, d, notes) ∧
      (∀ n ∈ notes, ∃ e, n = Signal.note e) ∧ Gives d.cache d.fetches now r outcome) ∨
    r.isValid = true ∧ d.cache.get? now r = none ∧
      ((∃ f, d.fetch? r = some f ∧ ¬ f.IsOver ∧ d.ask now caller pass r =
          (none, d.setFetch { f with callers := f.callers ++ [caller] }, [])) ∨
        d.fetch? r = none ∧ d.ask now caller pass r = (none,
          { d with fetches := d.fetches ++ [{ reference := r, pass, callers := [caller] }] },
          [.fetchTurn r])) := by
  cases hv : r.isValid with
  | false => exact .inl ⟨_, [], by simp [ask, hv], nofun, .missing hv⟩
  | true =>
    cases hc : d.cache.get? now r with
    | some entry =>
      exact .inl ⟨_, _, by simp [ask, hv, hc]; rfl, fun n hn => ⟨_, List.mem_singleton.mp hn⟩,
        .cached hv hc⟩
    | none =>
      cases hf : d.fetch? r with
      | none => exact .inr ⟨rfl, rfl, .inr ⟨rfl, by simp [ask, hv, hc, hf]⟩⟩
      | some f =>
        by_cases ho : f.IsOver
        · obtain ⟨outcome, hs⟩ := ho
          obtain ⟨hm, hr⟩ := mem_of_fetch? hf
          exact .inl ⟨outcome, [], by simp [ask, hv, hc, hf, hs], nofun, .ended hv hc hm hr hs⟩
        · refine .inr ⟨rfl, rfl, .inl ⟨f, rfl, ho, ?_⟩⟩
          cases hs : f.stage with
          | finished outcome => exact absurd ⟨outcome, hs⟩ ho
          | _ => simp [ask, hv, hc, hf, hs]

theorem ask_cases (d : Desk ℚ κ) (now : ℚ) (caller : κ) (pass : Option Text) (r : Reference) :
    (∃ outcome notes, d.ask now caller pass r = (some outcome, d, notes) ∧
      (∀ n ∈ notes, ∃ e, n = Signal.note e) ∧
      (r.isValid = false ∧ outcome = .resolved (.missing r) ∨
        (∃ entry, (r, entry) ∈ d.cache.entries ∧
          outcome = .resolved (.ofVerdict r entry.verdict)) ∨
        ∃ f ∈ d.fetches, f.reference = r ∧ f.stage = .finished outcome)) ∨
    (∃ f ∈ d.fetches, f.reference = r ∧ ¬ f.IsOver ∧
      d.ask now caller pass r =
        (none, d.setFetch { f with callers := f.callers ++ [caller] }, [])) ∨
    r.isValid = true ∧ (∀ f ∈ d.fetches, f.reference ≠ r) ∧
      d.ask now caller pass r = (none,
        { d with fetches := d.fetches ++ [{ reference := r, pass, callers := [caller] }] },
        [.fetchTurn r]) := by
  rcases ask_eq d now caller pass r with ⟨outcome, notes, he, hn, hg⟩ |
    ⟨hv, -, ⟨f, hf, ho, he⟩ | ⟨hf, he⟩⟩
  · refine .inl ⟨outcome, notes, he, hn, ?_⟩
    cases hg with
    | missing hv => exact .inl ⟨hv, rfl⟩
    | cached hv hc =>
      exact .inr (.inl ⟨_, Register.mem_of_get? (Option.filter_eq_some_iff.mp hc).1, rfl⟩)
    | ended hv hc hf hr hs => exact .inr (.inr ⟨_, hf, hr, hs⟩)
  · obtain ⟨hm, hr⟩ := mem_of_fetch? hf
    exact .inr (.inl ⟨f, hm, hr, ho, he⟩)
  · exact .inr (.inr ⟨hv, fetch?_eq_none hf, he⟩)

theorem Live.busy (h : d.Live due none) (r : Reference) : d.Live due (some r) :=
  ⟨h.nodup, h.calledOff, h.fair, h.client, fun f hf _ => h.attended f hf nofun, h.sleeping,
    h.awake, h.called⟩

theorem Live.ask (h : d.Live due none) (now : ℚ) (caller : κ) (pass : Option Text)
    (r : Reference) : (d.ask now caller pass r).2.1.Live
      (fun w => due w ∨ w ∈ wakes (d.ask now caller pass r).2.2) none := by
  have hmono : d.Live (fun w => due w ∨ w ∈ wakes (d.ask now caller pass r).2.2) none :=
    h.mono fun _ => .inl
  rcases ask_cases d now caller pass r with ⟨_, _, he, -⟩ | ⟨f, hf, rfl, hn, he⟩ | ⟨-, hr, he⟩
  · rw [he] at hmono ⊢
    exact hmono
  · rw [he] at hmono ⊢
    have ha := hmono.attended f hf nofun
    refine (hmono.busy f.reference).setFetch hf rfl (h.calledOff f hf)
      ⟨ha.fresh, ha.inLine, ha.fetching, fun outcome ho => absurd ⟨outcome, ho⟩ hn⟩ fun hc => ?_
    obtain ⟨g, hg, hgr, hs⟩ := h.client _ hc
    rwa [List.inj_on_of_nodup_map h.nodup hg hf hgr] at hs
  · rw [he] at hmono ⊢
    refine ⟨?_, fun f hf => ?_, h.fair, fun c hc => ?_, fun f hf _ => ?_, hmono.sleeping,
      hmono.awake, hmono.called⟩
    · rw [List.map_append]
      refine h.nodup.append (List.nodup_singleton _) (List.disjoint_singleton.mpr fun hm => ?_)
      obtain ⟨f, hf, he⟩ := List.mem_map.mp hm
      exact hr f hf he
    · rcases List.mem_append.mp hf with hf | hf
      · exact h.calledOff f hf
      · rw [List.mem_singleton.mp hf]
    · obtain ⟨f, hf, hh⟩ := h.client c hc
      exact ⟨f, List.mem_append_left _ hf, hh⟩
    · rcases List.mem_append.mp hf with hf | hf
      · exact hmono.attended f hf nofun
      · rw [List.mem_singleton.mp hf]
        exact ⟨fun _ => .inr List.mem_cons_self, nofun, nofun, nofun⟩

end Desk

end CommitMessage
