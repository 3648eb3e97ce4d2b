import CommitMessage.Proofs.Lookup.Traffic
import Mathlib

/-! What has happened at a desk accounts for what there is: why someone waits, which outcomes are
owed, what the cache holds, and in which order requests go out. -/

namespace CommitMessage

namespace Cache

variable {c : Cache ℚ} {now time : ℚ} {r r' : Reference}

/-- What is not fresh never becomes fresh again. -/
theorem get?_later (h : c.get? now r = none) (ht : now ≤ time) : c.get? time r = none := by
  simp only [get?, Option.filter_eq_none_iff, isFresh, decide_eq_true_eq] at h ⊢
  intro entry he hf
  exact h entry he (by linarith)

theorem get?_thinned (hnd : c.entries.keys.Nodup) (stays : Reference × Entry ℚ → Bool)
    (h : c.get? now r = none) :
    ({ c with entries := c.entries.filter stays } : Cache ℚ).get? now r = none := by
  simp only [get?, Option.filter_eq_none_iff] at h ⊢
  intro entry he
  rw [Register.get?_filter hnd] at he
  exact h entry (Option.filter_eq_some_iff.mp he).1

theorem put_eq (c : Cache ℚ) (now : ℚ) (r : Reference) (e : Entry ℚ) :
    ∃ stays : Reference × Entry ℚ → Bool,
      (c.put now r e).2 = { c with entries := Register.set r e (c.entries.filter stays) } := by
  by_cases h : c.capacity < c.entries.length
  · exact ⟨fun entry => c.isFresh now entry.1 entry.2, by simp [put, h, sweep]⟩
  · exact ⟨fun _ => true, by simp [put, h]⟩

theorem lifetime_learn (c : Cache ℚ) (now : ℚ) (r : Reference) (verdict : Option Verdict) :
    (c.learn now r verdict).lifetime = c.lifetime := by
  cases verdict with
  | none => rfl
  | some verdict =>
    obtain ⟨stays, he⟩ := put_eq c now r ⟨verdict, now⟩
    rw [learn, he]

/-- Another reference is none the fresher for what was learned. -/
theorem get?_learn (hnd : c.entries.keys.Nodup) (hr : r ≠ r') (verdict : Option Verdict)
    (h : c.get? now r = none) : (c.learn now r' verdict).get? now r = none := by
  cases verdict with
  | none => exact h
  | some verdict =>
    obtain ⟨stays, he⟩ := put_eq c now r' ⟨verdict, now⟩
    have ht := get?_thinned hnd stays h
    rw [learn, he]
    simp only [get?] at ht ⊢
    rwa [Register.get?_set, if_neg hr]

theorem nodup_keys_learn (hnd : c.entries.keys.Nodup) (now : ℚ) (r : Reference)
    (verdict : Option Verdict) : (c.learn now r verdict).entries.keys.Nodup := by
  cases verdict with
  | none => exact hnd
  | some verdict =>
    obtain ⟨stays, he⟩ := put_eq c now r ⟨verdict, now⟩
    rw [learn, he]
    exact Register.nodup_keys_set (Register.nodup_keys_filter hnd stays)

theorem entry_learn (hnd : c.entries.keys.Nodup) {verdict : Option Verdict} {e : Entry ℚ}
    (h : (c.learn now r' verdict).entries.get? r = some e) :
    (r = r' ∧ verdict = some e.verdict ∧ e.time = now) ∨
      ((r = r' → verdict = none) ∧ c.entries.get? r = some e) := by
  cases verdict with
  | none => exact .inr ⟨fun _ => rfl, h⟩
  | some verdict =>
    obtain ⟨stays, he⟩ := put_eq c now r' ⟨verdict, now⟩
    rw [learn, he, Register.get?_set] at h
    by_cases hr : r = r'
    · rw [if_pos hr] at h
      cases h
      exact .inl ⟨hr, rfl, rfl⟩
    · rw [if_neg hr, Register.get?_filter hnd] at h
      exact .inr ⟨fun he => absurd he hr, (Option.filter_eq_some_iff.mp h).1⟩

end Cache

namespace Desk

variable {κ : Type}

/-! Happenings -/

namespace Happening

/-- A reply for the reference comes: its fetch is over. -/
def Ends (r : Reference) : Happening κ → Prop
  | received r' _ _ => r' = r
  | _ => False

/-- A reply comes that says something about the reference. -/
def Teaches (r : Reference) : Happening κ → Prop
  | received r' reply _ => r' = r ∧ reply.verdict? r ≠ none
  | _ => False

def made? : Happening κ → Option Reference
  | asked _ r .made => some r
  | _ => none

def begun? : Happening κ → Option (Reference × ℚ)
  | begun r _ time => some (r, time)
  | _ => none

end Happening

/-- The happening is part of the history, and nothing of the kind has come after it. -/
def Since (e : Happening κ) (bar : Happening κ → Prop) (history : List (Happening κ)) : Prop :=
  ∃ before after, history = before ++ e :: after ∧ ∀ x ∈ after, ¬ bar x

/-- One who asked had to wait, and the first reply after that has this outcome. -/
def Owes (c : κ) (outcome : Outcome) (history : List (Happening κ)) : Prop :=
  ∃ r how reply time before between after,
    history = before ++ .asked c r how :: between ++ .received r reply time :: after ∧
      (how = .joined ∨ how = .made) ∧ (∀ x ∈ between, ¬ x.Ends r) ∧ outcome = reply.outcome r

section

variable {e : Happening κ} {bar : Happening κ → Prop} {history more : List (Happening κ)} {c : κ}
  {outcome : Outcome}

theorem Since.append (h : Since e bar history) (hm : ∀ x ∈ more, ¬ bar x) :
    Since e bar (history ++ more) := by
  obtain ⟨before, after, rfl, ha⟩ := h
  refine ⟨before, after ++ more, by simp, fun x hx => ?_⟩
  exact (List.mem_append.mp hx).elim (ha x) (hm x)

theorem Since.mono {bar' : Happening κ → Prop} (h : Since e bar history)
    (hb : ∀ x, bar' x → bar x) : Since e bar' history := by
  obtain ⟨before, after, he, ha⟩ := h
  exact ⟨before, after, he, fun x hx hx' => ha x hx (hb x hx')⟩

theorem since_last (e : Happening κ) (bar : Happening κ → Prop) (history : List (Happening κ)) :
    Since e bar (history ++ [e]) :=
  ⟨history, [], rfl, List.forall_mem_nil _⟩

/-- After what bars it, a happening is the last of its kind only if it comes later. -/
theorem Since.of_append_singleton {x : Happening κ} (h : Since e bar (history ++ [x])) :
    e = x ∨ ¬ bar x ∧ Since e bar history := by
  obtain ⟨before, after, he, ha⟩ := h
  rcases List.eq_nil_or_concat after with rfl | ⟨front, last, rfl⟩
  · exact .inl (List.append_inj' he rfl |>.2 |> List.singleton_inj.mp).symm
  · rw [List.concat_eq_append, ← List.cons_append, ← List.append_assoc] at he
    obtain ⟨rfl, hx⟩ := List.append_inj' he rfl
    obtain rfl := List.singleton_inj.mp hx
    refine .inr ⟨ha x (by simp), before, front, rfl, fun y hy => ha y (by simp [hy])⟩

theorem Since.of_append (h : Since e bar (history ++ more)) (hm : e ∉ more) :
    Since e bar history := by
  obtain ⟨before, after, he, ha⟩ := h
  rcases List.append_eq_append_iff.mp he with ⟨mid, -, hmore⟩ | ⟨mid, rfl, hmid⟩
  · rw [hmore] at hm
    exact absurd (by simp) hm
  · cases mid with
    | nil =>
      rw [List.nil_append] at hmid
      rw [← hmid] at hm
      exact absurd (by simp) hm
    | cons x mid =>
      obtain ⟨rfl, rfl⟩ := List.cons.inj hmid
      exact ⟨before, mid, rfl, fun y hy => ha y (List.mem_append_left _ hy)⟩

theorem Owes.append (h : Owes c outcome history) (more : List (Happening κ)) :
    Owes c outcome (history ++ more) := by
  obtain ⟨r, how, reply, time, before, between, after, rfl, hr⟩ := h
  exact ⟨r, how, reply, time, before, between, after ++ more, by simp, hr⟩

/-- Of two happenings that bar each other only one can be the last. -/
theorem Since.clash {e' : Happening κ} {bar' : Happening κ → Prop} (h : Since e bar history)
    (h' : Since e' bar' history) (hb : bar e') (hb' : bar' e) : e = e' := by
  obtain ⟨before, after, rfl, ha⟩ := h
  obtain ⟨before', after', he, ha'⟩ := h'
  rcases List.append_eq_append_iff.mp he with ⟨mid, rfl, hmid⟩ | ⟨mid, rfl, hmid⟩
  · cases mid with
    | nil => exact (List.cons.inj hmid).1
    | cons x mid =>
      obtain ⟨-, rfl⟩ := List.cons.inj hmid
      exact absurd hb (ha e' (by simp))
  · cases mid with
    | nil => exact (List.cons.inj hmid).1.symm
    | cons x mid =>
      obtain ⟨-, rfl⟩ := List.cons.inj hmid
      exact absurd hb' (ha' e (by simp))

theorem first_unique {r : Reference} {before before' after after' : List (Happening κ)}
    {reply reply' : Reply} {time time' : ℚ}
    (h : before ++ .received r reply time :: after = before' ++ .received r reply' time' :: after')
    (hb : ∀ x ∈ before, ¬ x.Ends r) (hb' : ∀ x ∈ before', ¬ x.Ends r) :
    reply = reply' ∧ after = after' := by
  rcases List.append_eq_append_iff.mp h with ⟨mid, rfl, hmid⟩ | ⟨mid, rfl, hmid⟩
  · cases mid with
    | nil =>
      cases hmid
      exact ⟨rfl, rfl⟩
    | cons x mid =>
      obtain ⟨rfl, -⟩ := List.cons.inj hmid
      exact absurd rfl (hb' (.received r reply time) (by simp))
  · cases mid with
    | nil =>
      cases hmid
      exact ⟨rfl, rfl⟩
    | cons x mid =>
      obtain ⟨rfl, -⟩ := List.cons.inj hmid
      exact absurd rfl (hb (.received r reply' time') (by simp))

theorem owes_received {r : Reference} {how : Reception} (hw : how = .joined ∨ how = .made)
    (h : Since (.asked c r how) (Happening.Ends r) history) (reply : Reply) (time : ℚ) :
    Owes c (reply.outcome r) (history ++ [.received r reply time]) := by
  obtain ⟨before, between, rfl, hb⟩ := h
  exact ⟨r, how, reply, time, before, between, [], rfl, hw, hb, rfl⟩

end

/-! What there is, and why -/

namespace Traffic

variable {gone : κ → Prop} {t t' : Traffic κ} {history hs : List (Happening κ)}

structure Accounts (history : List (Happening κ)) (t : Traffic κ) : Prop where
  waiting : ∀ f ∈ t.fetches, ∀ c ∈ f.callers, ∃ how, (how = .joined ∨ how = .made) ∧
    Since (.asked c f.reference how) (Happening.Ends f.reference) history
  replies : ∀ r reply, (r, reply) ∈ t.replies →
    ∃ time, Since (.begun r reply time) (Happening.Ends r) history
  ended : ∀ f ∈ t.fetches, ∀ outcome, f.stage = .finished outcome → ∃ reply time,
    outcome = reply.outcome f.reference ∧
      Since (.received f.reference reply time) (Happening.Ends f.reference) history
  answers : ∀ c outcome, (c, outcome) ∈ t.answers → Owes c outcome history
  keys : t.cache.entries.keys.Nodup
  kept : ∀ r e, t.cache.entries.get? r = some e → ∃ reply, reply.verdict? r = some e.verdict ∧
    Since (.received r reply e.time) (Happening.Teaches r) history
  asking : ∀ f ∈ t.fetches, ¬ f.IsOver → t.cache.get? t.now f.reference = none
  making : ∀ f ∈ t.fetches, ¬ f.IsOver →
    ∃ c, Since (.asked c f.reference .made) (Happening.Ends f.reference) history
  unknown : ∀ r reply time, Since (.received r reply time) (Happening.Ends r) history →
    reply.verdict? r = none → t.cache.get? t.now r = none

/-- A step in which no reply comes. Who waits did so before or has just asked, what is expected was
so before or has just been requested, and nothing else is new but a fetch for what is unknown. -/
theorem Accounts.quiet (h : Accounts history t) (hn : ∀ x ∈ hs, ∀ r, ¬ x.Ends r)
    (hw : ∀ f ∈ t'.fetches, ∀ c ∈ f.callers,
      (∃ g ∈ t.fetches, g.reference = f.reference ∧ c ∈ g.callers) ∨
        ∃ how, (how = .joined ∨ how = .made) ∧ hs = [.asked c f.reference how])
    (hr : ∀ r reply, (r, reply) ∈ t'.replies →
      (r, reply) ∈ t.replies ∨ ∃ time, hs = [.begun r reply time])
    (hf : ∀ f ∈ t'.fetches, (∃ g ∈ t.fetches, g.reference = f.reference ∧
        ∀ outcome, f.stage = .finished outcome ↔ g.stage = .finished outcome) ∨
      ¬ f.IsOver ∧ t.cache.get? t.now f.reference = none ∧
        ∃ c, hs = [.asked c f.reference .made])
    (ha : ∀ x ∈ t'.answers, x ∈ t.answers) (hk : t'.cache.entries.keys.Nodup)
    (he : ∀ r e, t'.cache.entries.get? r = some e → t.cache.entries.get? r = some e)
    (hc : ∀ r, t.cache.get? t.now r = none → t'.cache.get? t'.now r = none) :
    Accounts (history ++ hs) t' := by
  have hteach : ∀ x ∈ hs, ∀ r, ¬ x.Teaches r := by
    intro x hx r ht
    cases x with
    | received r' reply time => exact hn _ hx r ht.1
    | _ => exact ht
  refine ⟨fun f hm c hcf => ?_, fun r reply hm => ?_, fun f hm outcome ho => ?_,
    fun c outcome hm => (h.answers c outcome (ha _ hm)).append hs, hk, fun r e hm => ?_,
    fun f hm ho => ?_, fun f hm ho => ?_, fun r reply time hsince hv => ?_⟩
  · rcases hw f hm c hcf with ⟨g, hg, hgr, hcg⟩ | ⟨how, hh, rfl⟩
    · obtain ⟨how, hh, hsince⟩ := h.waiting g hg c hcg
      rw [hgr] at hsince
      exact ⟨how, hh, hsince.append fun x hx => hn x hx _⟩
    · exact ⟨how, hh, since_last _ _ _⟩
  · rcases hr r reply hm with hm | ⟨time, rfl⟩
    · obtain ⟨time, hsince⟩ := h.replies r reply hm
      exact ⟨time, hsince.append fun x hx => hn x hx _⟩
    · exact ⟨time, since_last _ _ _⟩
  · rcases hf f hm with ⟨g, hg, hgr, hsame⟩ | ⟨hno, -⟩
    · obtain ⟨reply, time, heq, hsince⟩ := h.ended g hg outcome ((hsame outcome).mp ho)
      rw [hgr] at heq hsince
      exact ⟨reply, time, heq, hsince.append fun x hx => hn x hx _⟩
    · exact absurd ⟨outcome, ho⟩ hno
  · obtain ⟨reply, hv, hsince⟩ := h.kept r e (he r e hm)
    exact ⟨reply, hv, hsince.append fun x hx => hteach x hx r⟩
  · rcases hf f hm with ⟨g, hg, hgr, hsame⟩ | ⟨-, hnone, -⟩
    · have hno : ¬ g.IsOver := fun ⟨outcome, hg⟩ => ho ⟨outcome, (hsame outcome).mpr hg⟩
      exact hc _ (hgr ▸ h.asking g hg hno)
    · exact hc _ hnone
  · rcases hf f hm with ⟨g, hg, hgr, hsame⟩ | ⟨-, -, c, rfl⟩
    · have hno : ¬ g.IsOver := fun ⟨outcome, hg⟩ => ho ⟨outcome, (hsame outcome).mpr hg⟩
      obtain ⟨c, hsince⟩ := h.making g hg hno
      rw [hgr] at hsince
      exact ⟨c, hsince.append fun x hx => hn x hx _⟩
    · exact ⟨c, since_last _ _ _⟩
  · have hold := hsince.of_append fun hm => hn _ hm r rfl
    exact hc r (h.unknown r reply time hold hv)

theorem Sound.reference_ne {older newer : List (Fetch κ)} {f g : Fetch κ} (h : t.Sound)
    (hf : t.fetches = older ++ f :: newer) (hg : g ∈ older ∨ g ∈ newer) :
    g ∈ t.fetches ∧ g.reference ≠ f.reference := by
  have hn := h.nodup
  rw [hf, List.map_append, List.map_cons] at hn
  obtain ⟨-, hnewer, hd⟩ := List.nodup_append.mp hn
  rw [hf]
  rcases hg with hg | hg
  · exact ⟨by simp [hg], hd _ (List.mem_map_of_mem hg) _ List.mem_cons_self⟩
  · refine ⟨by simp [hg], fun he => (List.nodup_cons.mp hnewer).1 ?_⟩
    rw [← he]
    exact List.mem_map_of_mem hg

/-- A reply is on its way for each fetch that waits for one, and no other. -/
theorem Sound.reply_ne {replies : Multiset (Reference × Reply)} {r r' : Reference}
    {reply reply' : Reply} (h : t.Sound) (hr : t.replies = (r, reply) ::ₘ replies)
    (hm : (r', reply') ∈ replies) : r' ≠ r := by
  have hn : (t.replies.map (·.1)).Nodup := by
    rw [h.fetching]
    exact h.nodup.sublist (List.filter_sublist.map _)
  rw [hr, Multiset.map_cons, Multiset.nodup_cons] at hn
  rintro rfl
  exact hn.1 (Multiset.mem_map.mpr ⟨_, hm, rfl⟩)

theorem Accounts.receive {older newer : List (Fetch κ)} {f : Fetch κ} {reply : Reply}
    {replies : Multiset (Reference × Reply)} (h : Accounts history t) (ht : t.Sound)
    (hf : t.fetches = older ++ f :: newer) (hs : f.stage = .fetching)
    (hr : t.replies = (f.reference, reply) ::ₘ replies) :
    Accounts (history ++ [.received f.reference reply t.now])
      { t with
        fetches := older ++ f.finished (reply.outcome f.reference) :: newer
        cache := t.cache.learn t.now f.reference (reply.verdict? f.reference)
        replies
        forgets := t.forgets ++ [f.reference]
        answers := t.answers ++ f.callers.map (·, reply.outcome f.reference) } := by
  have hno : ¬ f.IsOver := fun ⟨outcome, ho⟩ => by
    rw [hs] at ho
    cases ho
  have hmem := mem_of_split hf
  have hother {r : Reference} (hr : r ≠ f.reference) :
      ∀ x ∈ [(.received f.reference reply t.now : Happening κ)], ¬ x.Ends r := by
    intro x hx he
    rw [List.mem_singleton.mp hx] at he
    exact hr he.symm
  have hcases {g : Fetch κ} (hg : g ∈ older ++ f.finished (reply.outcome f.reference) :: newer) :
      g = f.finished (reply.outcome f.reference) ∨ g ∈ t.fetches ∧ g.reference ≠ f.reference := by
    rcases List.mem_append.mp hg with hg | hg
    · exact .inr (ht.reference_ne hf (.inl hg))
    · exact (List.mem_cons.mp hg).imp_right fun hg => ht.reference_ne hf (.inr hg)
  -- in each part the fetch that ends is apart from all others, for which nothing has come to an end
  refine ⟨fun g hg c hc => ?_, fun r reply' hm => ?_, fun g hg outcome ho => ?_,
    fun c outcome hm => ?_, Cache.nodup_keys_learn h.keys _ _ _, fun r e he => ?_,
    fun g hg ho => ?_, fun g hg ho => ?_, fun r reply' time hsince hv => ?_⟩
  · rcases hcases hg with rfl | ⟨hg, hne⟩
    · cases hc
    · obtain ⟨how, hw, hsince⟩ := h.waiting g hg c hc
      exact ⟨how, hw, hsince.append (hother hne)⟩
  · have hne := ht.reply_ne hr hm
    obtain ⟨time, hsince⟩ := h.replies r reply' (by rw [hr]; exact Multiset.mem_cons_of_mem hm)
    exact ⟨time, hsince.append (hother hne)⟩
  · rcases hcases hg with rfl | ⟨hg, hne⟩
    · cases ho
      exact ⟨reply, t.now, rfl, since_last _ _ _⟩
    · obtain ⟨reply', time, heq, hsince⟩ := h.ended g hg outcome ho
      exact ⟨reply', time, heq, hsince.append (hother hne)⟩
  · rcases List.mem_append.mp hm with hm | hm
    · exact (h.answers c outcome hm).append _
    · obtain ⟨c', hc, he⟩ := List.mem_map.mp hm
      cases he
      obtain ⟨how, hw, hsince⟩ := h.waiting f hmem c hc
      exact owes_received hw hsince reply t.now
  · rcases Cache.entry_learn h.keys he with ⟨rfl, hv, htime⟩ | ⟨hnone, he⟩
    · refine ⟨reply, hv, ?_⟩
      rw [htime]
      exact since_last _ _ _
    · obtain ⟨reply', hv, hsince⟩ := h.kept r e he
      refine ⟨reply', hv, hsince.append fun x hx hteach => ?_⟩
      rw [List.mem_singleton.mp hx] at hteach
      obtain ⟨rfl, hteach⟩ := hteach
      exact hteach (hnone rfl)
  · rcases hcases hg with rfl | ⟨hg, hne⟩
    · exact absurd ⟨_, rfl⟩ ho
    · exact Cache.get?_learn h.keys hne _ (h.asking g hg ho)
  · rcases hcases hg with rfl | ⟨hg, hne⟩
    · exact absurd ⟨_, rfl⟩ ho
    · obtain ⟨c, hsince⟩ := h.making g hg ho
      exact ⟨c, hsince.append (hother hne)⟩
  · rcases hsince.of_append_singleton with he | ⟨hne, hsince⟩
    · cases he
      rw [hv]
      exact h.asking f hmem hno
    · exact Cache.get?_learn h.keys (Ne.symm hne) _ (h.unknown r reply' time hsince hv)

theorem Step.accounts (h : Step gone t hs t') (ht : t.Sound) (ha : Accounts history t) :
    Accounts (history ++ hs) t' := by
  have hsame {f : Fetch κ} (hf : f ∈ t.fetches) : ∃ g ∈ t.fetches, g.reference = f.reference ∧
      ∀ outcome, f.stage = .finished outcome ↔ g.stage = .finished outcome :=
    ⟨f, hf, rfl, fun _ => Iff.rfl⟩
  have hnone : ∀ x ∈ ([] : List (Happening κ)), ∀ r, ¬ x.Ends r := List.forall_mem_nil _
  cases h with
  | pass h =>
    exact ha.quiet hnone (fun f hf c hc => .inl ⟨f, hf, rfl, hc⟩) (fun _ _ => .inl)
      (fun f hf => .inl (hsame hf)) (fun _ => id) ha.keys (fun _ _ => id)
      fun r hr => Cache.get?_later hr h
  | leave stays h =>
    refine ha.quiet hnone (fun f hf c hc => ?_) (fun _ _ => .inl) (fun f hf => ?_) (fun _ => id)
      ha.keys (fun _ _ => id) fun _ => id
    · obtain ⟨g, hg, rfl⟩ := List.mem_map.mp hf
      exact .inl ⟨g, hg, rfl, (List.mem_filter.mp hc).1⟩
    · obtain ⟨g, hg, rfl⟩ := List.mem_map.mp hf
      exact .inl ⟨g, hg, rfl, fun _ => Iff.rfl⟩
  | thin stays =>
    refine ha.quiet (by simp [Happening.Ends]) (fun f hf c hc => .inl ⟨f, hf, rfl, hc⟩)
      (fun _ _ => .inl) (fun f hf => .inl (hsame hf)) (fun _ => id)
      (Register.nodup_keys_filter ha.keys stays) (fun r e he => ?_)
      fun r hr => Cache.get?_thinned ha.keys stays hr
    dsimp only at he
    rw [Register.get?_filter ha.keys] at he
    exact (Option.filter_eq_some_iff.mp he).1
  | give h =>
    exact ha.quiet (by simp [Happening.Ends]) (fun f hf c hc => .inl ⟨f, hf, rfl, hc⟩)
      (fun _ _ => .inl) (fun f hf => .inl (hsame hf)) (fun _ => id) ha.keys (fun _ _ => id)
      fun _ => id
  | join hf ho hc =>
    refine ha.quiet (by simp [Happening.Ends]) (fun g hg c hcg => ?_) (fun _ _ => .inl)
      (fun g hg => ?_) (fun _ => id) ha.keys (fun _ _ => id) fun _ => id
    · rcases mem_of_replace hf hg with hg | rfl
      · exact .inl ⟨g, hg, rfl, hcg⟩
      · rcases List.mem_append.mp hcg with hcg | hcg
        · exact .inl ⟨_, mem_of_split hf, rfl, hcg⟩
        · rw [List.mem_singleton.mp hcg]
          exact .inr ⟨.joined, .inl rfl, rfl⟩
    · rcases mem_of_replace hf hg with hg | rfl
      · exact .inl (hsame hg)
      · exact .inl ⟨_, mem_of_split hf, rfl, fun _ => Iff.rfl⟩
  | make hv hr hc =>
    refine ha.quiet (by simp [Happening.Ends]) (fun g hg c hcg => ?_) (fun _ _ => .inl)
      (fun g hg => ?_) (fun _ => id) ha.keys (fun _ _ => id) fun _ => id
    · rcases List.mem_append.mp hg with hg | hg
      · exact .inl ⟨g, hg, rfl, hcg⟩
      · rw [List.mem_singleton.mp hg] at hcg ⊢
        rw [List.mem_singleton.mp hcg]
        exact .inr ⟨.made, .inr rfl, rfl⟩
    · rcases List.mem_append.mp hg with hg | hg
      · exact .inl (hsame hg)
      · rw [List.mem_singleton.mp hg]
        exact .inr ⟨nofun, hc, _, rfl⟩
  | enter hf hs htn =>
    refine ha.quiet hnone (fun g hg c hcg => ?_) (fun _ _ => .inl) (fun g hg => ?_) (fun _ => id)
      ha.keys (fun _ _ => id) fun _ => id
    · rcases mem_of_replace hf hg with hg | rfl
      · exact .inl ⟨g, hg, rfl, hcg⟩
      · exact .inl ⟨_, mem_of_split hf, rfl, hcg⟩
    · rcases mem_of_replace hf hg with hg | rfl
      · exact .inl (hsame hg)
      · exact .inl ⟨_, mem_of_split hf, rfl, by simp [hs]⟩
  | begin hf hs hc hl =>
    refine ha.quiet (by simp [Happening.Ends]) (fun g hg c hcg => ?_) (fun r reply hm => ?_)
      (fun g hg => ?_) (fun _ => id) ha.keys (fun _ _ => id) fun _ => id
    · rcases mem_of_replace hf hg with hg | rfl
      · exact .inl ⟨g, hg, rfl, hcg⟩
      · exact .inl ⟨_, mem_of_split hf, rfl, hcg⟩
    · rcases Multiset.mem_cons.mp hm with he | hm
      · cases he
        exact .inr ⟨t.now, rfl⟩
      · exact .inl hm
    · rcases mem_of_replace hf hg with hg | rfl
      · exact .inl (hsame hg)
      · exact .inl ⟨_, mem_of_split hf, rfl, by simp [hs]⟩
  | receive hf hs hr => exact ha.receive ht hf hs hr
  | forget hf ho hg =>
    have hsub {g : Fetch κ} {older newer : List (Fetch κ)} {f : Fetch κ}
        (hf : t.fetches = older ++ f :: newer) (hg : g ∈ older ++ newer) : g ∈ t.fetches := by
      rw [hf]
      exact (List.mem_append.mp hg).elim (List.mem_append_left _) fun hg => by simp [hg]
    exact ha.quiet hnone (fun g hg c hcg => .inl ⟨g, hsub hf hg, rfl, hcg⟩) (fun _ _ => .inl)
      (fun g hg => .inl (hsame (hsub hf hg))) (fun _ => id) ha.keys (fun _ _ => id) fun _ => id
  | tell hans =>
    refine ha.quiet (by simp [Happening.Ends]) (fun f hf c hc => .inl ⟨f, hf, rfl, hc⟩)
      (fun _ _ => .inl) (fun f hf => .inl (hsame hf)) (fun x hx => ?_) ha.keys (fun _ _ => id)
      fun _ => id
    rw [hans]
    exact List.mem_cons_of_mem _ hx

theorem Steps.accounts (h : Steps gone t hs t') (ht : t.Sound) (ha : Accounts history t) :
    Accounts (history ++ hs) t' := by
  induction h with
  | refl => simpa using ha
  | tail hsteps hstep ih =>
    have hall := hstep.accounts (hsteps.sound ht) ih
    rwa [List.append_assoc] at hall

/-! Requests and replies -/

/-- Every reply comes after a request for the reference that no other reply came for. -/
def Paired (history : List (Happening κ)) : Prop :=
  ∀ before r reply time after, history = before ++ .received r reply time :: after →
    ∃ begun, Since (.begun r reply begun) (Happening.Ends r) before

theorem Paired.append (h : Paired history) (hn : ∀ r reply time, .received r reply time ∉ hs) :
    Paired (history ++ hs) := by
  intro before r reply time after he
  rcases List.append_eq_append_iff.mp he with ⟨mid, -, hmid⟩ | ⟨mid, hmid, hrest⟩
  · exact absurd (hmid ▸ by simp) (hn r reply time)
  · cases mid with
    | nil =>
      rw [List.nil_append] at hrest
      exact absurd (hrest ▸ List.mem_cons_self) (hn r reply time)
    | cons x mid =>
      obtain ⟨rfl, -⟩ := List.cons.inj hrest
      exact h before r reply time mid hmid

theorem Step.paired (h : Step gone t hs t') (ha : Accounts history t) (hp : Paired history) :
    Paired (history ++ hs) := by
  cases h with
  | receive hf hs hr =>
    intro before r reply time after he
    rcases List.eq_nil_or_concat after with rfl | ⟨front, last, rfl⟩
    · obtain ⟨rfl, hx⟩ := List.append_inj' he rfl
      cases List.singleton_inj.mp hx
      exact ha.replies _ _ (by rw [hr]; exact Multiset.mem_cons_self _ _)
    · rw [List.concat_eq_append, ← List.cons_append, ← List.append_assoc] at he
      exact hp before r reply time front (List.append_inj' he rfl).1
  | _ => exact hp.append (by simp)

theorem Steps.paired (h : Steps gone t hs t') (ht : t.Sound) (ha : Accounts history t)
    (hp : Paired history) : Paired (history ++ hs) := by
  induction h with
  | refl => simpa using hp
  | tail hsteps hstep ih =>
    have hall := hstep.paired (hsteps.accounts ht ha) ih
    rwa [List.append_assoc] at hall

def madeIn (history : List (Happening κ)) : List Reference := history.filterMap Happening.made?

def begunIn (history : List (Happening κ)) : List (Reference × ℚ) :=
  history.filterMap Happening.begun?

/-- Those that are ahead of their request get there in the order in which they were made. -/
theorem Step.order (h : Step gone t hs t') (ht : t.Sound) :
    refsAt Stage.isAhead t.fetches ++ madeIn hs =
      (begunIn hs).map (·.1) ++ refsAt Stage.isAhead t'.fetches := by
  cases h with
  | leave stays h => simp [madeIn, begunIn, refsAt, List.filter_map, Function.comp_def]
  | join hf ho hc =>
    simp [madeIn, begunIn, List.filterMap_cons, Happening.made?, Happening.begun?, hf]
  | make hv hr hc =>
    simp [madeIn, begunIn, List.filterMap_cons, Happening.made?, Happening.begun?, Stage.isAhead]
  | enter hf hs htn => simp [madeIn, begunIn, hf, hs, Stage.isAhead]
  | begin hf hs hc hl =>
    obtain ⟨ho, hw⟩ := ht.first hf (by rw [hs]; rfl) (by rw [hc]; rfl)
    simp [madeIn, begunIn, List.filterMap_cons, Happening.made?, Happening.begun?, hf, hs,
      Stage.isAhead, ho, hw]
  | receive hf hs hr =>
    simp [madeIn, begunIn, List.filterMap_cons, Happening.made?, Happening.begun?, hf, hs,
      Stage.isAhead, Fetch.finished]
  | forget hf ho hg =>
    obtain ⟨outcome, ho⟩ := ho
    simp [madeIn, begunIn, hf, ho, Stage.isAhead]
  | _ => simp [madeIn, begunIn, List.filterMap_cons, Happening.made?, Happening.begun?]

theorem Steps.order (h : Steps gone t hs t') (ht : t.Sound) :
    refsAt Stage.isAhead t.fetches ++ madeIn hs =
      (begunIn hs).map (·.1) ++ refsAt Stage.isAhead t'.fetches := by
  induction h with
  | refl => simp [madeIn, begunIn]
  | tail hsteps hstep ih =>
    have ho := hstep.order (hsteps.sound ht)
    simp only [madeIn, begunIn, List.filterMap_append, List.map_append] at ih ho ⊢
    rw [← List.append_assoc, ih, List.append_assoc, ho, List.append_assoc]

theorem Step.requests (h : Step gone t hs t') : t'.hosts = t.hosts ∧
    t'.interval = t.interval ∧
    t'.requests = t.requests ++ (begunIn hs).map fun e => (e.1.url t.hosts, e.2) := by
  cases h <;> simp [begunIn, Happening.begun?]

theorem Steps.requests (h : Steps gone t hs t') : t'.hosts = t.hosts ∧
    t'.interval = t.interval ∧
    t'.requests = t.requests ++ (begunIn hs).map fun e => (e.1.url t.hosts, e.2) := by
  induction h with
  | refl => simp [begunIn]
  | tail _ hstep ih =>
    obtain ⟨hh, hi, hr⟩ := ih
    obtain ⟨hh', hi', hr'⟩ := hstep.requests
    refine ⟨hh'.trans hh, hi'.trans hi, ?_⟩
    simp only [begunIn, List.filterMap_append, List.map_append] at hr hr' ⊢
    rw [hr', hr, hh, List.append_assoc]

theorem Step.lifetime (h : Step gone t hs t') : t'.cache.lifetime = t.cache.lifetime := by
  cases h with
  | receive hf hs hr => exact Cache.lifetime_learn _ _ _ _
  | _ => rfl

theorem Steps.lifetime (h : Steps gone t hs t') : t'.cache.lifetime = t.cache.lifetime := by
  induction h with
  | refl => rfl
  | tail _ hstep ih => exact hstep.lifetime.trans ih

/-- Requests are as far apart as they have to be, and the limiter knows the last one. -/
structure Spaced (t : Traffic κ) : Prop where
  apart : (t.requests.map (·.2)).IsChain fun a b => a + t.interval ≤ b
  last : (t.requests.map (·.2)).getLast? = t.lastGrant
  past : ∀ last, t.lastGrant = some last → last ≤ t.now

theorem Step.spaced (h : Step gone t hs t') (ht : t.Spaced) : t'.Spaced := by
  cases h with
  | pass h => exact ⟨ht.apart, ht.last, fun last hl => (ht.past last hl).trans h⟩
  | begin hf hs hc hl =>
    refine ⟨?_, by simp, fun last he => (Option.some.inj he).ge⟩
    dsimp only
    rw [List.map_append, List.isChain_append]
    refine ⟨ht.apart, List.isChain_singleton _, fun a ha b hb => ?_⟩
    rw [ht.last] at ha
    obtain rfl : t.now = b := by simpa using hb
    exact hl a ha
  | _ => exact ⟨ht.apart, ht.last, ht.past⟩

theorem Steps.spaced (h : Steps gone t hs t') (ht : t.Spaced) : t'.Spaced := by
  induction h with
  | refl => exact ht
  | tail _ hstep ih => exact hstep.spaced ih

/-! Those who wait -/

theorem Step.answers (h : Step gone t hs t') {c : κ} {outcome : Outcome}
    (hm : (c, outcome) ∈ t.answers) :
    (c, outcome) ∈ t'.answers ∨ .told c outcome ∈ hs := by
  cases h with
  | receive hf hs hr => exact .inl (List.mem_append_left _ hm)
  | tell ha =>
    rw [ha] at hm
    rcases List.mem_cons.mp hm with he | hm
    · cases he
      exact .inr List.mem_cons_self
    · exact .inl hm
  | _ => exact .inl hm

/-- One who waits still waits, or gets the outcome of the first reply; unless it is gone. -/
def Follows (gone : κ → Prop) (r : Reference) (c : κ) (hs : List (Happening κ)) (t : Traffic κ) :
    Prop :=
  gone c ∨
  ((∀ x ∈ hs, ¬ x.Ends r) ∧ ∃ f ∈ t.fetches, f.reference = r ∧ ¬ f.IsOver ∧ c ∈ f.callers) ∨
  ∃ before reply time after, hs = before ++ .received r reply time :: after ∧
    (∀ x ∈ before, ¬ x.Ends r) ∧
    ((c, reply.outcome r) ∈ t.answers ∨ .told c (reply.outcome r) ∈ after)

theorem Step.follows (h : Step gone t hs t') (ht : t.Sound) {f : Fetch κ} {c : κ}
    (hf : f ∈ t.fetches) (ho : ¬ f.IsOver) (hc : c ∈ f.callers) :
    Follows gone f.reference c hs t' := by
  have hkeep {older newer : List (Fetch κ)} {g g' : Fetch κ}
      (hg : t.fetches = older ++ g :: newer) (hr : g'.reference = g.reference)
      (ho' : ¬ g.IsOver → ¬ g'.IsOver) (hcs : ∀ c ∈ g.callers, c ∈ g'.callers) :
      ∃ f' ∈ older ++ g' :: newer, f'.reference = f.reference ∧ ¬ f'.IsOver ∧ c ∈ f'.callers := by
    rw [hg] at hf
    rcases List.mem_append.mp hf with hf | hf
    · exact ⟨f, List.mem_append_left _ hf, rfl, ho, hc⟩
    · rcases List.mem_cons.mp hf with rfl | hf
      · exact ⟨g', by simp, hr, ho' ho, hcs c hc⟩
      · exact ⟨f, by simp [hf], rfl, ho, hc⟩
  cases h with
  | leave stays hgone =>
    cases hs : stays c with
    | false => exact .inl (hgone c hs)
    | true =>
      exact .inr (.inl ⟨List.forall_mem_nil _, _, List.mem_map_of_mem hf, rfl, ho,
        List.mem_filter.mpr ⟨hc, hs⟩⟩)
  | join hg hno hn =>
    exact .inr (.inl ⟨by simp [Happening.Ends], hkeep hg rfl (fun h => h) fun c hc =>
      List.mem_append_left _ hc⟩)
  | make hv hr hn =>
    exact .inr (.inl ⟨by simp [Happening.Ends], f, List.mem_append_left _ hf, rfl, ho, hc⟩)
  | enter hg hs htn =>
    exact .inr (.inl ⟨List.forall_mem_nil _, hkeep hg rfl (fun _ => nofun) fun _ => id⟩)
  | begin hg hs hcl hl =>
    exact .inr (.inl ⟨by simp [Happening.Ends], hkeep hg rfl (fun _ => nofun) fun _ => id⟩)
  | receive hg hs hr =>
    rename_i older newer g reply replies
    by_cases he : f.reference = g.reference
    · have hfg : f = g := List.inj_on_of_nodup_map ht.nodup hf (mem_of_split hg) he
      subst hfg
      refine .inr (.inr ⟨[], reply, t.now, [], rfl, List.forall_mem_nil _, .inl ?_⟩)
      exact List.mem_append_right _ (List.mem_map_of_mem hc)
    · refine .inr (.inl ⟨?_, f, ?_, rfl, ho, hc⟩)
      · simpa [Happening.Ends] using Ne.symm he
      · rw [hg] at hf
        rcases List.mem_append.mp hf with hf | hf
        · exact List.mem_append_left _ hf
        · rcases List.mem_cons.mp hf with rfl | hf
          · exact absurd rfl he
          · exact List.mem_append_right _ (List.mem_cons_of_mem _ hf)
  | forget hg hover hgs =>
    refine .inr (.inl ⟨List.forall_mem_nil _, f, ?_, rfl, ho, hc⟩)
    rw [hg] at hf
    rcases List.mem_append.mp hf with hf | hf
    · exact List.mem_append_left _ hf
    · rcases List.mem_cons.mp hf with rfl | hf
      · exact absurd hover ho
      · exact List.mem_append_right _ hf
  | _ => exact .inr (.inl ⟨by simp [Happening.Ends], f, hf, rfl, ho, hc⟩)

theorem Steps.follows (h : Steps gone t hs t') (ht : t.Sound) {f : Fetch κ} {c : κ}
    (hf : f ∈ t.fetches) (ho : ¬ f.IsOver) (hc : c ∈ f.callers) :
    Follows gone f.reference c hs t' := by
  induction h with
  | refl => exact .inr (.inl ⟨List.forall_mem_nil _, f, hf, rfl, ho, hc⟩)
  | tail hsteps hstep ih =>
    -- until the first reply the last step decides; after it the outcome can only be handed over
    rcases ih with hgone | ⟨hn, f', hf', hr, ho', hc'⟩ | ⟨before, reply, time, after, rfl, hb, hm⟩
    · exact .inl hgone
    · have hlast := hstep.follows (hsteps.sound ht) hf' ho' hc'
      rw [hr] at hlast
      rcases hlast with hgone | ⟨hn', hw⟩ | ⟨before, reply, time, after, rfl, hb, hm⟩
      · exact .inl hgone
      · exact .inr (.inl ⟨fun x hx => (List.mem_append.mp hx).elim (hn x) (hn' x), hw⟩)
      · refine .inr (.inr ⟨_, reply, time, after, (List.append_assoc _ _ _).symm, fun x hx => ?_,
          hm⟩)
        exact (List.mem_append.mp hx).elim (hn x) (hb x)
    · refine .inr (.inr ⟨before, reply, time, _, List.append_assoc _ _ _, hb, ?_⟩)
      rcases hm with hm | hm
      · exact (hstep.answers hm).imp_right (List.mem_append_right _)
      · exact .inr (List.mem_append_left _ hm)

end Traffic

end Desk

end CommitMessage
