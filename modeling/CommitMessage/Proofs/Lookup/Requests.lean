import CommitMessage.Lookup.Address
import CommitMessage.Proofs.Text.Escapes
import CommitMessage.Proofs.Lookup.Tending

/-! Where a desk asks. Under the same base addresses no two references are looked up at one address,
and every request of a desk goes to the address of its reference. -/

namespace CommitMessage.Reference

/-! Addresses: the last character tells the kind, and the kind tells where the identifier stands. -/

variable {hosts : Hosts} {r s : Reference} {t t' : Text}

/-- The kind whose addresses end in the character. -/
def Kind.ofEnd (c : Char) : Kind :=
  if c = 'v' then ticket else if c = '/' then profile else changeset

theorem Kind.ofEnd_digit {c : Char} (hc : isAsciiDigit c = true) : ofEnd c = changeset := by
  have hv : c ≠ 'v' := by
    rintro rfl
    cases hc
  have hs : c ≠ '/' := by
    rintro rfl
    cases hc
  rw [ofEnd, if_neg hv, if_neg hs]

theorem url_end (hosts : Hosts) (hr : r.isValid = true) :
    ∃ front c, r.url hosts = front ++ [c] ∧ Kind.ofEnd c = r.kind := by
  obtain ⟨kind, identifier⟩ := r
  cases kind with
  | ticket =>
    refine ⟨trimSlashes hosts.trac ++ "/ticket/".toList ++ identifier ++ "?format=cs".toList, 'v',
      ?_, rfl⟩
    rw [List.append_assoc _ "?format=cs".toList]
    rfl
  | profile => exact ⟨_, '/', rfl, rfl⟩
  | changeset =>
    obtain ⟨hne, hall⟩ : identifier ≠ [] ∧ ∀ c ∈ identifier, isAsciiDigit c = true := by
      simpa [isValid] using hr
    refine ⟨trimSlashes hosts.trac ++ "/changeset/".toList ++ identifier.dropLast,
      identifier.getLast hne, ?_, Kind.ofEnd_digit (hall _ (List.getLast_mem hne))⟩
    rw [List.append_assoc _ identifier.dropLast, List.dropLast_append_getLast hne]
    rfl

theorem kind_eq_of_url_eq (hr : r.isValid = true) (hs : s.isValid = true)
    (h : r.url hosts = s.url hosts) : r.kind = s.kind := by
  obtain ⟨front, c, hurl, hc⟩ := url_end hosts hr
  obtain ⟨front', c', hurl', hc'⟩ := url_end hosts hs
  rw [hurl, hurl'] at h
  obtain rfl : c = c' := List.singleton_inj.mp (List.append_inj' h rfl).2
  exact hc.symm.trans hc'

theorem identifier_eq_of_url_eq {kind : Kind}
    (h : (⟨kind, t⟩ : Reference).url hosts = (⟨kind, t'⟩ : Reference).url hosts) : t = t' := by
  cases kind with
  | ticket => exact List.append_cancel_left (List.append_cancel_right h)
  | changeset => exact List.append_cancel_left h
  | profile =>
    have hsegment := List.append_cancel_left (List.append_cancel_right h)
    exact Text.percentEncode_injective (List.cons.inj hsegment).2

theorem eq_of_url_eq (hr : r.isValid = true) (hs : s.isValid = true)
    (h : r.url hosts = s.url hosts) : r = s := by
  have hkind := kind_eq_of_url_eq hr hs h
  obtain ⟨kind, t⟩ := r
  obtain ⟨kind', t'⟩ := s
  obtain rfl : kind = kind' := hkind
  rw [identifier_eq_of_url_eq h]

/-- The address of a profile is its base and one segment, which reads as the name again. -/
theorem exists_segment (hosts : Hosts) (ht : t ≠ []) :
    ∃ segment, (⟨.profile, t⟩ : Reference).url hosts =
        trimSlashes hosts.profiles ++ '/' :: segment ++ ['/'] ∧
      segment ≠ [] ∧ (∀ c ∈ segment, Text.IsOfSegment c) ∧ Text.unescape segment = t :=
  ⟨percentEncode t, rfl, Text.percentEncode_ne_nil ht,
    fun _ => Text.isOfSegment_of_mem_percentEncode, Text.unescape_percentEncode t⟩

end CommitMessage.Reference

/-! Requests: every fetch is for a valid reference, and only a reply teaches the desk anything. None
of this depends on fetches being called off or not. -/

namespace CommitMessage.Desk

variable {κ : Type} {d : Desk ℚ κ} {f : Fetch κ} {r : Reference}
  {change change' : Desk ℚ κ × List (Signal ℚ κ)}

def IsProper (d : Desk ℚ κ) : Prop := ∀ f ∈ d.fetches, f.reference.isValid = true

/-- The desk asks at the right places, and learns nothing. -/
structure Seeks (d : Desk ℚ κ) (change : Desk ℚ κ × List (Signal ℚ κ)) : Prop where
  hosts : change.1.hosts = d.hosts
  cache : change.1.cache = d.cache
  proper : d.IsProper → change.1.IsProper
  requests : ∀ r url, .request r url ∈ change.2 → url = r.url d.hosts

theorem Seeks.trans (h : d.Seeks change) (h' : change.1.Seeks change') :
    d.Seeks (change'.1, change.2 ++ change'.2) := by
  refine ⟨h'.hosts.trans h.hosts, h'.cache.trans h.cache, fun hd => h'.proper (h.proper hd),
    fun r url hm => ?_⟩
  rcases List.mem_append.mp hm with hm | hm
  · exact h.requests r url hm
  · rw [h'.requests r url hm, h.hosts]

theorem seeks_nil (d : Desk ℚ κ) : d.Seeks (d, []) := ⟨rfl, rfl, id, nofun⟩

theorem isProper_setFetch (hd : d.IsProper) (f : Fetch κ) : (d.setFetch f).IsProper := by
  intro g hg
  rcases mem_setFetch.mp hg with ⟨hg, -⟩ | ⟨rfl, h, hh, he⟩
  · exact hd g hg
  · exact he ▸ hd h hh

theorem isProper_leave (hd : d.IsProper) [DecidableEq κ] (c : κ) : (d.leave c).IsProper := by
  intro g hg
  obtain ⟨h, hh, rfl⟩ := List.mem_map.mp hg
  exact hd h hh

theorem seeks_setFetch (d : Desk ℚ κ) (f : Fetch κ) {signals : List (Signal ℚ κ)}
    (hs : ∀ r url, .request r url ∈ signals → url = r.url d.hosts) :
    d.Seeks (d.setFetch f, signals) :=
  ⟨rfl, rfl, fun hd => isProper_setFetch hd f, hs⟩

theorem seeks_finish (d : Desk ℚ κ) (f : Fetch κ) (outcome : Outcome) :
    d.Seeks (d.finish f outcome) :=
  seeks_setFetch d _ (by simp)

/-! Turns -/

theorem seeks_limiterSignal (d : Desk ℚ κ) (s : Limiter.Signal ℚ Reference) :
    d.Seeks (limiterSignal (d, []) s) := by
  cases s with
  | turn r => exact ⟨rfl, rfl, id, by simp [limiterSignal]⟩
  | sleep r delay => exact ⟨rfl, rfl, id, by simp [limiterSignal]⟩
  | granted r =>
    simp only [limiterSignal]
    split
    · next f hf =>
      refine seeks_setFetch d _ fun r' url hm => ?_
      cases List.mem_singleton.mp hm
      rfl
    · exact seeks_nil d
  | left r =>
    simp only [limiterSignal]
    split
    · exact seeks_finish d _ .stopped
    · exact seeks_nil d

theorem seeks_withLimiter (d : Desk ℚ κ)
    (change : Limiter ℚ Reference × List (Limiter.Signal ℚ Reference)) :
    d.Seeks (d.withLimiter change) := by
  have hstart : d.Seeks ({ d with limiter := change.1 }, []) := ⟨rfl, rfl, id, nofun⟩
  refine List.foldlRecOn (motive := d.Seeks) change.2 limiterSignal hstart fun c h s _ => ?_
  obtain ⟨d', signals⟩ := c
  rw [limiterSignal_eq]
  exact h.trans (seeks_limiterSignal d' s)

theorem seeks_fetchTurn (d : Desk ℚ κ) (now : ℚ) (r : Reference) :
    d.Seeks (d.fetchTurn now r) := by
  unfold fetchTurn
  split
  · exact seeks_nil d
  · next f _ =>
    split
    · split
      · exact seeks_finish d _ .stopped
      · have hset : d.Seeks (d.setFetch { f with stage := .inLine }, []) := seeks_setFetch d _ nofun
        exact hset.trans (seeks_withLimiter _ _)
    · split
      · exact seeks_finish d _ .stopped
      · exact seeks_nil d
    · exact seeks_nil d

theorem seeks_limiterTurn (d : Desk ℚ κ) (now : ℚ) (r : Reference) :
    d.Seeks (d.limiterTurn now r) := seeks_withLimiter d _

theorem seeks_limiterWake (d : Desk ℚ κ) (r : Reference) : d.Seeks (d.limiterWake r) :=
  seeks_withLimiter d _

theorem seeks_forget (d : Desk ℚ κ) (r : Reference) : d.Seeks (d.forget r) := by
  obtain ⟨he, hn⟩ := forget_cases d r
  refine ⟨by rw [he], by rw [he], fun hd f hf => ?_, fun r url hm => ?_⟩
  · rw [he] at hf
    exact hd f (List.mem_of_mem_filter hf)
  · obtain ⟨e, he⟩ := hn _ hm
    cases he

theorem seeks_callOff (d : Desk ℚ κ) (f : Fetch κ) : d.Seeks (d.callOff f) := by
  have hcalled : d.Seeks (d.setFetch { f with calledOff := true }, []) := seeks_setFetch d _ nofun
  unfold callOff
  dsimp only
  split
  · exact seeks_nil d
  · split
    · exact hcalled
    · exact hcalled.trans (seeks_withLimiter _ _)
    · exact seeks_setFetch d _ (by simp)
    · exact seeks_nil d

theorem seeks_callOffKind (d : Desk ℚ κ) (kind : Reference.Kind) :
    d.Seeks (d.callOffKind kind) :=
  List.foldlRecOn (motive := d.Seeks) (d.fetchesOf kind) _ (seeks_nil d)
    fun change h f _ => h.trans (seeks_callOff change.1 f)

theorem seeks_ask (d : Desk ℚ κ) (now : ℚ) (caller : κ) (pass : Option Text) (r : Reference) :
    d.Seeks (d.ask now caller pass r).2 := by
  have hrequests : ∀ r' url, .request r' url ∈ (d.ask now caller pass r).2.2 →
      url = r'.url d.hosts := by
    intro r' url hm
    rcases ask_signals d now caller pass r _ hm with ⟨e, he⟩ | he <;> cases he
  rcases ask_eq d now caller pass r with ⟨outcome, notes, he, -, -⟩ |
    ⟨hv, -, ⟨f, -, -, he⟩ | ⟨-, he⟩⟩
  · rw [he] at hrequests ⊢
    exact ⟨rfl, rfl, id, hrequests⟩
  · rw [he]
    exact seeks_setFetch d _ nofun
  · rw [he] at hrequests ⊢
    refine ⟨rfl, rfl, fun hd f hf => ?_, hrequests⟩
    rcases List.mem_append.mp hf with hf | hf
    · exact hd f hf
    · rw [List.mem_singleton.mp hf]
      exact hv

/-! Replies -/

/-- Only a reply to a fetch that waits for it teaches the desk anything, and only about the
reference of that fetch. -/
theorem reply_learns (d : Desk ℚ κ) (now : ℚ) (r : Reference) (reply : Reply) :
    d.Seeks (d.reply now r reply) ∨ ∃ f ∈ d.fetches, f.reference = r ∧
      Seeks { d with cache := d.cache.learn now r (reply.verdict? r) } (d.reply now r reply) := by
  cases hget : d.fetch? r with
  | none =>
    simp only [Desk.reply, hget]
    exact .inl (seeks_nil d)
  | some f =>
    obtain ⟨hf, hr⟩ := mem_of_fetch? hget
    by_cases hs : f.stage = .fetching
    · cases hc : f.calledOff with
      | true =>
        simp only [Desk.reply, hget, hs, hc, ne_eq, not_true, if_false, if_true]
        exact .inl (seeks_finish d f .stopped)
      | false =>
        obtain ⟨notes, hn, he⟩ := reply_fetching hget hs hc now reply
        rw [he]
        refine .inr ⟨f, hf, hr, seeks_setFetch _ _ fun r' url hm => ?_⟩
        rcases List.mem_append.mp hm with hm | hm
        · obtain ⟨e, he⟩ := hn _ hm
          cases he
        · simp at hm
    · simp only [Desk.reply, hget, ne_eq, hs, not_false_eq_true, if_true]
      exact .inl (seeks_nil d)

end CommitMessage.Desk
