import CommitMessage.Proofs.Lookup.Line

/-! The line at a limiter whose clients may give up. Those who still contend for the slot stand in
their order, and only the first in the line can have been called. -/

namespace CommitMessage.Limiter

variable {ι : Type}

def Standing.contends : Standing → Bool
  | .waiting | .called => true
  | .leaving | .calledOff => false

/-- Not called, neither now nor before it gave up. -/
def Standing.Uncalled (s : Standing) : Prop := s = .waiting ∨ s = .leaving

def Holding.contends : Holding → Bool
  | .sleeping | .awake => true
  | .leaving => false

def holderContending (holder : Option (ι × Holding)) : List ι :=
  (holder.toList.filter (·.2.contends)).map (·.1)

def lineContending (line : List (ι × Standing)) : List ι :=
  (line.filter (·.2.contends)).map (·.1)

def contenders (l : Limiter ℚ ι) : List ι := holderContending l.holder ++ lineContending l.line

/-- Whether the client needs a turn, to take the slot or to leave. -/
def Stirs (l : Limiter ℚ ι) (c : ι) : Prop :=
  l.holder = some (c, .awake) ∨ l.holder = some (c, .leaving) ∨
    ∃ s, (c, s) ∈ l.line ∧ s ≠ .waiting

/-- While the slot is held nobody in the line is called, and else the first alone. -/
structure Orderly (l : Limiter ℚ ι) : Prop where
  nodup : l.clients.Nodup
  held : l.holder ≠ none → ∀ e ∈ l.line, e.2.Uncalled
  behind : ∀ e ∈ l.line.tail, e.2.Uncalled

/-- A free slot is not left to those who wait. -/
def Attended (l : Limiter ℚ ι) : Prop :=
  l.holder = none → ∀ e ∈ l.line.head?, e.2 ≠ .waiting

variable {l : Limiter ℚ ι} {line : List (ι × Standing)} {c : ι}

/-- Calls the first in the line to a slot that is free. -/
def callIfFree (l : Limiter ℚ ι) : Limiter ℚ ι × List (Signal ℚ ι) :=
  if l.holder.isNone then l.callNext else (l, [])

/-! Clients and contenders -/

theorem mem_clients : c ∈ l.clients ↔
    (∃ holding, l.holder = some (c, holding)) ∨ ∃ s, (c, s) ∈ l.line := by
  simp [clients]

theorem mem_contenders : c ∈ l.contenders ↔
    (∃ holding, l.holder = some (c, holding) ∧ holding.contends = true) ∨
      ∃ s, (c, s) ∈ l.line ∧ s.contends = true := by
  simp [contenders, holderContending, lineContending]

theorem contenders_sublist (l : Limiter ℚ ι) : l.contenders.Sublist l.clients := by
  refine List.Sublist.append ?_ (List.filter_sublist.map _)
  rw [Option.toList_map]
  exact List.filter_sublist.map _

theorem fst_ne_of_holder (hh : ∀ holding, l.holder ≠ some (c, holding)) {held : ι × Holding}
    (h : l.holder = some held) : held.1 ≠ c := fun he => hh held.2 (by rw [h, ← he])

theorem Orderly.not_mem_line_of_holder (h : l.Orderly) {holding : Holding}
    (hc : l.holder = some (c, holding)) : c ∉ l.line.map (·.1) := fun hm =>
  (List.nodup_append.mp h.nodup).2.2 c (by simp [hc]) c hm rfl

/-! Calling the first -/

theorem mem_callFirst {e : ι × Standing} (he : e ∈ callFirst line) :
    e ∈ line ∨ .turn e.1 ∈ callSignals line := by
  cases line with
  | nil => exact .inl he
  | cons first rest =>
    obtain ⟨b, standing⟩ := first
    cases standing with
    | waiting =>
      rcases List.mem_cons.mp he with rfl | he
      · exact .inr List.mem_cons_self
      · exact .inl (List.mem_cons_of_mem _ he)
    | called => exact .inl he
    | leaving => exact .inl he
    | calledOff => exact .inl he

theorem tail_callFirst (line : List (ι × Standing)) : (callFirst line).tail = line.tail := by
  unfold callFirst
  split <;> rfl

theorem head?_callFirst {e : ι × Standing} (he : e ∈ (callFirst line).head?) :
    e.2 ≠ .waiting := by
  unfold callFirst at he
  split at he
  · cases he
    exact Standing.noConfusion
  · next hno =>
    cases line with
    | nil => cases he
    | cons first rest =>
      cases he
      exact fun hw => hno e.1 rest (by rw [← hw])

@[simp] theorem lineContending_callFirst (line : List (ι × Standing)) :
    lineContending (callFirst line) = lineContending line := by
  unfold callFirst
  split
  · simp [lineContending, Standing.contends]
  · rfl

theorem callIfFree_frame (l : Limiter ℚ ι) :
    l.callIfFree.1.interval = l.interval ∧ l.callIfFree.1.lastGrant = l.lastGrant ∧
      l.callIfFree.1.holder = l.holder ∧ l.callIfFree.1.clients = l.clients ∧
      l.callIfFree.1.contenders = l.contenders := by
  unfold callIfFree
  split
  · simp [callNext_eq, clients, contenders]
  · simp

theorem Orderly.callIfFree (h : l.Orderly) :
    l.callIfFree.1.Orderly ∧ l.callIfFree.1.Attended := by
  unfold Limiter.callIfFree
  split
  · next hn =>
    have hh : l.holder = none := Option.isNone_iff_eq_none.mp hn
    rw [callNext_eq]
    refine ⟨⟨?_, fun hne => absurd hh hne, ?_⟩, fun _ e he => head?_callFirst he⟩
    · simpa [clients] using h.nodup
    · rw [tail_callFirst]
      exact h.behind
  · next hn => exact ⟨h, fun hh => absurd (Option.isNone_iff_eq_none.mpr hh) hn⟩

theorem stirs_callIfFree {b : ι} (h : l.callIfFree.1.Stirs b) :
    l.Stirs b ∨ .turn b ∈ l.callIfFree.2 := by
  unfold callIfFree at h ⊢
  split at h
  · next hn =>
    rw [callNext_eq] at h
    rw [if_pos hn, callNext_eq]
    rcases h with h | h | ⟨s, hs, hne⟩
    · exact .inl (.inl h)
    · exact .inl (.inr (.inl h))
    · rcases mem_callFirst hs with hs | hs
      · exact .inl (.inr (.inr ⟨s, hs, hne⟩))
      · exact .inr hs
  · exact .inl h

/-- A new client takes the slot if nobody holds it or will, and else stands in the line. -/
theorem request_attempts_or_waits (l : Limiter ℚ ι) (now : ℚ) (c : ι) :
    (l.holder = none ∧ (∀ e ∈ l.line, e.2 = .leaving) ∧ l.request now c = l.attempt now c) ∨
    l.clients ≠ [] ∧ l.request now c = ({ l with line := l.line ++ [(c, .waiting)] }, []) := by
  by_cases hf : (l.holder.isNone && l.line.all (·.2 == .leaving)) = true
  · obtain ⟨hh, hl⟩ := Bool.and_eq_true_iff.mp hf
    refine .inl ⟨Option.isNone_iff_eq_none.mp hh, ?_, by rw [request, if_pos hf]⟩
    simpa using hl
  · refine .inr ⟨fun hn => hf ?_, by rw [request, if_neg hf]⟩
    obtain ⟨hh, hl⟩ := List.append_eq_nil_iff.mp hn
    simp only [List.map_eq_nil_iff] at hl
    simp [hl, by simpa using hh]

/-- A try is refused and changes nothing, or it is granted as the interval is over. -/
theorem tryAcquire_cases (l : Limiter ℚ ι) (now : ℚ) :
    (0 < (l.tryAcquire now).1 ∧ (l.tryAcquire now).2 = l) ∨
    (l.tryAcquire now).1 = 0 ∧ (∀ last, l.lastGrant = some last → last + l.interval ≤ now) ∧
      (l.tryAcquire now).2 = { l with lastGrant := some now } := by
  rcases Option.eq_none_or_eq_some l.lastGrant with hl | ⟨last, hl⟩
  · exact .inr (by simp [tryAcquire, hl])
  · by_cases he : now - last < l.interval
    · exact .inl (by simp [tryAcquire, hl, he])
    · refine .inr ⟨by simp [tryAcquire, hl, he], fun last' hsome => ?_,
        by simp [tryAcquire, hl, he]⟩
      rw [hl] at hsome
      cases hsome
      linarith

/-! Taking a client out -/

theorem mem_tail_filter {p : ι × Standing → Bool} {e : ι × Standing}
    (he : e ∈ (line.filter p).tail) : e ∈ line.tail := by
  cases line with
  | nil => cases he
  | cons first rest =>
    by_cases hp : p first = true
    · rw [List.filter_cons_of_pos hp] at he
      exact (List.mem_filter.mp he).1
    · rw [List.filter_cons_of_neg hp] at he
      exact (List.mem_filter.mp (List.mem_of_mem_tail he)).1

section

variable [DecidableEq ι]

def without (l : Limiter ℚ ι) (c : ι) : Limiter ℚ ι :=
  { l with holder := l.holder.filter (·.1 ≠ c), line := l.line.filter (·.1 ≠ c) }

/-- A client goes without having been granted. -/
def leave (l : Limiter ℚ ι) (c : ι) : Limiter ℚ ι × List (Signal ℚ ι) :=
  let (l, signals) := (l.without c).callIfFree
  (l, signals ++ [.left c])

@[simp] theorem clients_without (l : Limiter ℚ ι) (c : ι) :
    (l.without c).clients = l.clients.filter (· ≠ c) := by
  simp only [clients, without, Option.toList_map, Option.toList_filter, List.filter_append,
    List.filter_map]
  rfl

@[simp] theorem contenders_without (l : Limiter ℚ ι) (c : ι) :
    (l.without c).contenders = l.contenders.filter (· ≠ c) := by
  simp only [contenders, holderContending, lineContending, without, Option.toList_filter,
    List.filter_append, List.filter_map, List.filter_filter, Function.comp_def, Bool.and_comm]

theorem Orderly.without (h : l.Orderly) (c : ι) : (l.without c).Orderly := by
  refine ⟨?_, fun hne e he => ?_, fun e he => h.behind e (mem_tail_filter he)⟩
  · rw [clients_without]
    exact h.nodup.filter _
  · refine h.held (fun hn => hne ?_) e (List.mem_filter.mp he).1
    simp only [Limiter.without, hn]
    rfl

theorem stirs_without {b : ι} (h : (l.without c).Stirs b) : l.Stirs b ∧ b ≠ c := by
  rcases h with h | h | ⟨s, hs, hne⟩
  · obtain ⟨hh, hb⟩ := Option.filter_eq_some_iff.mp h
    exact ⟨.inl hh, by simpa using hb⟩
  · obtain ⟨hh, hb⟩ := Option.filter_eq_some_iff.mp h
    exact ⟨.inr (.inl hh), by simpa using hb⟩
  · obtain ⟨hs, hb⟩ := List.mem_filter.mp hs
    exact ⟨.inr (.inr ⟨s, hs, hne⟩), by simpa using hb⟩

theorem filter_ne_eq_self (h : c ∉ line.map (·.1)) : line.filter (·.1 ≠ c) = line := by
  refine List.filter_eq_self.mpr fun e he => ?_
  simpa using fun hec : e.1 = c => h (List.mem_map.mpr ⟨e, he, hec⟩)

/-! Turns -/

/-- Whether the client is the one who may take the slot now. -/
structure Takes (l : Limiter ℚ ι) (c : ι) : Prop where
  awake : l.holder ≠ some (c, .sleeping)
  free : (l.without c).holder = none
  uncalled : ∀ e ∈ (l.without c).line, e.2.Uncalled
  first : l.contenders.head? = some c

theorem lookup_eq_some_iff (h : (line.map (·.1)).Nodup) {s : Standing} :
    line.lookup c = some s ↔ (c, s) ∈ line := by
  refine ⟨mem_of_lookup, fun hm => ?_⟩
  induction line with
  | nil => cases hm
  | cons first rest ih =>
    obtain ⟨hfirst, hrest⟩ := List.nodup_cons.mp h
    rcases List.mem_cons.mp hm with rfl | hm
    · exact List.lookup_cons_self
    · have hne : c ≠ first.1 := by
        rintro rfl
        exact hfirst (List.mem_map.mpr ⟨_, hm, rfl⟩)
      rw [List.lookup_cons, beq_false_of_ne hne]
      exact ih hrest hm

/-- Who held the slot makes no difference to an attempt. -/
theorem attempt_without {now : ℚ} (hline : c ∉ l.line.map (·.1)) :
    l.attempt now c = (l.without c).attempt now c := by
  obtain ⟨interval, lastGrant, holder, line⟩ := l
  simp only [without, filter_ne_eq_self hline]
  cases lastGrant with
  | none => simp [attempt, tryAcquire, release]
  | some last => by_cases he : now - last < interval <;> simp [attempt, tryAcquire, release, he]

theorem turn_of_lookup {now : ℚ} (hh : ∀ holding, l.holder ≠ some (c, holding)) {s : Standing}
    (hl : l.line.lookup c = some s) : l.turn now c = l.turnInLine now c s := by
  cases h : l.holder with
  | none => simp only [Limiter.turn, h, hl]
  | some held =>
    have hc := fst_ne_of_holder hh h
    simp only [Limiter.turn, h, if_neg hc, hl]

theorem turn_of_lookup_none {now : ℚ} (hh : ∀ holding, l.holder ≠ some (c, holding))
    (hl : l.line.lookup c = none) : l.turn now c = (l, []) := by
  cases h : l.holder with
  | none => simp only [Limiter.turn, h, hl]
  | some held =>
    have hc := fst_ne_of_holder hh h
    simp only [Limiter.turn, h, if_neg hc, hl]

theorem dropFromLine_eq (hh : ∀ holding, l.holder ≠ some (c, holding)) :
    l.dropFromLine c = l.without c := by
  have hkept : l.holder.filter (·.1 ≠ c) = l.holder := by
    cases h : l.holder with
    | none => rfl
    | some held =>
      have hc := fst_ne_of_holder hh h
      simp [hc]
  simp only [dropFromLine, without, hkept]

theorem Orderly.takes_of_called (h : l.Orderly) (hc : (c, .called) ∈ l.line) : l.Takes c := by
  have hcalled : ¬Standing.called.Uncalled := by
    rintro (he | he) <;> cases he
  have hfree : l.holder = none := by
    by_contra hne
    exact hcalled (h.held hne _ hc)
  obtain ⟨first, rest, hl⟩ := List.exists_cons_of_ne_nil (List.ne_nil_of_mem hc)
  have hbehind := h.behind
  rw [hl, List.tail_cons] at hbehind
  rw [hl] at hc
  obtain rfl : (c, .called) = first :=
    (List.mem_cons.mp hc).resolve_right fun hc => hcalled (hbehind _ hc)
  refine ⟨by simp [hfree], by simp [Limiter.without, hfree], fun e he => ?_, ?_⟩
  · obtain ⟨he, hne⟩ := List.mem_filter.mp he
    rw [hl] at he
    rcases List.mem_cons.mp he with rfl | he
    · simp at hne
    · exact hbehind e he
  · simp [contenders, holderContending, lineContending, hfree, hl, Standing.contends]

theorem Orderly.takes_of_awake (h : l.Orderly) (hc : l.holder = some (c, .awake)) :
    l.Takes c := by
  refine ⟨by simp [hc], by simp [Limiter.without, hc], fun e he => ?_, ?_⟩
  · exact h.held (by simp [hc]) e (List.mem_filter.mp he).1
  · simp [contenders, holderContending, hc, Holding.contends]

/-- What a turn can come to: the client takes the slot, or goes, or has no use for the turn. -/
inductive TurnsOut (l : Limiter ℚ ι) (now : ℚ) (c : ι) : Prop
  | takes (h : l.Takes c) (he : l.turn now c = (l.without c).attempt now c)
  | leaves (hc : c ∈ l.clients) (hcont : c ∉ l.contenders) (hawake : l.holder ≠ some (c, .sleeping))
      (he : l.turn now c = l.leave c)
  | passes (hcalm : ¬l.Stirs c) (he : l.turn now c = (l, []))

theorem Orderly.turn_of_holder (h : l.Orderly) (now : ℚ) {holding : Holding}
    (hh : l.holder = some (c, holding)) : l.TurnsOut now c := by
  have hline := h.not_mem_line_of_holder hh
  have hline' : ∀ s, (c, s) ∉ l.line := fun s hs => hline (List.mem_map.mpr ⟨_, hs, rfl⟩)
  cases holding with
  | sleeping =>
    refine .passes ?_ (by simp [Limiter.turn, hh])
    rintro (ha | ha | ⟨s, hs, -⟩)
    · simp [hh] at ha
    · simp [hh] at ha
    · exact hline' s hs
  | awake =>
    refine .takes (h.takes_of_awake hh) ?_
    rw [← attempt_without hline]
    simp [Limiter.turn, hh]
  | leaving =>
    have hout : l.without c = { l with holder := none } := by
      simp only [Limiter.without, hh, filter_ne_eq_self hline]
      simp
    refine .leaves (mem_clients.mpr (.inl ⟨_, hh⟩)) ?_ (by simp [hh]) ?_
    · rw [mem_contenders]
      rintro (⟨holding, ha, hcont⟩ | ⟨s, hs, -⟩)
      · rw [hh] at ha
        cases ha
        cases hcont
      · exact hline' s hs
    · simp [Limiter.turn, hh, leave, hout, release, Limiter.callIfFree]

theorem Orderly.turn_of_lookup (h : l.Orderly) (now : ℚ)
    (hh : ∀ holding, l.holder ≠ some (c, holding)) {s : Standing}
    (hl : l.line.lookup c = some s) : l.TurnsOut now c := by
  have hlookup {s' : Standing} := lookup_eq_some_iff (c := c) (List.nodup_append.mp h.nodup).2.1
    (s := s')
  have hin := hlookup.mp hl
  have hclient : c ∈ l.clients := mem_clients.mpr (.inr ⟨s, hin⟩)
  have hsame : ∀ s', (c, s') ∈ l.line → s' = s := fun s' hs' => by
    rw [hlookup.mpr hs'] at hl
    exact Option.some.inj hl
  have hcont (hs : s.contends = false) : c ∉ l.contenders := by
    rw [mem_contenders]
    rintro (⟨holding, ha, -⟩ | ⟨s', hs', hc'⟩)
    · exact hh _ ha
    · rw [hsame s' hs', hs] at hc'
      cases hc'
  have hturn : l.turn now c = l.turnInLine now c s := Limiter.turn_of_lookup hh hl
  have hdrop := dropFromLine_eq hh
  cases s with
  | waiting =>
    refine .passes ?_ hturn
    rintro (ha | ha | ⟨s', hs', hne⟩)
    · exact hh _ ha
    · exact hh _ ha
    · exact hne (hsame s' hs')
  | called => exact .takes (h.takes_of_called hin) (by rw [hturn, turnInLine, hdrop])
  | leaving =>
    exact .leaves hclient (hcont rfl) (hh _) (by rw [hturn, turnInLine, hdrop]; rfl)
  | calledOff =>
    exact .leaves hclient (hcont rfl) (hh _) (by rw [hturn, turnInLine, hdrop]; rfl)

theorem Orderly.turn (h : l.Orderly) (now : ℚ) (c : ι) : l.TurnsOut now c := by
  by_cases hholds : ∃ holding, l.holder = some (c, holding)
  · obtain ⟨holding, hh⟩ := hholds
    exact h.turn_of_holder now hh
  · have hh : ∀ holding, l.holder ≠ some (c, holding) := fun holding he => hholds ⟨holding, he⟩
    cases hl : l.line.lookup c with
    | none =>
      refine .passes ?_ (turn_of_lookup_none hh hl)
      rintro (ha | ha | ⟨s, hs, -⟩)
      · exact hh _ ha
      · exact hh _ ha
      · rw [(lookup_eq_some_iff (List.nodup_append.mp h.nodup).2.1).mpr hs] at hl
        cases hl
    | some s => exact h.turn_of_lookup now hh hl

/-! Giving up -/

def Standing.givenUp : Standing → Standing
  | .waiting | .leaving => .leaving
  | .called | .calledOff => .calledOff

/-- The limiter when a client has given up, wherever it stands. -/
def giveUp (l : Limiter ℚ ι) (c : ι) : Limiter ℚ ι :=
  { l with
    holder := l.holder.map fun held => if held.1 = c then (c, .leaving) else held
    line := l.line.map fun e => if e.1 = c then (c, e.2.givenUp) else e }

theorem fst_giveUp (e : ι × Standing) :
    (if e.1 = c then (c, e.2.givenUp) else e).1 = e.1 := by
  split
  · next he => exact he.symm
  · rfl

@[simp] theorem clients_giveUp (l : Limiter ℚ ι) (c : ι) : (l.giveUp c).clients = l.clients := by
  have hheld : ∀ held : ι × Holding,
      (if held.1 = c then (c, Holding.leaving) else held).1 = held.1 := by
    intro held
    split
    · next he => exact he.symm
    · rfl
  simp [clients, giveUp, Function.comp_def, hheld, fst_giveUp]

@[simp] theorem contenders_giveUp (l : Limiter ℚ ι) (c : ι) :
    (l.giveUp c).contenders = l.contenders.filter (· ≠ c) := by
  have hholder : holderContending (l.giveUp c).holder =
      (holderContending l.holder).filter (· ≠ c) := by
    cases hh : l.holder with
    | none => simp [giveUp, hh, holderContending]
    | some held =>
      obtain ⟨b, holding⟩ := held
      by_cases hc : b = c
      · cases holding <;> simp [giveUp, hh, holderContending, hc, Holding.contends]
      · cases holding <;> simp [giveUp, hh, holderContending, hc, Holding.contends]
  have hline : lineContending (l.giveUp c).line = (lineContending l.line).filter (· ≠ c) := by
    simp only [giveUp]
    induction l.line with
    | nil => rfl
    | cons e rest ih =>
      simp only [lineContending, List.map_cons] at ih ⊢
      by_cases hc : e.1 = c
      · have hgone : e.2.givenUp.contends = false := by cases e.2 <;> rfl
        by_cases hs : e.2.contends = true <;> simp [hc, hgone, hs, ih]
      · by_cases hs : e.2.contends = true <;> simp [hc, hs, ih]
  rw [contenders, hholder, hline, contenders, List.filter_append]

theorem uncalled_giveUp {e : ι × Standing} (h : e.2.Uncalled) :
    (if e.1 = c then (c, e.2.givenUp) else e).2.Uncalled := by
  split
  · rcases h with h | h <;> rw [h] <;> exact .inr rfl
  · exact h

theorem Orderly.giveUp (h : l.Orderly) (c : ι) : (l.giveUp c).Orderly := by
  refine ⟨by rw [clients_giveUp]; exact h.nodup, fun hne e he => ?_, fun e he => ?_⟩
  · obtain ⟨e', he', rfl⟩ := List.mem_map.mp he
    exact uncalled_giveUp (h.held (fun hn => hne (by simp [Limiter.giveUp, hn])) e' he')
  · simp only [Limiter.giveUp, ← List.map_tail] at he
    obtain ⟨e', he', rfl⟩ := List.mem_map.mp he
    exact uncalled_giveUp (h.behind e' he')

theorem Attended.giveUp (h : l.Attended) (c : ι) : (l.giveUp c).Attended := by
  intro hn e he
  simp only [Limiter.giveUp, List.head?_map, Option.mem_def, Option.map_eq_some_iff] at he
  obtain ⟨e, he, rfl⟩ := he
  split
  · cases e.2 <;> exact Standing.noConfusion
  · exact h (by simpa [Limiter.giveUp] using hn) e he

theorem stirs_giveUp {b : ι} (h : (l.giveUp c).Stirs b) (hb : b ≠ c) : l.Stirs b := by
  have hholder {holding : Holding} (hh : (l.giveUp c).holder = some (b, holding)) :
      l.holder = some (b, holding) := by
    obtain ⟨held, hl, he⟩ := Option.map_eq_some_iff.mp hh
    split at he
    · cases he
      exact absurd rfl hb
    · rw [hl, he]
  rcases h with h | h | ⟨s, hs, hne⟩
  · exact .inl (hholder h)
  · exact .inr (.inl (hholder h))
  · obtain ⟨e, he, hes⟩ := List.mem_map.mp hs
    split at hes
    · cases hes
      exact absurd rfl hb
    · exact .inr (.inr ⟨s, hes ▸ he, hne⟩)

theorem giveUp_of_lookup (hh : ∀ holding, l.holder ≠ some (c, holding))
    (hnodup : (l.line.map (·.1)).Nodup) {s : Standing} (hs : l.line.lookup c = some s) :
    l.giveUp c = l.setStanding c s.givenUp := by
  have hholder : l.holder.map (fun held => if held.1 = c then (c, Holding.leaving) else held) =
      l.holder := by
    cases h : l.holder with
    | none => rfl
    | some held =>
      have hc := fst_ne_of_holder hh h
      simp [hc]
  have hline : l.line.map (fun e => if e.1 = c then (c, e.2.givenUp) else e) =
      l.line.map fun e => if e.1 = c then (c, s.givenUp) else e := by
    refine List.map_congr_left fun e hm => ?_
    by_cases hc : e.1 = c
    · have hin : (c, e.2) ∈ l.line := hc ▸ hm
      rw [(lookup_eq_some_iff hnodup).mpr hin] at hs
      cases hs
      rfl
    · rw [if_neg hc, if_neg hc]
  simp only [giveUp, setStanding, hholder, hline]

theorem setStanding_eq_self (hnodup : (l.line.map (·.1)).Nodup) {s : Standing}
    (hs : l.line.lookup c = some s) : l.setStanding c s = l := by
  have hline : l.line.map (fun e => if e.1 = c then (c, s) else e) = l.line := by
    refine (List.map_congr_left fun e hm => ?_).trans (List.map_id _)
    by_cases hc : e.1 = c
    · have hin : (c, e.2) ∈ l.line := hc ▸ hm
      rw [(lookup_eq_some_iff hnodup).mpr hin] at hs
      cases hs
      rw [if_pos hc, ← hc]
      rfl
    · rw [if_neg hc]
      rfl
  simp only [setStanding, hline]

theorem map_givenUp_eq_self (h : c ∉ line.map (·.1)) :
    line.map (fun e => if e.1 = c then (c, e.2.givenUp) else e) = line := by
  refine (List.map_congr_left fun e he => ?_).trans (List.map_id _)
  exact if_neg fun hc => h (List.mem_map.mpr ⟨e, he, hc⟩)

theorem giveUp_eq_self (h : c ∉ l.clients) : l.giveUp c = l := by
  obtain ⟨interval, lastGrant, holder, line⟩ := l
  simp only [clients, List.mem_append, not_or] at h
  have hholder : holder.map (fun held => if held.1 = c then (c, Holding.leaving) else held) =
      holder := by
    cases holder with
    | none => rfl
    | some held =>
      have hne : held.1 ≠ c := fun he => h.1 (by simp [he])
      simp [hne]
  simp only [giveUp, hholder, map_givenUp_eq_self h.2]

theorem Orderly.cancelInLine (h : l.Orderly) (hh : ∀ holding, l.holder ≠ some (c, holding)) :
    ∃ called : List ι, l.cancelInLine c = (l.giveUp c, called.map .turn) ∧
      ((l.giveUp c).Stirs c → l.Stirs c ∨ c ∈ called) := by
  have hnodup := (List.nodup_append.mp h.nodup).2.1
  rw [Limiter.cancelInLine]
  cases hl : l.line.lookup c with
  | none =>
    have hout : c ∉ l.clients := by
      rw [mem_clients]
      rintro (⟨holding, ha⟩ | ⟨s, hs⟩)
      · exact hh holding ha
      · rw [(lookup_eq_some_iff hnodup).mpr hs] at hl
        cases hl
    rw [giveUp_eq_self hout]
    exact ⟨[], rfl, .inl⟩
  | some s =>
    have hin := (lookup_eq_some_iff hnodup).mp hl
    have hgive := giveUp_of_lookup hh hnodup hl
    have hstirs (hs : s ≠ .waiting) : l.Stirs c := .inr (.inr ⟨s, hin, hs⟩)
    cases s with
    | waiting => exact ⟨[c], by rw [hgive]; rfl, fun _ => .inr (List.mem_singleton.mpr rfl)⟩
    | called => exact ⟨[], by rw [hgive]; rfl, fun _ => .inl (hstirs Standing.noConfusion)⟩
    | leaving =>
      rw [Standing.givenUp, setStanding_eq_self hnodup hl] at hgive
      exact ⟨[], by rw [hgive]; rfl, fun _ => .inl (hstirs Standing.noConfusion)⟩
    | calledOff =>
      rw [Standing.givenUp, setStanding_eq_self hnodup hl] at hgive
      exact ⟨[], by rw [hgive]; rfl, fun _ => .inl (hstirs Standing.noConfusion)⟩

/-- A client that gives up and has no turn coming gets one, to leave. -/
theorem Orderly.cancel (h : l.Orderly) (c : ι) : ∃ called : List ι,
    l.cancel c = (l.giveUp c, called.map .turn) ∧
      ((l.giveUp c).Stirs c → l.Stirs c ∨ c ∈ called) := by
  by_cases hholds : ∃ holding, l.holder = some (c, holding)
  · obtain ⟨holding, hh⟩ := hholds
    have hgive : l.giveUp c = { l with holder := some (c, .leaving) } := by
      simp [Limiter.giveUp, hh, map_givenUp_eq_self (h.not_mem_line_of_holder hh)]
    cases holding with
    | sleeping =>
      exact ⟨[c], by simp [Limiter.cancel, hh, hgive], fun _ => .inr (List.mem_singleton.mpr rfl)⟩
    | awake => exact ⟨[], by simp [Limiter.cancel, hh, hgive], fun _ => .inl (.inl hh)⟩
    | leaving => exact ⟨[], by simp [Limiter.cancel, hh, hgive], fun _ => .inl (.inr (.inl hh))⟩
  · have hh : ∀ holding, l.holder ≠ some (c, holding) := fun holding he => hholds ⟨holding, he⟩
    have hcancel : l.cancel c = l.cancelInLine c := by
      cases h : l.holder with
      | none => simp only [Limiter.cancel, h]
      | some held =>
        have hc := fst_ne_of_holder hh h
        simp only [Limiter.cancel, h, if_neg hc]
    rw [hcancel]
    exact h.cancelInLine hh

end

end CommitMessage.Limiter
