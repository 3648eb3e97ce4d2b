import CommitMessage.Proofs.ExactTime
import Mathlib

/-! What happens at a limiter, as a history. In a history that is on schedule each grant goes to the
one who has waited longest, as soon as it has come and the interval after the grant before is over.
All else about order and spacing follows from that. -/

namespace CommitMessage.Limiter

inductive Happening (ι : Type) where
  | came (client : ι) (time : ℚ)
  | gaveUp (client : ι)
  | granted (client : ι) (time : ℚ)
  /-- The slot went to a try that would not wait. -/
  | taken (time : ℚ)
  deriving DecidableEq

namespace Happening

variable {ι : Type}

@[simp] def comer? : Happening ι → Option ι
  | .came c _ => some c
  | _ => none

@[simp] def quitter? : Happening ι → Option ι
  | .gaveUp c => some c
  | _ => none

@[simp] def served? : Happening ι → Option ι
  | .granted c _ => some c
  | _ => none

@[simp] def grantTime? : Happening ι → Option ℚ
  | .granted _ time | .taken time => some time
  | _ => none

end Happening

section

variable {ι : Type}

def comers (h : List (Happening ι)) : List ι := h.filterMap Happening.comer?

def quitters (h : List (Happening ι)) : List ι := h.filterMap Happening.quitter?

/-- Those whom the slot was granted, in the order of the grants. -/
def served (h : List (Happening ι)) : List ι := h.filterMap Happening.served?

def grantTimes (h : List (Happening ι)) : List ℚ := h.filterMap Happening.grantTime?

def lastTime? (h : List (Happening ι)) : Option ℚ := (grantTimes h).getLast?

/-- When a client can be granted that came at the given time. -/
def slot (d : ℚ) (h : List (Happening ι)) (came : ℚ) : ℚ :=
  match lastTime? h with
  | none => came
  | some last => max came (last + d)

variable [DecidableEq ι]

@[simp] def waitingAfter (w : List ι) : Happening ι → List ι
  | .came c _ => w ++ [c]
  | .gaveUp c | .granted c _ => w.erase c
  | .taken _ => w

/-- Those who came and neither gave up nor were granted, in the order in which they came. -/
def waiting (h : List (Happening ι)) : List ι := h.foldl waitingAfter []

/-- What can happen next. -/
def Due (d : ℚ) (h : List (Happening ι)) : Happening ι → Prop
  | .came c _ => c ∉ comers h
  | .gaveUp c => c ∈ comers h ∧ c ∉ served h
  | .granted c time => (waiting h).head? = some c ∧ ∃ a, .came c a ∈ h ∧ time = slot d h a
  | .taken time => ∀ last, lastTime? h = some last → last + d ≤ time

inductive Scheduled (d : ℚ) : List (Happening ι) → Prop
  | nil : Scheduled d []
  | snoc {h : List (Happening ι)} {x : Happening ι} (hs : Scheduled d h) (hx : Due d h x) :
      Scheduled d (h ++ [x])

end

variable {ι : Type} {d : ℚ} {h g : List (Happening ι)} {c : ι}

section

theorem comers_append (h g : List (Happening ι)) : comers (h ++ g) = comers h ++ comers g :=
  List.filterMap_append

theorem quitters_append (h g : List (Happening ι)) :
    quitters (h ++ g) = quitters h ++ quitters g := List.filterMap_append

@[simp] theorem comers_snoc (h : List (Happening ι)) (x : Happening ι) :
    comers (h ++ [x]) = comers h ++ x.comer?.toList := by
  cases x <;> simp [comers]

@[simp] theorem quitters_snoc (h : List (Happening ι)) (x : Happening ι) :
    quitters (h ++ [x]) = quitters h ++ x.quitter?.toList := by
  cases x <;> simp [quitters]

@[simp] theorem served_snoc (h : List (Happening ι)) (x : Happening ι) :
    served (h ++ [x]) = served h ++ x.served?.toList := by
  cases x <;> simp [served]

@[simp] theorem grantTimes_snoc (h : List (Happening ι)) (x : Happening ι) :
    grantTimes (h ++ [x]) = grantTimes h ++ x.grantTime?.toList := by
  cases x <;> simp [grantTimes]

@[simp] theorem lastTime?_snoc (h : List (Happening ι)) (x : Happening ι) :
    lastTime? (h ++ [x]) = x.grantTime?.or (lastTime? h) := by
  cases x <;> simp [lastTime?]

theorem mem_comers : c ∈ comers h ↔ ∃ a, .came c a ∈ h := by
  simp only [comers, List.mem_filterMap]
  constructor
  · rintro ⟨x, hx, hc⟩
    cases x with
    | came c' a =>
      cases hc
      exact ⟨a, hx⟩
    | gaveUp _ => cases hc
    | granted _ _ => cases hc
    | taken _ => cases hc
  · rintro ⟨a, ha⟩
    exact ⟨_, ha, rfl⟩

theorem mem_quitters : c ∈ quitters h ↔ .gaveUp c ∈ h := by
  simp only [quitters, List.mem_filterMap]
  constructor
  · rintro ⟨x, hx, hc⟩
    cases x with
    | gaveUp b =>
      cases hc
      exact hx
    | came _ _ => cases hc
    | granted _ _ => cases hc
    | taken _ => cases hc
  · exact fun hm => ⟨_, hm, rfl⟩

end

variable [DecidableEq ι]

@[simp] theorem waiting_snoc (h : List (Happening ι)) (x : Happening ι) :
    waiting (h ++ [x]) = waitingAfter (waiting h) x := by
  simp [waiting]

/-- Whoever came has given up, or is granted, or waits. -/
theorem comer_cases (hc : c ∈ comers h) : c ∈ quitters h ∨ c ∈ served h ∨ c ∈ waiting h := by
  induction h using List.reverseRecOn with
  | nil => cases hc
  | append_singleton h x ih =>
    cases x with
    | came b a =>
      rcases List.mem_append.mp (comers_snoc h _ ▸ hc) with hc | hc
      · simpa [or_assoc] using (ih hc).imp_right (Or.imp_right (Or.inl (b := c = b)))
      · simp [List.mem_singleton.mp hc]
    | gaveUp b =>
      by_cases hb : c = b
      · simp [hb]
      · simpa [List.mem_erase_of_ne hb, hb] using ih (by simpa using hc)
    | granted b t =>
      by_cases hb : c = b
      · simp [hb]
      · simpa [List.mem_erase_of_ne hb, hb] using ih (by simpa using hc)
    | taken t => simpa using ih (by simpa using hc)

/-! Histories on schedule -/

namespace Scheduled

theorem of_snoc {x : Happening ι} (hs : Scheduled d (h ++ [x])) : Scheduled d h ∧ Due d h x := by
  generalize hall : h ++ [x] = all at hs
  cases hs with
  | nil => simp at hall
  | snoc hs hx =>
    obtain ⟨rfl, he⟩ := List.append_inj' hall rfl
    cases he
    exact ⟨hs, hx⟩

theorem of_append (hs : Scheduled d (h ++ g)) : Scheduled d h := by
  induction g using List.reverseRecOn with
  | nil => rwa [List.append_nil] at hs
  | append_singleton g x ih =>
    rw [← List.append_assoc] at hs
    exact ih hs.of_snoc.1

theorem due {before after : List (Happening ι)} {x : Happening ι}
    (hs : Scheduled d (before ++ x :: after)) : Due d before x := by
  rw [List.append_cons] at hs
  exact hs.of_append.of_snoc.2

theorem nodup_comers (hs : Scheduled d h) : (comers h).Nodup := by
  induction hs with
  | nil => exact List.nodup_nil
  | @snoc h x hs hx ih =>
    cases x with
    | came c a =>
      rw [comers_snoc]
      exact List.nodup_append.mpr ⟨ih, List.nodup_singleton c, fun b hb b' hb' => by
        rw [List.mem_singleton.mp hb']
        exact fun he => hx (he ▸ hb)⟩
    | gaveUp c => simpa using ih
    | granted c t => simpa using ih
    | taken t => simpa using ih

/-- First come, first served. -/
theorem in_order (hs : Scheduled d h) : (served h ++ waiting h).Sublist (comers h) := by
  induction hs with
  | nil => exact .slnil
  | @snoc h x hs hx ih =>
    cases x with
    | came c a => simpa using ih.append (List.Sublist.refl [c])
    | gaveUp c =>
      have herase := (List.Sublist.refl (served h)).append
        (List.erase_sublist (a := c) (l := waiting h))
      simpa using herase.trans ih
    | granted c t =>
      obtain ⟨w, hw⟩ := List.head?_eq_some_iff.mp hx.1
      simpa [hw] using ih
    | taken t => simpa using ih

theorem nodup_served (hs : Scheduled d h) : (served h ++ waiting h).Nodup :=
  hs.nodup_comers.sublist hs.in_order

theorem nodup_waiting (hs : Scheduled d h) : (waiting h).Nodup :=
  (List.nodup_append.mp hs.nodup_served).2.1

/-- Who gives up is not granted, and does not wait. -/
theorem quit (hs : Scheduled d h) (hc : c ∈ quitters h) :
    c ∈ comers h ∧ c ∉ served h ∧ c ∉ waiting h := by
  induction hs with
  | nil => cases hc
  | @snoc h x hs hx ih =>
    cases x with
    | came b a =>
      have hin := ih (by simpa using hc)
      have hne : c ≠ b := fun he => hx (he ▸ hin.1)
      simpa [hne] using hin
    | gaveUp b =>
      by_cases hb : c = b
      · subst hb
        simpa [hs.nodup_waiting.not_mem_erase] using And.intro hx.1 hx.2
      · have hin := ih (by simpa [hb] using hc)
        simpa [List.mem_erase_of_ne hb] using hin
    | granted b t =>
      have hin := ih (by simpa using hc)
      have hne : c ≠ b := by
        rintro rfl
        exact hin.2.2 (List.mem_of_mem_head? hx.1)
      simpa [hne, List.mem_erase_of_ne hne] using hin
    | taken t => simpa using ih (by simpa using hc)

theorem le_of_last {t last : ℚ} {x : Happening ι} (hx : Due d h x) (ht : x.grantTime? = some t)
    (hl : lastTime? h = some last) : last + d ≤ t := by
  cases x with
  | came c a => cases ht
  | gaveUp c => cases ht
  | granted c time =>
    obtain ⟨-, a, -, rfl⟩ := hx
    cases ht
    simp only [slot, hl]
    exact le_max_right _ _
  | taken time =>
    cases ht
    exact hx last hl

/-- Any two grants are an interval apart. -/
theorem spaced (hd : 0 ≤ d) (hs : Scheduled d h) :
    (grantTimes h).Pairwise fun t u => t + d ≤ u := by
  induction hs with
  | nil => exact .nil
  | @snoc h x hs hx ih =>
    rw [grantTimes_snoc]
    cases ht : x.grantTime? with
    | none => simpa using ih
    | some u =>
      refine List.pairwise_append.mpr ⟨ih, List.pairwise_singleton _ _, fun t hm u' hu => ?_⟩
      obtain rfl : u' = u := by simpa using hu
      obtain ⟨times, last, hlast⟩ := (List.eq_nil_or_concat' _).resolve_left (List.ne_nil_of_mem hm)
      have hle := le_of_last hx ht (by rw [lastTime?, hlast, List.getLast?_concat])
      rw [hlast] at hm ih
      rcases List.mem_append.mp hm with hm | hm
      · have hpast := (List.pairwise_append.mp ih).2.2 t hm last (List.mem_singleton.mpr rfl)
        linarith
      · obtain rfl : t = last := by simpa using hm
        exact hle

/-- Each grant is one of those who wait. -/
theorem waiting_fewer (hs : Scheduled d (h ++ g)) (hg : ∀ x ∈ g, ∃ c t, x = .granted c t) :
    (waiting (h ++ g)).length + g.length = (waiting h).length := by
  induction g using List.reverseRecOn with
  | nil => rw [List.append_nil, List.length_nil, Nat.add_zero]
  | append_singleton g x ih =>
    rw [← List.append_assoc] at hs ⊢
    obtain ⟨hprior, hx⟩ := hs.of_snoc
    have hlength := ih hprior fun x hx => hg x (List.mem_append_left _ hx)
    obtain ⟨c, t, rfl⟩ := hg x (List.mem_append_right _ (List.mem_singleton.mpr rfl))
    obtain ⟨w, hw⟩ := List.head?_eq_some_iff.mp hx.1
    rw [hw, List.length_cons] at hlength
    rw [waiting_snoc, waitingAfter, hw, List.erase_cons_head, List.length_append,
      List.length_singleton]
    omega

/-- While there are only grants, each client that waits puts the next grant off by an interval. -/
theorem load (hd : 0 ≤ d) {now : ℚ} (hcame : ∀ c a, .came c a ∈ h → a ≤ now)
    (hlast : ∀ last, lastTime? h = some last → last ≤ now) (hs : Scheduled d (h ++ g))
    (hg : ∀ x ∈ g, ∃ c t, x = .granted c t) {last : ℚ} (hl : lastTime? (h ++ g) = some last) :
    last + (waiting (h ++ g)).length * d ≤ now + (waiting h).length * d := by
  induction g using List.reverseRecOn generalizing last with
  | nil =>
    rw [List.append_nil] at hl ⊢
    have hle := hlast last hl
    linarith
  | append_singleton g x ih =>
    rw [← List.append_assoc] at hs hl ⊢
    obtain ⟨hprior, hx⟩ := hs.of_snoc
    have hearlier : ∀ x ∈ g, ∃ c t, x = .granted c t := fun x hx =>
      hg x (List.mem_append_left _ hx)
    obtain ⟨c, t, rfl⟩ := hg x (List.mem_append_right _ (List.mem_singleton.mpr rfl))
    obtain ⟨⟨w, hw⟩, a, ha, rfl⟩ := And.imp_left List.head?_eq_some_iff.mp hx
    have ha : a ≤ now := by
      rcases List.mem_append.mp ha with ha | ha
      · exact hcame c a ha
      · obtain ⟨c', t', he⟩ := hearlier _ ha
        cases he
    have hfewer := hprior.waiting_fewer hearlier
    rw [lastTime?_snoc] at hl
    cases hl
    rw [waiting_snoc, waitingAfter, hw, List.erase_cons_head]
    rw [hw, List.length_cons] at hfewer
    have hless : (w.length : ℚ) ≤ (waiting h).length := by
      exact_mod_cast (by omega : w.length ≤ (waiting h).length)
    have hwait := mul_le_mul_of_nonneg_right hless hd
    -- the grant is timed by its own coming, or by the grant before
    have hearly : a + w.length * d ≤ now + (waiting h).length * d := by linarith
    cases hbefore : lastTime? (h ++ g) with
    | none => simpa only [slot, hbefore] using hearly
    | some before =>
      have hnext := ih hprior hearlier hbefore
      rw [hw, List.length_cons] at hnext
      push_cast at hnext
      simp only [slot, hbefore]
      rcases max_cases a (before + d) with ⟨hm, -⟩ | ⟨hm, -⟩
      · rw [hm]
        exact hearly
      · rw [hm]
        linarith

end Scheduled

end CommitMessage.Limiter
