import CommitMessage.Register
import Mathlib

/-! Lists whose entries have distinct keys: an entry found, replaced, or taken out by its key. In a
register read after a change, keys that are distinct stay distinct. -/

namespace CommitMessage.Keyed

variable {α κ : Type} [DecidableEq κ] {key : α → κ} {l : List α} {a x : α}

omit [DecidableEq κ] in
theorem find?_of_mem {p : α → Bool} (hnd : (l.map key).Nodup) (ha : a ∈ l)
    (hp : ∀ x, p x = true ↔ key x = key a) : l.find? p = some a := by
  cases hf : l.find? p with
  | none => exact absurd ((hp a).mpr rfl) (List.find?_eq_none.mp hf a ha)
  | some b =>
    have hb := List.mem_of_find?_eq_some hf
    have hk := (hp b).mp (List.find?_some hf)
    rw [List.inj_on_of_nodup_map hnd hb ha hk]

theorem mem_replace :
    x ∈ l.map (fun y => if key y = key a then a else y) ↔
      x ∈ l ∧ key x ≠ key a ∨ x = a ∧ ∃ y ∈ l, key y = key a := by
  rw [List.mem_map]
  constructor
  · rintro ⟨y, hy, he⟩
    by_cases hk : key y = key a
    · rw [if_pos hk] at he
      exact .inr ⟨he.symm, y, hy, hk⟩
    · rw [if_neg hk] at he
      exact .inl (he ▸ ⟨hy, hk⟩)
  · rintro (⟨hx, hk⟩ | ⟨rfl, y, hy, hk⟩)
    · exact ⟨x, hx, if_neg hk⟩
    · exact ⟨y, hy, if_pos hk⟩

theorem keys_replace (key : α → κ) (l : List α) (a : α) :
    (l.map fun y => if key y = key a then a else y).map key = l.map key := by
  rw [List.map_map]
  refine List.map_congr_left fun y _ => ?_
  by_cases hk : key y = key a
  · simp [hk]
  · simp [hk]

theorem replace_of_not_mem (h : ∀ y ∈ l, key y ≠ key a) :
    (l.map fun y => if key y = key a then a else y) = l := by
  conv_rhs => rw [← List.map_id l]
  exact List.map_congr_left fun y hy => if_neg (h y hy)

theorem exists_split (hnd : (l.map key).Nodup) (ha : a ∈ l) :
    ∃ before after, l = before ++ a :: after ∧
      (∀ b, key b = key a →
        l.map (fun y => if key y = key b then b else y) = before ++ b :: after) ∧
      l.filter (fun y => key y ≠ key a) = before ++ after := by
  obtain ⟨before, after, rfl⟩ := List.append_of_mem ha
  rw [List.map_append, List.map_cons] at hnd
  obtain ⟨-, hafter, hd⟩ := List.nodup_append.mp hnd
  have hbefore : ∀ y ∈ before, key y ≠ key a := fun y hy =>
    hd _ (List.mem_map_of_mem hy) _ List.mem_cons_self
  have hafter : ∀ y ∈ after, key y ≠ key a := fun y hy he =>
    (List.nodup_cons.mp hafter).1 (he ▸ List.mem_map_of_mem hy)
  refine ⟨before, after, rfl, fun b hb => ?_, ?_⟩
  · rw [List.map_append, List.map_cons, if_pos hb.symm,
      replace_of_not_mem fun y hy => hb ▸ hbefore y hy,
      replace_of_not_mem fun y hy => hb ▸ hafter y hy]
  · rw [List.filter_append, List.filter_cons_of_neg (by simp),
      List.filter_eq_self.mpr fun y hy => by simpa using hbefore y hy,
      List.filter_eq_self.mpr fun y hy => by simpa using hafter y hy]

theorem sum_replace {b : α} (f : α → Nat) (hnd : (l.map key).Nodup) (ha : a ∈ l)
    (hk : key b = key a) :
    ((l.map fun y => if key y = key b then b else y).map f).sum + f a = (l.map f).sum + f b := by
  induction l with
  | nil => simp at ha
  | cons c l ih =>
    have hn := List.nodup_cons.mp hnd
    rcases List.mem_cons.mp ha with rfl | ha
    · have hrest : ∀ y ∈ l, key y ≠ key b := fun y hy he =>
        hn.1 (List.mem_map.mpr ⟨y, hy, he.trans hk⟩)
      rw [List.map_cons, if_pos hk.symm, replace_of_not_mem hrest]
      simp only [List.map_cons, List.sum_cons]
      omega
    · have hc : key c ≠ key b := fun he =>
        hn.1 (List.mem_map.mpr ⟨a, ha, (he.trans hk).symm⟩)
      have hi := ih hn.2 ha
      simp only [List.map_cons, if_neg hc, List.sum_cons]
      omega

theorem sum_drop (f : α → Nat) (hnd : (l.map key).Nodup) (ha : a ∈ l) :
    ((l.filter fun y => key y ≠ key a).map f).sum + f a = (l.map f).sum := by
  induction l with
  | nil => simp at ha
  | cons c l ih =>
    have hn := List.nodup_cons.mp hnd
    rcases List.mem_cons.mp ha with rfl | ha
    · have hrest : l.filter (fun y => key y ≠ key a) = l :=
        List.filter_eq_self.mpr fun y hy => by
          simpa using fun he : key y = key a => hn.1 (List.mem_map.mpr ⟨y, hy, he⟩)
      rw [List.filter_cons_of_neg (by simp), hrest, List.map_cons, List.sum_cons]
      omega
    · have hc : key c ≠ key a := fun he => hn.1 (List.mem_map.mpr ⟨a, ha, he.symm⟩)
      have hi := ih hn.2 ha
      rw [List.filter_cons_of_pos (by simpa using hc), List.map_cons, List.sum_cons, List.map_cons,
        List.sum_cons]
      omega

end CommitMessage.Keyed

namespace CommitMessage.Register

variable {κ α : Type} [DecidableEq κ] {r : Register κ α}

@[simp] theorem get?_nil (key : κ) : get? ([] : Register κ α) key = none := rfl

theorem get?_cons (entry : κ × α) (r : Register κ α) (key : κ) :
    get? (entry :: r) key = if entry.1 = key then some entry.2 else r.get? key := by
  by_cases h : entry.1 = key <;> simp [get?, h]

@[simp] theorem get?_set (r : Register κ α) (key other : κ) (value : α) :
    (r.set key value).get? other = if other = key then some value else r.get? other := by
  induction r with
  | nil =>
    by_cases h : other = key
    · simp [set, get?_cons, h]
    · simp [set, get?_cons, h, Ne.symm h]
  | cons entry r ih =>
    by_cases he : entry.1 = key
    · by_cases h : other = key
      · simp [set, he, get?_cons, h]
      · simp [set, he, get?_cons, h, Ne.symm h]
    · by_cases h : entry.1 = other
      · have hne : other ≠ key := h ▸ he
        simp [set, get?_cons, h, hne]
      · simp only [set, he, if_false, get?_cons, h, ih]

@[simp] theorem get?_erase (r : Register κ α) (key other : κ) :
    (r.erase key).get? other = if other = key then none else r.get? other := by
  induction r with
  | nil => simp [erase]
  | cons entry r ih =>
    simp only [erase, ne_eq, decide_not] at ih
    by_cases he : entry.1 = key
    · by_cases h : other = key
      · simpa [erase, he, h] using ih
      · simp [erase, he, get?_cons, h, Ne.symm h, ih]
    · by_cases h : entry.1 = other
      · have hne : other ≠ key := h ▸ he
        simp [erase, get?_cons, h, hne]
      · simp [erase, he, get?_cons, h, ih]

theorem has_eq_isSome (r : Register κ α) (key : κ) : r.has key = (r.get? key).isSome := by
  induction r with
  | nil => rfl
  | cons entry r ih =>
    rw [get?_cons]
    by_cases h : entry.1 = key
    · simp [has, h]
    · simpa [has, h] using ih

theorem get?_eq_none_iff {key : κ} : r.get? key = none ↔ key ∉ r.keys := by
  induction r with
  | nil => simp [keys]
  | cons entry r ih =>
    rw [get?_cons]
    by_cases h : entry.1 = key
    · simp [keys, h]
    · simpa [keys, h, Ne.symm h] using ih

theorem mem_of_get? {key : κ} {value : α} (h : r.get? key = some value) : (key, value) ∈ r := by
  obtain ⟨entry, hf, rfl⟩ := Option.map_eq_some_iff.mp h
  have hk : entry.1 = key := by simpa using List.find?_some hf
  exact hk ▸ List.mem_of_find?_eq_some hf

theorem get?_of_mem {key : κ} {value : α} (hnd : r.keys.Nodup) (h : (key, value) ∈ r) :
    r.get? key = some value := by
  induction r with
  | nil => simp at h
  | cons entry r ih =>
    have hn := List.nodup_cons.mp hnd
    rw [get?_cons]
    rcases List.mem_cons.mp h with rfl | hm
    · simp
    · have hk : key ∈ keys r := List.mem_map.mpr ⟨_, hm, rfl⟩
      have hne : entry.1 ≠ key := fun he => hn.1 (show entry.1 ∈ keys r from he ▸ hk)
      rw [if_neg hne]
      exact ih hn.2 hm

theorem mem_set {key : κ} {value : α} {entry : κ × α} (h : entry ∈ r.set key value) :
    entry = (key, value) ∨ entry ∈ r := by
  induction r with
  | nil => exact .inl (List.mem_singleton.mp h)
  | cons first r ih =>
    by_cases he : first.1 = key
    · simp only [set, he, if_true] at h
      exact (List.mem_cons.mp h).imp id (List.mem_cons_of_mem _)
    · simp only [set, he, if_false] at h
      rcases List.mem_cons.mp h with rfl | h
      · exact .inr List.mem_cons_self
      · exact (ih h).imp id (List.mem_cons_of_mem _)

theorem length_set_le (r : Register κ α) (key : κ) (value : α) :
    (r.set key value).length ≤ r.length + 1 := by
  induction r with
  | nil => simp [set]
  | cons first r ih =>
    by_cases he : first.1 = key
    · simp [set, he]
    · simp only [set, he, if_false, List.length_cons]
      omega

theorem mem_keys_set {key other : κ} {value : α} :
    other ∈ (r.set key value).keys ↔ other = key ∨ other ∈ r.keys := by
  have h := get?_set r key other value
  by_cases he : other = key
  · rw [if_pos he] at h
    exact ⟨fun _ => .inl he, fun _ => by_contra fun hm => by
      rw [get?_eq_none_iff.mpr hm] at h
      cases h⟩
  · rw [if_neg he] at h
    have hh : other ∉ (r.set key value).keys ↔ other ∉ r.keys := by
      rw [← get?_eq_none_iff, ← get?_eq_none_iff, h]
    simp [he, not_iff_not.mp hh]

theorem nodup_keys_set {key : κ} {value : α} (hnd : r.keys.Nodup) :
    (r.set key value).keys.Nodup := by
  induction r with
  | nil => simp [set, keys]
  | cons entry r ih =>
    have hn := List.nodup_cons.mp hnd
    by_cases he : entry.1 = key
    · simpa [set, he, keys] using hnd
    · have hs : keys (set key value (entry :: r)) = entry.1 :: keys (set key value r) := by
        simp [set, he, keys]
      rw [hs, List.nodup_cons]
      exact ⟨fun hm => (mem_keys_set.mp hm).elim he hn.1, ih hn.2⟩

theorem get?_filter (hnd : r.keys.Nodup) (p : κ × α → Bool) (key : κ) :
    get? (r.filter p) key = (r.get? key).filter fun value => p (key, value) := by
  induction r with
  | nil => rfl
  | cons entry r ih =>
    have hn := List.nodup_cons.mp hnd
    have ih := ih hn.2
    obtain ⟨first, value⟩ := entry
    rw [get?_cons]
    by_cases hk : first = key
    · subst hk
      have hrest : get? r first = none := get?_eq_none_iff.mpr hn.1
      rw [hrest] at ih
      cases hp : p (first, value) with
      | true => simp [hp, get?_cons, Option.filter]
      | false => simpa [hp, Option.filter] using ih
    · cases hp : p (first, value) with
      | true => simpa [hp, get?_cons, hk] using ih
      | false => simpa [hp, hk] using ih

omit [DecidableEq κ] in
theorem nodup_keys_filter (hnd : r.keys.Nodup) (p : κ × α → Bool) :
    (keys (r.filter p)).Nodup :=
  hnd.sublist (List.filter_sublist.map _)

end CommitMessage.Register
