import CommitMessage.Annotation
import CommitMessage.Lint.Validate
import CommitMessage.Proofs.Lookup.Answers
import CommitMessage.Proofs.Message.Occurrences
import Mathlib

/-! Which references of a message are looked up. A message may write the number of a ticket or of a
changeset in the digits of any script, but only numbers in ASCII digits are looked up. -/

namespace CommitMessage

namespace Occurrence

variable {t digits line : Text} {number : Nat} {lines : List Text} {o : Occurrence}

theorem digits_of_ticket? (h : ticket? t = some digits) :
    digits ≠ [] ∧ ∀ c ∈ digits, isDigit c = true := by
  unfold ticket? at h
  split at h
  · next rest =>
    dsimp only at h
    split at h
    · cases h
    · next hok =>
      cases h
      exact ⟨by simp_all, fun c hc => List.mem_takeWhile_imp hc⟩
  · cases h

theorem digits_of_changeset? (h : changeset? t = some digits) :
    digits ≠ [] ∧ ∀ c ∈ digits, isDigit c = true := by
  unfold changeset? at h
  split at h
  · next rest =>
    dsimp only at h
    split at h
    · cases h
    · next hok =>
      cases h
      exact ⟨by simp_all, fun c hc => List.mem_takeWhile_imp hc⟩
  · cases h

theorem identifier_of_mem_ofLine (ho : o ∈ ofLine number line) :
    (o.reference.kind = .profile ∧ isUsername o.reference.identifier = true) ∨
      o.reference.kind ≠ .profile ∧ o.reference.identifier ≠ [] ∧
        ∀ c ∈ o.reference.identifier, isDigit c = true := by
  have hm := (distinct_sublist _ _).subset ho
  rcases List.mem_append.mp hm with hm | hm
  · right
    rcases List.mem_append.mp hm with hm | hm
    · obtain ⟨found, hf, rfl⟩ := List.mem_map.mp hm
      obtain ⟨i, -, -, hr⟩ := mem_scan.mp hf
      exact ⟨nofun, digits_of_ticket? hr⟩
    · obtain ⟨found, hf, rfl⟩ := List.mem_map.mp hm
      obtain ⟨i, -, -, hr⟩ := mem_scan.mp hf
      exact ⟨nofun, digits_of_changeset? hr⟩
  · left
    obtain ⟨trailer, token, -, -, hv, rfl⟩ := mem_profiles hm
    exact ⟨rfl, hv⟩

theorem identifier_of_mem_ofLines (ho : o ∈ ofLines lines) :
    (o.reference.kind = .profile ∧ isUsername o.reference.identifier = true) ∨
      o.reference.kind ≠ .profile ∧ o.reference.identifier ≠ [] ∧
        ∀ c ∈ o.reference.identifier, isDigit c = true := by
  obtain ⟨entry, -, ho⟩ := List.mem_flatMap.mp (List.mem_mergeSort.mp ho)
  exact identifier_of_mem_ofLine ho

/-- A reference of a message is malformed only if it is a number with a digit of another script. -/
theorem isValid_iff (ho : o ∈ ofLines lines) :
    o.reference.isValid = true ↔
      o.reference.kind = .profile ∨ ∀ c ∈ o.reference.identifier, isAsciiDigit c = true := by
  rcases identifier_of_mem_ofLines ho with ⟨hk, hu⟩ | ⟨hk, hne, -⟩
  · have hne : o.reference.identifier ≠ [] := by
      intro he
      simp [isUsername, he] at hu
    simp [Reference.isValid, hk, hne]
  · cases hkind : o.reference.kind with
    | profile => exact absurd hkind hk
    | _ => simp [Reference.isValid, hkind, hne]

end Occurrence

namespace Desk

variable {κ : Type}

/-- Who asks for a well-formed reference is answered from the cache or by a fetch that is over, or
waits for a fetch. -/
theorem ask_valid (d : Desk ℚ κ) (now : ℚ) (caller : κ) (pass : Option Text) {r : Reference}
    (hr : r.isValid = true) :
    let asked := d.ask now caller pass r
    (∃ entry, d.cache.get? now r = some entry ∧
        asked.1 = some (.resolved (.ofVerdict r entry.verdict))) ∨
      d.cache.get? now r = none ∧ ∃ f ∈ asked.2.1.fetches, f.reference = r ∧
        (asked.1 = none ∧ caller ∈ f.callers ∨
          ∃ outcome, f.stage = .finished outcome ∧ asked.1 = some outcome) := by
  intro asked
  rcases ask_eq d now caller pass r with ⟨outcome, notes, he, -, hg⟩ |
    ⟨-, hc, ⟨f, hf, -, he⟩ | ⟨-, he⟩⟩
  · simp only [asked, he]
    cases hg with
    | missing hv => simp [hr] at hv
    | cached _ hc => exact .inl ⟨_, hc, rfl⟩
    | ended _ hc hf hs ho => exact .inr ⟨hc, _, hf, hs, .inr ⟨_, ho, rfl⟩⟩
  · obtain ⟨hm, rfl⟩ := mem_of_fetch? hf
    simp only [asked, he]
    refine .inr ⟨hc, { f with callers := f.callers ++ [caller] },
      mem_setFetch.mpr (.inr ⟨rfl, f, hm, rfl⟩), rfl, .inl ⟨trivial, ?_⟩⟩
    exact List.mem_append_right _ (List.mem_singleton_self caller)
  · simp only [asked, he]
    exact .inr ⟨hc, _, List.mem_append_right _ (List.mem_singleton_self _), rfl,
      .inl ⟨trivial, List.mem_singleton_self caller⟩⟩

theorem ask_malformed (d : Desk ℚ κ) (now : ℚ) (caller : κ) (pass : Option Text) {r : Reference}
    (hr : r.isValid = false) :
    d.ask now caller pass r = (some (.resolved (.missing r)), d, []) := by
  simp [ask, hr]

/-- What becomes of a reference of a message at the desk. A name is always looked up, and so is a
number in ASCII digits: there is an answer from the cache, or there is a fetch. Any other number is
shown as not found, though nobody looked. -/
theorem ask_occurrence (d : Desk ℚ κ) (now : ℚ) (caller : κ) (pass : Option Text)
    {lines : List Text} {o : Occurrence} (ho : o ∈ Occurrence.ofLines lines) :
    let r := o.reference
    let asked := d.ask now caller pass r
    (r.kind ≠ .profile → r.identifier ≠ [] ∧ ∀ c ∈ r.identifier, isDigit c = true) ∧
    (r.isValid = true ↔ r.kind = .profile ∨ ∀ c ∈ r.identifier, isAsciiDigit c = true) ∧
    (r.isValid = true →
      (∃ entry, d.cache.get? now r = some entry ∧
        asked.1 = some (.resolved (.ofVerdict r entry.verdict))) ∨
      d.cache.get? now r = none ∧ ∃ f ∈ asked.2.1.fetches, f.reference = r ∧
        (asked.1 = none ∧ caller ∈ f.callers ∨
          ∃ outcome, f.stage = .finished outcome ∧ asked.1 = some outcome)) ∧
    (r.isValid = false → asked = (some (.resolved (.missing r)), d, []) ∧
      Annotation.ofAnswer o.mention (some (.missing r)) =
        ⟨o.columnStart, Annotation.subject r ++ " not found".toList, .invalid, r⟩) := by
  intro r asked
  refine ⟨fun hk => ?_, Occurrence.isValid_iff ho, fun hv => ask_valid d now caller pass hv,
    fun hv => ⟨ask_malformed d now caller pass hv, rfl⟩⟩
  exact ((Occurrence.identifier_of_mem_ofLines ho).resolve_left fun h => hk h.1).2

theorem ask_occurrence_twoScripts :
    let d : Desk ℚ Nat :=
      { hosts := ⟨[], []⟩
        timeout := .ofNat 1
        cache := { capacity := 1, lifetime := fun _ => 1 }
        limiter := { interval := 0 } }
    let lines := Text.messageLines "Docs: Fix.\n\nFixes #12, #٣.".toList
    let first : Occurrence := ⟨2, 6, 9, ⟨.ticket, ['1', '2']⟩⟩
    let second : Occurrence := ⟨2, 11, 13, ⟨.ticket, ['٣']⟩⟩
    first ∈ Occurrence.ofLines lines ∧ second ∈ Occurrence.ofLines lines ∧
      (∃ f ∈ (d.ask 0 7 none first.reference).2.1.fetches, 7 ∈ f.callers) ∧
      d.ask 0 7 none second.reference = (some (.resolved (.missing second.reference)), d, []) := by
  intro d lines first second
  have hfirst : first ∈ Occurrence.ofLines lines := List.mem_mergeSort.mpr (by decide +kernel)
  have hsecond : second ∈ Occurrence.ofLines lines := List.mem_mergeSort.mpr (by decide +kernel)
  obtain ⟨-, -, hlooked, -⟩ := ask_occurrence d 0 7 none hfirst
  obtain ⟨-, -, -, hmissing⟩ := ask_occurrence d 0 7 none hsecond
  refine ⟨hfirst, hsecond, ?_, (hmissing rfl).1⟩
  rcases hlooked rfl with ⟨entry, he, -⟩ | ⟨-, f, hf, -, ⟨-, hc⟩ | ⟨_, -, ho⟩⟩
  · cases he
  · exact ⟨f, hf, hc⟩
  · cases ho

/-- A reference that the rules for messages find no fault with, and that is not looked up. -/
theorem exists_occurrence_not_isValid :
    let lines := Text.messageLines "Docs: Fix.\n\nFixes #٣.".toList
    Lint.validate lines = [] ∧
      ∃ o ∈ Occurrence.ofLines lines, o.reference.isValid = false ∧
        Annotation.textFor o.reference (some (.missing o.reference)) =
          "Ticket #٣ not found".toList := by
  intro lines
  refine ⟨by decide +kernel, ⟨2, 6, 8, ⟨.ticket, ['٣']⟩⟩, by decide +kernel, rfl, ?_⟩
  decide +kernel

end Desk

end CommitMessage
