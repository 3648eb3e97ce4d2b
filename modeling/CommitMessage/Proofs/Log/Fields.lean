import Mathlib
import CommitMessage.Log.Record

/-! The fields of a line. Those of every record come first and keep their values; the extra fields
follow, each under its own name or, if that is taken, under one that is made from it. -/

namespace CommitMessage

/-! Members that are set one after another -/

section Members

variable {α : Type} {key : Text} {value : α} {l m : List (Text × α)}

theorem keys_insertMember (key : Text) (value : α) (l : List (Text × α)) :
    (insertMember key value l).map (·.1) =
      if key ∈ l.map (·.1) then l.map (·.1) else l.map (·.1) ++ [key] := by
  induction l with
  | nil => rfl
  | cons a l ih =>
    obtain ⟨k, v⟩ := a
    by_cases hk : k = key
    · simp [insertMember, hk]
    · have hk' : ¬ key = k := fun he => hk he.symm
      rw [insertMember, if_neg hk, List.map_cons, ih]
      by_cases hm : key ∈ l.map (·.1)
      · simp [hm]
      · simp [hm, hk']

theorem insertMember_append (h : key ∉ l.map (·.1)) :
    insertMember key value (l ++ m) = l ++ insertMember key value m := by
  induction l with
  | nil => rfl
  | cons a l ih =>
    have hne : a.1 ≠ key := fun he => h (he ▸ List.mem_cons_self)
    have hl : key ∉ l.map (·.1) := fun hm => h (List.mem_cons_of_mem _ hm)
    rw [List.cons_append, insertMember, if_neg hne, ih hl, List.cons_append]

theorem nodup_insertMember (h : (l.map (·.1)).Nodup) :
    ((insertMember key value l).map (·.1)).Nodup := by
  rw [keys_insertMember]
  split
  · exact h
  · next hk => exact List.concat_eq_append ▸ h.concat hk

theorem mem_insertMember (h : (l.map (·.1)).Nodup) {a : Text × α} :
    a ∈ insertMember key value l ↔ a = (key, value) ∨ a ∈ l ∧ a.1 ≠ key := by
  induction l with
  | nil => simp [insertMember]
  | cons b l ih =>
    have hb := List.nodup_cons.mp h
    by_cases hk : b.1 = key
    · have hl : ∀ a ∈ l, a.1 ≠ key := fun a ha he =>
        hb.1 (List.mem_map.mpr ⟨a, ha, he.trans hk.symm⟩)
      rw [insertMember, if_pos hk, List.mem_cons, List.mem_cons]
      constructor
      · rintro (ha | ha)
        · exact .inl ha
        · exact .inr ⟨.inr ha, hl a ha⟩
      · rintro (ha | ⟨rfl | ha, hne⟩)
        · exact .inl ha
        · exact absurd hk hne
        · exact .inr ha
    · rw [insertMember, if_neg hk, List.mem_cons, List.mem_cons, ih hb.2]
      constructor
      · rintro (rfl | ha | ⟨ha, hne⟩)
        · exact .inr ⟨.inl rfl, hk⟩
        · exact .inl ha
        · exact .inr ⟨.inr ha, hne⟩
      · rintro (ha | ⟨rfl | ha, hne⟩)
        · exact .inr (.inl ha)
        · exact .inl rfl
        · exact .inr (.inr ⟨ha, hne⟩)

/-- Members set one after another, each under a key that is found from its name. -/
def insertAll (key : Text → Text) (xs : List (Text × α)) (l : List (Text × α)) :
    List (Text × α) :=
  xs.foldl (fun all x => insertMember (key x.1) x.2 all) l

variable {f : Text → Text} {xs : List (Text × α)}

theorem insertAll_append_singleton (x : Text × α) :
    insertAll f (xs ++ [x]) l = insertMember (f x.1) x.2 (insertAll f xs l) := by
  simp [insertAll]

theorem insertAll_after (h : ∀ x ∈ xs, f x.1 ∉ l.map (·.1)) :
    insertAll f xs l = l ++ insertAll f xs [] := by
  induction xs using List.reverseRecOn with
  | nil => simp [insertAll]
  | append_singleton xs x ih =>
    rw [insertAll_append_singleton, ih fun y hy => h y (by simp [hy]),
      insertMember_append (h x (by simp)), insertAll_append_singleton]

theorem nodup_insertAll (h : (l.map (·.1)).Nodup) : ((insertAll f xs l).map (·.1)).Nodup := by
  induction xs using List.reverseRecOn with
  | nil => exact h
  | append_singleton xs x ih =>
    rw [insertAll_append_singleton]
    exact nodup_insertMember ih

theorem mem_keys_insertAll {k : Text} :
    k ∈ (insertAll f xs []).map (·.1) ↔ k ∈ xs.map fun x => f x.1 := by
  induction xs using List.reverseRecOn with
  | nil => rfl
  | append_singleton xs x ih =>
    rw [insertAll_append_singleton, keys_insertMember, List.map_append, List.mem_append, ← ih]
    split
    · next hk =>
      constructor
      · exact .inl
      · rintro (h | h)
        · exact h
        · exact List.mem_singleton.mp h ▸ hk
    · rw [List.mem_append]
      exact Iff.rfl

/-- The value under a key is the last one that was set there. -/
theorem mem_insertAll {k : Text} {v : α} :
    (k, v) ∈ insertAll f xs [] ↔ ∃ before name after, xs = before ++ (name, v) :: after ∧
      f name = k ∧ ∀ x ∈ after, f x.1 ≠ k := by
  induction xs using List.reverseRecOn with
  | nil => simp [insertAll]
  | append_singleton xs x ih =>
    have hnd : ((insertAll f xs ([] : List (Text × α))).map (·.1)).Nodup :=
      nodup_insertAll List.nodup_nil
    rw [insertAll_append_singleton, mem_insertMember hnd, ih]
    constructor
    · rintro (he | ⟨⟨before, name, after, rfl, hname, hafter⟩, hne⟩)
      · cases he
        exact ⟨xs, x.1, [], rfl, rfl, by simp⟩
      · refine ⟨before, name, after ++ [x], by simp, hname, fun y hy => ?_⟩
        rcases List.mem_append.mp hy with hy | hy
        · exact hafter y hy
        · exact List.mem_singleton.mp hy ▸ fun he => hne he.symm
    · rintro ⟨before, name, after, he, hname, hafter⟩
      rcases List.eq_nil_or_concat after with rfl | ⟨rest, y, rfl⟩
      · obtain ⟨-, hx⟩ := List.append_inj' he rfl
        cases hx
        exact .inl (by rw [← hname])
      · rw [List.concat_eq_append, ← List.cons_append, ← List.append_assoc] at he
        obtain ⟨hxs, hx⟩ := List.append_inj' he rfl
        cases hx
        exact .inr ⟨⟨before, name, rest, hxs, hname, fun z hz => hafter z (by simp [hz])⟩,
          fun hk => hafter x (by simp) hk.symm⟩

theorem insertAll_of_nodup (h : (xs.map fun x => f x.1).Nodup) :
    insertAll f xs [] = xs.map fun x => (f x.1, x.2) := by
  induction xs using List.reverseRecOn with
  | nil => rfl
  | append_singleton xs x ih =>
    rw [List.map_append] at h
    obtain ⟨hxs, -, hd⟩ := List.nodup_append.mp h
    have hx : f x.1 ∉ (insertAll f xs []).map (·.1) := fun hm =>
      hd _ (mem_keys_insertAll.mp hm) _ List.mem_cons_self rfl
    rw [insertAll_append_singleton, ← List.append_nil (insertAll f xs []),
      insertMember_append hx, ih hxs, List.map_append]
    rfl

theorem length_insertAll :
    (insertAll f xs []).length = (xs.map fun x => f x.1).toFinset.card := by
  have hkeys : ((insertAll f xs []).map (·.1)).toFinset = (xs.map fun x => f x.1).toFinset := by
    ext k
    rw [List.mem_toFinset, List.mem_toFinset, mem_keys_insertAll]
  have hnodup : ((insertAll f xs []).map (·.1)).Nodup := nodup_insertAll List.nodup_nil
  rw [← hkeys, List.toFinset_card_of_nodup hnodup, List.length_map]

theorem length_insertAll_le : (insertAll f xs []).length ≤ xs.length := by
  rw [length_insertAll]
  exact (List.toFinset_card_le _).trans_eq (List.length_map _)

/-- As many members as were set, and so none was set over another. -/
theorem nodup_of_length_insertAll (h : xs.length ≤ (insertAll f xs []).length) :
    (xs.map fun x => f x.1).Nodup := by
  refine Multiset.coe_nodup.mp (Multiset.toFinset_card_eq_card_iff_nodup.mp ?_)
  have hlength := le_antisymm length_insertAll_le h
  rw [length_insertAll] at hlength
  exact hlength.trans (List.length_map _).symm

end Members

namespace Log

/-- Extra fields that come with a record: they have distinct names, none of which is refused, and
none is a private one. -/
structure Admitted (extras : List (Text × Json)) : Prop where
  distinct : (extras.map (·.1)).Nodup
  accepted : takenName? extras = none
  visible : ∀ e ∈ extras, e.1.head? ≠ some '_'

/-- The one name of a record's own attributes that is not refused. -/
def taskName : Text := "taskName".toList

theorem Admitted.not_own {extras : List (Text × Json)} (h : Admitted extras) {e : Text × Json}
    (he : e ∈ extras) (hn : e.1 ≠ taskName) : e.1 ∉ Record.ownNames := by
  have hfree := List.find?_eq_none.mp h.accepted e.1 (List.mem_map_of_mem he)
  simp only [decide_eq_true_eq, List.mem_cons, List.mem_filter, not_or, not_and] at hfree
  exact fun hown => hfree.2.2 hown hn

namespace Record

variable {r : Record} {extras : List (Text × Json)} {time message : Text}

/-- The fields of a record whose line shows a time. -/
def timed (r : Record) (time message : Text) : List (Text × Json) :=
  ("timestamp".toList, .string time) :: r.core message

/-- The name that an extra field is written under. -/
def writtenName (r : Record) (time message name : Text) : Text :=
  if name ∈ (r.timed time message).map (·.1) then "extra_".toList ++ name else name

theorem withExtra_of_not_own {name : Text} (h : name ∉ ownNames ∨ name = taskName) (value : Json) :
    r.withExtra name value = { r with extras := insertMember name value r.extras } := by
  have hne {own : String} (ho : own.toList ∈ ownNames) (ht : own.toList ≠ taskName) :
      String.ofList name ≠ own := by
    rintro rfl
    rw [String.toList_ofList] at ho ht
    exact h.elim (· ho) ht
  unfold withExtra
  split
  case h_7 => rfl
  all_goals
    next heq => exact absurd heq (hne (by decide) (by decide))

theorem withExtras_of_admitted (hr : r.extras = []) (h : Admitted extras) :
    r.withExtras extras = { r with extras } := by
  have hown : ∀ e ∈ extras, e.1 ∉ ownNames ∨ e.1 = taskName := fun e he =>
    (em (e.1 = taskName)).elim .inr fun hn => .inl (h.not_own he hn)
  have hall (xs : List (Text × Json)) (hxs : ∀ e ∈ xs, e.1 ∉ ownNames ∨ e.1 = taskName) :
      r.withExtras xs = { r with extras := insertAll id xs [] } := by
    induction xs using List.reverseRecOn with
    | nil =>
      change r = { r with extras := [] }
      rw [← hr]
    | append_singleton xs x ih =>
      have hx := ih fun e he => hxs e (by simp [he])
      have hlast : r.withExtras (xs ++ [x]) = (r.withExtras xs).withExtra x.1 x.2 := by
        simp [withExtras]
      rw [hlast, hx, insertAll_append_singleton]
      exact withExtra_of_not_own (hxs x (by simp)) x.2
  rw [hall extras hown, insertAll_of_nodup (by simpa using h.distinct)]
  simp

/-- The names of the fields that a line can have besides the extra ones. -/
def timedNames : List Text :=
  ["timestamp", "level", "message", "logger", "pass_id", "exception", "stack_trace"].map
    String.toList

theorem keys_timed_sublist (r : Record) (time message : Text) :
    ((r.timed time message).map (·.1)).Sublist timedNames := by
  rw [timed, core]
  cases r.exception <;> cases r.stack.isVoid <;> simp [timedNames]

theorem nodup_timed (r : Record) (time message : Text) :
    ((r.timed time message).map (·.1)).Nodup :=
  (show timedNames.Nodup by decide).sublist (keys_timed_sublist r time message)

theorem not_mem_timed_of_made (name : Text) :
    "extra_".toList ++ name ∉ (r.timed time message).map (·.1) := by
  have hnames : ∀ name ∈ timedNames, ¬ "extra_".toList <+: name := by decide
  exact fun h => hnames _ ((keys_timed_sublist r time message).subset h) (List.prefix_append _ _)

theorem writtenName_not_mem (name : Text) :
    r.writtenName time message name ∉ (r.timed time message).map (·.1) := by
  unfold writtenName
  split
  · exact not_mem_timed_of_made name
  · assumption

/-- Two extra fields meet in the line if one has the name of a field of every record and the other
the name that is made from it. -/
theorem writtenName_eq_iff {name other : Text} (hne : name ≠ other) :
    r.writtenName time message name = r.writtenName time message other ↔
      name ∈ (r.timed time message).map (·.1) ∧ other = "extra_".toList ++ name ∨
      other ∈ (r.timed time message).map (·.1) ∧ name = "extra_".toList ++ other := by
  unfold writtenName
  by_cases hn : name ∈ (r.timed time message).map (·.1)
  · by_cases ho : other ∈ (r.timed time message).map (·.1)
    · rw [if_pos hn, if_pos ho, List.append_cancel_left_eq]
      constructor
      · exact fun he => absurd he hne
      · rintro (⟨-, rfl⟩ | ⟨-, rfl⟩)
        · exact absurd ho (not_mem_timed_of_made _)
        · exact absurd hn (not_mem_timed_of_made _)
    · rw [if_pos hn, if_neg ho]
      simp [hn, ho, eq_comm]
  · by_cases ho : other ∈ (r.timed time message).map (·.1)
    · rw [if_neg hn, if_pos ho]
      simp [hn, ho]
    · rw [if_neg hn, if_neg ho]
      simp [hn, ho, hne]

theorem fields_of_admitted (hr : r.extras = []) (h : Admitted extras) :
    (r.withExtras extras).fields (some time) message = r.timed time message ++
      insertAll (r.writtenName time message) (extras.filter (·.1 ≠ taskName)) [] := by
  have hshown : extras.filter (fun e => e.1 ∉ ownNames && e.1.head? ≠ some '_') =
      extras.filter (·.1 ≠ taskName) := by
    refine List.filter_congr fun e he => ?_
    have hv := h.visible e he
    by_cases hn : e.1 = taskName
    · simp [hn, show taskName ∈ ownNames by decide]
    · simp [hn, hv, h.not_own he hn]
  have hreserved (name : Text) : name ∈ "timestamp".toList :: (r.timed time message).map (·.1) ↔
      name ∈ (r.timed time message).map (·.1) :=
    List.mem_cons.trans (or_iff_right_of_imp fun he => he ▸ List.mem_cons_self)
  rw [withExtras_of_admitted hr h, ← insertAll_after fun x _ => writtenName_not_mem x.1]
  change addExtras { r with extras } (r.timed time message) = _
  rw [addExtras, hshown]
  simp only [hreserved]
  rfl

theorem nodup_writtenNames_iff (h : (extras.map (·.1)).Nodup) :
    (extras.map fun e => r.writtenName time message e.1).Nodup ↔
      ∀ name ∈ (r.timed time message).map (·.1), name ∈ extras.map (·.1) →
        "extra_".toList ++ name ∉ extras.map (·.1) := by
  have hmap : (extras.map fun e => r.writtenName time message e.1) =
      (extras.map (·.1)).map (r.writtenName time message) := by
    rw [List.map_map]
    rfl
  have hne (name : Text) : name ≠ "extra_".toList ++ name := fun he => by
    have hlength := congrArg List.length he
    rw [List.length_append] at hlength
    change name.length = 6 + name.length at hlength
    omega
  rw [hmap]
  constructor
  · intro hnd name hcore hname hextra
    exact hne name (List.inj_on_of_nodup_map hnd hname hextra
      ((writtenName_eq_iff (hne name)).mpr (.inl ⟨hcore, rfl⟩)))
  · intro hapart
    refine h.map_on fun name hname other hother he => ?_
    by_contra hd
    rcases (writtenName_eq_iff hd).mp he with ⟨hcore, rfl⟩ | ⟨hcore, rfl⟩
    · exact hapart name hcore hname hother
    · exact hapart other hcore hother hname

theorem line_of_admitted (hr : r.extras = []) (h : Admitted extras) {line : Text} :
    (r.withExtras extras).line = .ok line ↔ ∃ time message, r.time = .ok time ∧
      r.message = .ok message ∧
      line = (Json.object ((r.withExtras extras).fields (some time) message)).render := by
  have htime : (r.withExtras extras).time = r.time := by rw [withExtras_of_admitted hr h]; rfl
  have hmessage : (r.withExtras extras).message = r.message := by
    rw [withExtras_of_admitted hr h]; rfl
  rw [Record.line, htime, hmessage]
  cases ht : r.time with
  | error p => simp [bind, Except.bind]
  | ok time =>
    cases hm : r.message with
    | error p => simp [bind, Except.bind, Except.mapError]
    | ok message =>
      simp only [bind, Except.bind, Except.mapError, pure, Except.pure, Except.ok.injEq]
      constructor
      · rintro rfl
        exact ⟨time, message, rfl, rfl, rfl⟩
      · rintro ⟨_, _, rfl, rfl, rfl⟩
        rfl

/-- What a line tells. The fields of every record stand first with their own values, the keys are
distinct, and under any other key stands the last extra field that is written there. The extra
fields are all kept, each under a key of its own, as long as none has the name of a task and none
has the name that is made for another one. -/
theorem fields_kept (hr : r.extras = []) (h : Admitted extras) (time message : Text) :
    (∀ line, (r.withExtras extras).line = .ok line ↔ ∃ time message, r.time = .ok time ∧
      r.message = .ok message ∧
      line = (Json.object ((r.withExtras extras).fields (some time) message)).render) ∧
    r.timed time message <+: (r.withExtras extras).fields (some time) message ∧
    (((r.withExtras extras).fields (some time) message).map (·.1)).Nodup ∧
    (∀ k v, (k, v) ∈ (r.withExtras extras).fields (some time) message ↔
      (k, v) ∈ r.timed time message ∨ ∃ before name after,
        extras.filter (·.1 ≠ taskName) = before ++ (name, v) :: after ∧
        r.writtenName time message name = k ∧
        ∀ e ∈ after, r.writtenName time message e.1 ≠ k) ∧
    ((∃ key : Text → Text, ((r.withExtras extras).fields (some time) message).Perm
        (r.timed time message ++ extras.map fun e => (key e.1, e.2))) ↔
      taskName ∉ extras.map (·.1) ∧
      ∀ name ∈ (r.timed time message).map (·.1), name ∈ extras.map (·.1) →
        "extra_".toList ++ name ∉ extras.map (·.1)) := by
  have hfields : (r.withExtras extras).fields (some time) message = r.timed time message ++
      insertAll (r.writtenName time message) (extras.filter (·.1 ≠ taskName)) [] :=
    fields_of_admitted hr h
  refine ⟨fun line => line_of_admitted hr h, ?_, ?_, fun k v => ?_, ?_⟩
  · rw [hfields]
    exact List.prefix_append _ _
  · rw [hfields, List.map_append]
    refine (nodup_timed r time message).append (nodup_insertAll List.nodup_nil) fun k hk hw => ?_
    obtain ⟨e, -, he⟩ := List.mem_map.mp (mem_keys_insertAll.mp hw)
    exact writtenName_not_mem e.1 (he ▸ hk)
  · rw [hfields, List.mem_append, mem_insertAll]
  · rw [← nodup_writtenNames_iff h.distinct, hfields]
    constructor
    · rintro ⟨key, hp⟩
      have hlength := ((List.perm_append_left_iff _).mp hp).length_eq
      rw [List.length_map] at hlength
      have hshown : extras.filter (·.1 ≠ taskName) = extras :=
        List.filter_sublist.eq_of_length_le (hlength ▸ length_insertAll_le)
      rw [hshown] at hlength
      refine ⟨fun htask => ?_, nodup_of_length_insertAll hlength.ge⟩
      obtain ⟨e, he, hname⟩ := List.mem_map.mp htask
      simpa [hname] using List.filter_eq_self.mp hshown e he
    · rintro ⟨htask, hnd⟩
      have hshown : extras.filter (·.1 ≠ taskName) = extras :=
        List.filter_eq_self.mpr fun e he => by
          simpa using fun hn : e.1 = taskName => htask (hn ▸ List.mem_map_of_mem he)
      rw [hshown, insertAll_of_nodup hnd]
      exact ⟨_, .rfl⟩

theorem fields_kept_entityAndLevel :
    let r : Record := { level := .string "INFO".toList, template := .string "Extra data".toList,
                        logger := .string "test".toList }
    let extras : List (Text × Json) :=
      [("entity".toList, .string "ticket:100".toList), ("level".toList, .string "shadowed".toList)]
    r.extras = [] ∧ Admitted extras ∧
      ∃ key : Text → Text, ((r.withExtras extras).fields (some []) "Extra data".toList).Perm
        (r.timed [] "Extra data".toList ++ extras.map fun e => (key e.1, e.2)) := by
  intro r extras
  have h : Admitted extras := ⟨by decide, by decide, by decide⟩
  have hapart : taskName ∉ extras.map (·.1) ∧
      ∀ name ∈ (r.timed [] "Extra data".toList).map (·.1), name ∈ extras.map (·.1) →
        "extra_".toList ++ name ∉ extras.map (·.1) := by
    decide
  exact ⟨rfl, h, (fields_kept rfl h [] "Extra data".toList).2.2.2.2.mpr hapart⟩

/-- Two extra fields that meet: the value of the first one is nowhere in the line. -/
theorem exists_extra_lost : ∃ (r : Record) (extras : List (Text × Json)), r.extras = [] ∧
    Admitted extras ∧ ∃ e ∈ extras, ∀ time message key,
      (key, e.2) ∉ (r.withExtras extras).fields (some time) message := by
  let extras : List (Text × Json) := [("level".toList, .int 1), ("extra_level".toList, .int 2)]
  let r : Record :=
    { level := .string "INFO".toList, template := .string ['m'], logger := .string ['l'] }
  have h : Admitted extras := ⟨by decide, by decide, by decide⟩
  refine ⟨r, extras, rfl, h, _, List.mem_cons_self, fun time message key => ?_⟩
  have hfields : (r.withExtras extras).fields (some time) message =
      r.timed time message ++ [("extra_level".toList, .int 2)] := rfl
  rw [hfields]
  simp [r, timed, core, optionalText, Json.isVoid]

end Record

end Log

end CommitMessage
