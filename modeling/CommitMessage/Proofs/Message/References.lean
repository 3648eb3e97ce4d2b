import CommitMessage.Proofs.Message.Forms

/-! What a message refers to, said without a scan. A line names a reference from one column up to
another. A message has one occurrence for each reference that one of its lines names, at the first
place where the line names it, and no two of these places overlap. -/

namespace CommitMessage.Occurrence

variable {kind : Reference.Kind} {number : Nat} {line t digits : Text} {r r' : Reference}
  {start stop start' stop' : Nat} {o : Occurrence}

/-! Names -/

/-- The line names the reference from the first column up to the second. -/
inductive Names (line : Text) : Reference → Nat → Nat → Prop
  | ticket {before digits after : Text} (hl : line = before ++ '#' :: (digits ++ after))
      (hd : digits.IsNumber) (ha : ∀ c ∈ after.head?, isDigit c = false ∧ isWord c = false) :
      Names line ⟨.ticket, digits⟩ before.length (before.length + 1 + digits.length)
  | changeset {before digits after : Text} (hl : line = before ++ '[' :: (digits ++ ']' :: after))
      (hd : digits.IsNumber) :
      Names line ⟨.changeset, digits⟩ before.length (before.length + 2 + digits.length)
  | profile {trailer : Trailer} {token : UsernameToken} (ht : Trailer.ofLine? line = some trailer)
      (hk : trailer.kind = .props ∨ trailer.kind = .reviewedBy)
      (hc : ∃ c, trailer.content.head? = some c ∧ isUsernameChar c = true)
      (hm : token ∈ trailer.usernames) (hv : isUsername token.text = true) :
      Names line ⟨.profile, token.text⟩ token.column token.columnEnd

/-- The first place where the line names the reference. -/
def FirstNames (line : Text) (r : Reference) (start stop : Nat) : Prop :=
  Names line r start stop ∧ ∀ start' stop', Names line r start' stop' → start ≤ start'

theorem ticket?_eq_some_iff : ticket? t = some digits ↔ digits.IsNumber ∧
    ∃ after, t = '#' :: (digits ++ after) ∧
      ∀ c ∈ after.head?, isDigit c = false ∧ isWord c = false := by
  constructor
  · intro h
    unfold ticket? at h
    split at h
    · next rest =>
      dsimp only at h
      split at h
      · cases h
      · next hok =>
        cases h
        obtain ⟨hne, hword⟩ : rest.takeWhile isDigit ≠ [] ∧
            ∀ c ∈ (rest.dropWhile isDigit).head?, isWord c = false := by
          simpa [Option.any_eq_false] using hok
        refine ⟨⟨hne, fun c hc => List.mem_takeWhile_imp hc⟩, rest.dropWhile isDigit, ?_, ?_⟩
        · rw [List.takeWhile_append_dropWhile]
        · intro c hc
          exact ⟨Text.not_of_head?_dropWhile hc, hword c hc⟩
    · cases h
  · rintro ⟨⟨hne, hall⟩, after, rfl, hafter⟩
    obtain ⟨htake, hdrop⟩ := Text.takeWhile_append_of_head? hall fun c hc => (hafter c hc).1
    have hword : after.head?.any isWord = false := by
      cases h : after.head? with
      | none => rfl
      | some c => exact (hafter c h).2
    simp [ticket?, htake, hdrop, hne, hword]

theorem changeset?_eq_some_iff : changeset? t = some digits ↔ digits.IsNumber ∧
    ∃ after, t = '[' :: (digits ++ ']' :: after) := by
  constructor
  · intro h
    unfold changeset? at h
    split at h
    · next rest =>
      dsimp only at h
      split at h
      · cases h
      · next hok =>
        cases h
        obtain ⟨hne, hclose⟩ : rest.takeWhile isDigit ≠ [] ∧
            (rest.dropWhile isDigit).head? = some ']' := by simpa using hok
        obtain ⟨after, hafter⟩ := List.head?_eq_some_iff.mp hclose
        refine ⟨⟨hne, fun c hc => List.mem_takeWhile_imp hc⟩, after, ?_⟩
        rw [← hafter, List.takeWhile_append_dropWhile]
    · cases h
  · rintro ⟨⟨hne, hall⟩, after, rfl⟩
    exact Lint.changeset?_append hne hall

/-! One kind on one line -/

theorem mem_scan_iff_append {read? : Text → Option Text} {column : Nat}
    (hr : read? [] = none) : (column, digits) ∈ scan read? 0 line ↔
      ∃ before rest, line = before ++ rest ∧ before.length = column ∧ read? rest = some digits := by
  rw [mem_scan]
  constructor
  · rintro ⟨i, hi, hc, hd⟩
    refine ⟨line.take i, line.drop i, (List.take_append_drop i line).symm, ?_, hd⟩
    rw [List.length_take]
    omega
  · rintro ⟨before, rest, rfl, hc, hd⟩
    have hrest : rest ≠ [] := by
      rintro rfl
      rw [hr] at hd
      cases hd
    have hpos := List.length_pos_of_ne_nil hrest
    refine ⟨before.length, ?_, by omega, by rwa [List.drop_left]⟩
    rw [List.length_append]
    omega

/-- What is found of one kind on a line is what the line names of that kind. -/
theorem mem_ofKind_iff : o ∈ ofKind kind number line ↔ o.line = number ∧
    o.reference.kind = kind ∧ Names line o.reference o.columnStart o.columnEnd := by
  obtain ⟨place, start, stop, ⟨kind', identifier⟩⟩ := o
  dsimp only
  constructor
  · intro h
    obtain rfl : kind' = kind := kind_of_mem_ofKind h
    cases kind' with
    | ticket =>
      obtain ⟨⟨column, digits⟩, hf, he⟩ := List.mem_map.mp h
      cases he
      obtain ⟨before, rest, hl, rfl, hd⟩ := (mem_scan_iff_append rfl).mp hf
      obtain ⟨hn, after, rfl, hafter⟩ := ticket?_eq_some_iff.mp hd
      exact ⟨rfl, rfl, .ticket hl hn hafter⟩
    | changeset =>
      obtain ⟨⟨column, digits⟩, hf, he⟩ := List.mem_map.mp h
      cases he
      obtain ⟨before, rest, hl, rfl, hd⟩ := (mem_scan_iff_append rfl).mp hf
      obtain ⟨hn, after, rfl⟩ := changeset?_eq_some_iff.mp hd
      exact ⟨rfl, rfl, .changeset hl hn⟩
    | profile =>
      rw [ofKind, profiles] at h
      split at h
      · next trailer ht =>
        split at h
        · next hlist =>
          obtain ⟨token, hm, he⟩ := List.mem_map.mp h
          cases he
          obtain ⟨hm, hv⟩ := List.mem_filter.mp hm
          obtain ⟨hk, hc⟩ := Bool.and_eq_true_iff.mp hlist
          refine ⟨rfl, rfl, .profile ht ?_ ((Option.any_eq_true _ _).mp hc) hm hv⟩
          cases hkind : trailer.kind <;> simp_all [Trailer.Kind.listsUsernames]
        · cases h
      · cases h
  · rintro ⟨rfl, rfl, h⟩
    cases h with
    | @ticket before digits after hl hn hafter =>
      refine List.mem_map.mpr ⟨(before.length, identifier), ?_, rfl⟩
      refine (mem_scan_iff_append rfl).mpr ⟨before, _, hl, rfl, ?_⟩
      exact ticket?_eq_some_iff.mpr ⟨hn, after, rfl, hafter⟩
    | @changeset before digits after hl hn =>
      refine List.mem_map.mpr ⟨(before.length, identifier), ?_, rfl⟩
      refine (mem_scan_iff_append rfl).mpr ⟨before, _, hl, rfl, ?_⟩
      exact changeset?_eq_some_iff.mpr ⟨hn, after, rfl⟩
    | @profile trailer token ht hk hc hm hv =>
      have hlist : (trailer.kind.listsUsernames &&
          Trailer.startsUsernameList trailer.content) = true := by
        refine Bool.and_eq_true_iff.mpr ⟨?_, (Option.any_eq_true _ _).mpr hc⟩
        rcases hk with hk | hk <;> rw [hk] <;> rfl
      simp only [ofKind, profiles, ht, hlist, if_true]
      exact List.mem_map.mpr ⟨token, List.mem_filter.mpr ⟨hm, hv⟩, rfl⟩

/-! The first of each -/

theorem mem_distinct_iff {seen : List Reference} {l : List Occurrence} :
    o ∈ distinct seen l ↔ o.reference ∉ seen ∧ ∃ earlier later, l = earlier ++ o :: later ∧
      ∀ p ∈ earlier, p.reference ≠ o.reference := by
  induction l generalizing seen with
  | nil => simp [distinct]
  | cons p l ih =>
    have hsplit : (∃ earlier later, p :: l = earlier ++ o :: later ∧
        ∀ q ∈ earlier, q.reference ≠ o.reference) ↔ p = o ∨ p.reference ≠ o.reference ∧
          ∃ earlier later, l = earlier ++ o :: later ∧
            ∀ q ∈ earlier, q.reference ≠ o.reference := by
      constructor
      · rintro ⟨earlier, later, he, hne⟩
        cases earlier with
        | nil => exact .inl (List.cons.inj he).1
        | cons q earlier =>
          obtain ⟨rfl, rfl⟩ := List.cons.inj he
          exact .inr ⟨hne p List.mem_cons_self, earlier, later, rfl,
            fun q hq => hne q (List.mem_cons_of_mem _ hq)⟩
      · rintro (rfl | ⟨hp, earlier, later, rfl, hne⟩)
        · exact ⟨[], l, rfl, fun _ hq => absurd hq List.not_mem_nil⟩
        · exact ⟨p :: earlier, later, rfl, List.forall_mem_cons.mpr ⟨hp, hne⟩⟩
    rw [hsplit, distinct]
    by_cases hp : p.reference ∈ seen
    · rw [if_pos hp, ih]
      constructor
      · rintro ⟨hn, he⟩
        exact ⟨hn, .inr ⟨fun h => hn (h ▸ hp), he⟩⟩
      · rintro ⟨hn, rfl | ⟨-, he⟩⟩
        · exact absurd hp hn
        · exact ⟨hn, he⟩
    · rw [if_neg hp, List.mem_cons, ih, List.mem_cons, not_or]
      constructor
      · rintro (rfl | ⟨⟨hne, hn⟩, he⟩)
        · exact ⟨hp, .inl rfl⟩
        · exact ⟨hn, .inr ⟨Ne.symm hne, he⟩⟩
      · rintro ⟨hn, rfl | ⟨hne, he⟩⟩
        · exact .inl rfl
        · exact .inr ⟨⟨Ne.symm hne, hn⟩, he⟩

theorem mem_ofLine_iff : o ∈ ofLine number line ↔
    o.line = number ∧ FirstNames line o.reference o.columnStart o.columnEnd := by
  have hkind : o ∈ ofLine number line ↔
      o ∈ distinct [] (ofKind o.reference.kind number line) := by
    rw [← filter_ofLine, List.mem_filter]
    simp
  have hin := (inLine_ofKind o.reference.kind number line).increasing
  rw [hkind, mem_distinct_iff]
  constructor
  · rintro ⟨-, earlier, later, he, hne⟩
    obtain ⟨hline, -, hnames⟩ := mem_ofKind_iff.mp (he ▸ List.mem_append_right earlier
      List.mem_cons_self : o ∈ ofKind o.reference.kind number line)
    refine ⟨hline, hnames, fun start' stop' h => ?_⟩
    have hm : (⟨number, start', stop', o.reference⟩ : Occurrence) ∈
        ofKind o.reference.kind number line := mem_ofKind_iff.mpr ⟨rfl, rfl, h⟩
    rw [he] at hm hin
    rcases List.mem_append.mp hm with hm | hm
    · exact (hne _ hm rfl).elim
    · rcases List.mem_cons.mp hm with heq | hm
      · rw [← heq]
      · have hlater := (List.pairwise_append.mp hin).2.1
        exact ((List.pairwise_cons.mp hlater).1 _ hm).le
  · rintro ⟨hline, hnames, hfirst⟩
    have hm : o ∈ ofKind o.reference.kind number line := mem_ofKind_iff.mpr ⟨hline, rfl, hnames⟩
    obtain ⟨earlier, later, he⟩ := List.append_of_mem hm
    refine ⟨List.not_mem_nil, earlier, later, he, fun p hp heq => ?_⟩
    have hpm : p ∈ ofKind o.reference.kind number line := by
      rw [he]
      exact List.mem_append_left _ hp
    obtain ⟨-, -, hpnames⟩ := mem_ofKind_iff.mp hpm
    rw [heq] at hpnames
    rw [he] at hin
    have hlt := (List.pairwise_append.mp hin).2.2 p hp o List.mem_cons_self
    have hle := hfirst _ _ hpnames
    omega

theorem mem_ofLines_iff {lines : List Text} : o ∈ ofLines lines ↔ ∃ line,
    lines[o.line]? = some line ∧ FirstNames line o.reference o.columnStart o.columnEnd := by
  rw [ofLines_eq, List.mem_mergeSort, List.mem_flatMap]
  constructor
  · rintro ⟨⟨line, number⟩, hm, ho⟩
    obtain ⟨rfl, hfirst⟩ := mem_ofLine_iff.mp ho
    exact ⟨line, List.mem_zipIdx_iff_getElem?.mp hm, hfirst⟩
  · rintro ⟨line, hl, hfirst⟩
    exact ⟨(line, o.line), List.mem_zipIdx_iff_getElem?.mpr hl, mem_ofLine_iff.mpr ⟨rfl, hfirst⟩⟩

/-! Places -/

/-- The characters of a reference of one kind. -/
def isInner (kind : Reference.Kind) (c : Char) : Bool :=
  match kind with
  | .ticket => c == '#' || isDigit c
  | .changeset => c == '[' || c == ']' || isDigit c
  | .profile => isUsernameChar c

theorem isBlank_of_isInner {c : Char} (h : isInner kind c = true) :
    isBlank c = false ∧ c ≠ ',' := by
  have hdigit (hc : isDigit c = true) : isBlank c = false ∧ c ≠ ',' := by
    constructor
    · by_contra hb
      rw [isDigit_of_isBlank (by simpa using hb)] at hc
      cases hc
    · rintro rfl
      exact absurd hc (by decide)
  cases kind with
  | ticket =>
    rcases Bool.or_eq_true_iff.mp h with hc | hc
    · rw [eq_of_beq hc]
      decide
    · exact hdigit hc
  | changeset =>
    rcases Bool.or_eq_true_iff.mp h with hc | hc
    · rcases Bool.or_eq_true_iff.mp hc with hc | hc <;> rw [eq_of_beq hc] <;> decide
    · exact hdigit hc
  | profile => exact ⟨isBlank_of_isUsernameChar h, ne_comma_of_isUsernameChar h⟩

theorem Names.stop_eq (h : Names line r start stop) : stop = start + r.identifier.length +
    match r.kind with
    | .ticket => 1
    | .changeset => 2
    | .profile => 0 := by
  cases h with
  | ticket => dsimp only; omega
  | changeset => dsimp only; omega
  | profile => rfl

theorem Names.start_lt (h : Names line r start stop) : start < stop := by
  cases h with
  | ticket => omega
  | changeset => omega
  | @profile trailer token ht hk hc hm hv =>
    have hpos : 0 < token.text.length := by
      refine List.length_pos_of_ne_nil ?_
      rintro he
      simp [isUsername, he] at hv
    rw [UsernameToken.columnEnd]
    omega

/-- What stands within the place of a reference, and what stands after its first character. -/
theorem Names.inside (h : Names t r start stop) {i : Nat} (hi : start ≤ i) (hs : i < stop) :
    ∃ c, t[i]? = some c ∧ isInner r.kind c = true ∧ (start < i → c ≠ '#' ∧ c ≠ '[') := by
  have hdigits {digits : Text} (hd : digits.IsNumber) {k : Nat} (hk : k < digits.length) :
      isDigit digits[k] = true ∧ digits[k] ≠ '#' ∧ digits[k] ≠ '[' := by
    have hc := hd.2 _ (List.getElem_mem hk)
    refine ⟨hc, ?_, ?_⟩
    · intro he
      rw [he] at hc
      exact absurd hc (by decide)
    · intro he
      rw [he] at hc
      exact absurd hc (by decide)
  cases h with
  | @ticket before digits after hl hd ha =>
    obtain ⟨k, rfl⟩ := Nat.exists_eq_add_of_le hi
    rw [hl, List.getElem?_append_right (Nat.le_add_right _ _), Nat.add_sub_cancel_left]
    cases k with
    | zero => exact ⟨'#', rfl, rfl, fun hlt => absurd hlt (lt_irrefl _)⟩
    | succ k =>
      have hk : k < digits.length := by omega
      obtain ⟨hc, hne⟩ := hdigits hd hk
      refine ⟨digits[k], ?_, by simp [isInner, hc], fun _ => hne⟩
      rw [List.getElem?_cons_succ, List.getElem?_append_left hk, List.getElem?_eq_getElem hk]
  | @changeset before digits after hl hd =>
    obtain ⟨k, rfl⟩ := Nat.exists_eq_add_of_le hi
    rw [hl, List.getElem?_append_right (Nat.le_add_right _ _), Nat.add_sub_cancel_left]
    cases k with
    | zero => exact ⟨'[', rfl, rfl, fun hlt => absurd hlt (lt_irrefl _)⟩
    | succ k =>
      by_cases hk : k < digits.length
      · obtain ⟨hc, hne⟩ := hdigits hd hk
        refine ⟨digits[k], ?_, by simp [isInner, hc], fun _ => hne⟩
        rw [List.getElem?_cons_succ, List.getElem?_append_left hk, List.getElem?_eq_getElem hk]
      · obtain rfl : k = digits.length := by omega
        refine ⟨']', ?_, rfl, fun _ => by decide⟩
        simp
  | @profile trailer token ht hk hc hm hv =>
    obtain ⟨before, after, hl, hcolumn⟩ := Trailer.usernames_at ht hm
    obtain ⟨k, rfl⟩ := Nat.exists_eq_add_of_le hi
    have hlt : k < token.text.length := by
      rw [UsernameToken.columnEnd] at hs
      omega
    have hchar : isUsernameChar token.text[k] = true := by
      simp only [isUsername, Bool.and_eq_true, List.all_eq_true] at hv
      exact hv.2 _ (List.getElem_mem hlt)
    refine ⟨token.text[k], ?_, hchar, fun _ => ⟨?_, ?_⟩⟩
    · rw [hl, List.append_assoc, ← hcolumn, List.getElem?_append_right (Nat.le_add_right _ _),
        Nat.add_sub_cancel_left, List.getElem?_append_left hlt, List.getElem?_eq_getElem hlt]
    · intro he
      rw [he] at hchar
      exact absurd hchar (by decide)
    · intro he
      rw [he] at hchar
      exact absurd hchar (by decide)

/-- A reference begins with the sign of its kind, or else right after a blank or a comma. -/
theorem Names.begins (h : Names t r start stop) : t[start]? = some '#' ∨
    t[start]? = some '[' ∨
    ∃ c i, start = i + 1 ∧ t[i]? = some c ∧ (isBlank c = true ∨ c = ',') := by
  cases h with
  | @ticket before digits after hl => simp [hl]
  | @changeset before digits after hl => simp [hl]
  | @profile trailer token ht hk hc hm hv =>
    obtain ⟨before, c, after, hl, hcolumn, hsep⟩ := Trailer.exists_before_username ht hm
    refine .inr (.inr ⟨c, before.length, hcolumn.symm, ?_, hsep⟩)
    simp [hl]

/-- A place that begins later begins after the end: what opens it stands in no other. -/
theorem Names.disjoint (h : Names line r start stop) (h' : Names line r' start' stop')
    (hlt : start < start') : stop ≤ start' := by
  by_contra hstop
  obtain ⟨c, hc, -, hne⟩ := h.inside hlt.le (by omega)
  obtain ⟨hsharp, hbracket⟩ := hne hlt
  rcases h'.begins with hb | hb | ⟨d, i, rfl, hd, hsep⟩
  · rw [hb] at hc
    exact hsharp (Option.some.inj hc).symm
  · rw [hb] at hc
    exact hbracket (Option.some.inj hc).symm
  · obtain ⟨e, he, hinner, -⟩ := h.inside (Nat.le_of_lt_succ hlt) (i := i) (by omega)
    obtain rfl := Option.some.inj (hd.symm.trans he)
    obtain ⟨hblank, hcomma⟩ := isBlank_of_isInner hinner
    rcases hsep with hb | hb
    · rw [hblank] at hb
      cases hb
    · exact hcomma hb

theorem FirstNames.unique (h : FirstNames line r start stop) (h' : FirstNames line r start' stop') :
    start = start' ∧ stop = stop' := by
  have hstart : start = start' := Nat.le_antisymm (h.2 _ _ h'.1) (h'.2 _ _ h.1)
  exact ⟨hstart, by rw [h.1.stop_eq, h'.1.stop_eq, hstart]⟩

theorem exists_firstNames (h : Names line r start stop) :
    ∃ start stop, FirstNames line r start stop := by
  classical
  have hex : ∃ start, ∃ stop, Names line r start stop := ⟨start, stop, h⟩
  obtain ⟨first, hfirst⟩ := Nat.find_spec hex
  exact ⟨Nat.find hex, first, hfirst, fun start' stop' h' => Nat.find_min' hex ⟨stop', h'⟩⟩

/-- A message has just the references that its lines name: each once for a line, where the line
names it first. They stand in the order of the text, and no two places on a line overlap. -/
theorem ofLines_finds (lines : List Text) :
    (∀ o, o ∈ ofLines lines ↔ ∃ line, lines[o.line]? = some line ∧
      FirstNames line o.reference o.columnStart o.columnEnd) ∧
    (∀ number line r, lines[number]? = some line → (∃ start stop, Names line r start stop) →
      ∃ start stop, FirstNames line r start stop ∧
        (ofLines lines).filter (fun o => o.line == number && o.reference == r) =
          [⟨number, start, stop, r⟩]) ∧
    (ofLines lines).Pairwise (fun o p => o.line < p.line ∨
      o.line = p.line ∧ o.columnStart < p.columnStart ∧ o.columnEnd ≤ p.columnStart) ∧
    ∀ o ∈ ofLines lines, o.columnStart < o.columnEnd := by
  have hordered := pairwise_ofLines lines
  refine ⟨fun o => mem_ofLines_iff, fun number line r hl hnamed => ?_, ?_, fun o ho => ?_⟩
  · obtain ⟨_, _, hnames⟩ := hnamed
    obtain ⟨start, stop, hfirst⟩ := exists_firstNames hnames
    refine ⟨start, stop, hfirst, ?_⟩
    have hm : (⟨number, start, stop, r⟩ : Occurrence) ∈
        (ofLines lines).filter (fun o => o.line == number && o.reference == r) := by
      refine List.mem_filter.mpr ⟨mem_ofLines_iff.mpr ⟨line, hl, hfirst⟩, ?_⟩
      simp
    have hall : ∀ o ∈ (ofLines lines).filter (fun o => o.line == number && o.reference == r),
        o = ⟨number, start, stop, r⟩ := by
      rintro ⟨number', start', stop', r'⟩ ho
      obtain ⟨hin, hp⟩ := List.mem_filter.mp ho
      obtain ⟨rfl, rfl⟩ : number' = number ∧ r' = r := by simpa using hp
      obtain ⟨line', hl', hfirst'⟩ := mem_ofLines_iff.mp hin
      obtain rfl := Option.some.inj (hl.symm.trans hl')
      obtain ⟨rfl, rfl⟩ := hfirst.unique hfirst'
      rfl
    have hnodup : ((ofLines lines).filter
        (fun o => o.line == number && o.reference == r)).Nodup := by
      refine List.Nodup.filter _ (hordered.imp fun {o p} hop heq => ?_)
      rw [heq] at hop
      unfold Before at hop
      omega
    rw [List.eq_replicate_of_mem hall] at hm hnodup ⊢
    have hlength := List.nodup_replicate.mp hnodup
    have hpos := List.length_pos_of_mem hm
    rw [List.length_replicate] at hpos
    obtain hone : ((ofLines lines).filter
      (fun o => o.line == number && o.reference == r)).length = 1 := by omega
    rw [hone]
    rfl
  · refine List.Pairwise.imp_of_mem (fun {o p} ho hp hop => ?_) hordered
    refine hop.imp_right fun ⟨hline, hlt⟩ => ⟨hline, hlt, ?_⟩
    obtain ⟨line, hl, hfirst⟩ := mem_ofLines_iff.mp ho
    obtain ⟨line', hl', hfirst'⟩ := mem_ofLines_iff.mp hp
    rw [← hline, hl] at hl'
    cases hl'
    exact hfirst.1.disjoint hfirst'.1 hlt
  · obtain ⟨line, -, hfirst⟩ := mem_ofLines_iff.mp ho
    exact hfirst.1.start_lt

/-- A ticket that a line names again further on. -/
theorem ofLines_finds_repeated :
    let line := "See #12, [7], #12.".toList
    let ticket : Reference := ⟨.ticket, ['1', '2']⟩
    Names line ticket 14 17 ∧ FirstNames line ticket 4 7 ∧
      (ofLines [line]).filter (fun o => o.line == 0 && o.reference == ticket) =
        [⟨0, 4, 7, ticket⟩] := by
  intro line ticket
  have hagain : Names line ticket 14 17 := by
    refine @Names.ticket line "See #12, [7], ".toList ['1', '2'] ['.'] rfl ⟨nofun, ?_⟩ ?_
    · simp only [List.forall_mem_cons, List.not_mem_nil, false_implies, implies_true]
      decide
    · intro c hc
      obtain rfl := Option.some.inj hc
      decide +kernel
  obtain ⟨start, stop, hfirst, hone⟩ :=
    (ofLines_finds [line]).2.1 0 line ticket rfl ⟨14, 17, hagain⟩
  have hm : (⟨0, 4, 7, ticket⟩ : Occurrence) ∈
      (ofLines [line]).filter (fun o => o.line == 0 && o.reference == ticket) :=
    List.mem_filter.mpr ⟨List.mem_mergeSort.mpr (by decide +kernel), rfl⟩
  rw [hone] at hm
  obtain ⟨rfl, rfl⟩ : 4 = start ∧ 7 = stop := by simpa using hm
  exact ⟨hagain, hfirst, hone⟩

end CommitMessage.Occurrence
