import CommitMessage.Proofs.Message.LineEnds
import Mathlib

/-! How a message is to be laid out. The rules about neighbouring lines and about the order of the
trailers are put as properties of the lines, and a message that keeps to the layout has them all. -/

namespace CommitMessage

namespace Lint

variable {lines : List Text} {number : Nat}

/-! Neighbouring lines -/

/-- Of two blank lines together the second is found, and no other line is. -/
theorem blankRuns_eq_nil_iff {run : Nat} (hrun : run ≤ 1) : blankRuns number run lines = [] ↔
    (∀ line ∈ lines.head?, run = 1 → line.isAllBlank = false) ∧
      lines.IsChain fun line next => line.isAllBlank = true → next.isAllBlank = false := by
  induction lines generalizing number run with
  | nil => simp [blankRuns]
  | cons line lines ih =>
    rw [List.isChain_cons]
    cases hb : line.isAllBlank with
    | false => simp [blankRuns, hb, ih]
    | true =>
      by_cases hone : run = 1
      · simp [blankRuns, hb, hone]
      · obtain rfl : run = 0 := by omega
        simp [blankRuns, hb, ih]

theorem beforeSections_eq_nil_iff : beforeSections number lines = [] ↔
    lines.IsChain fun line next => isTrailer next = true → isBody line = false := by
  induction lines generalizing number with
  | nil => simp [beforeSections]
  | cons line lines ih =>
    cases lines with
    | nil => simp [beforeSections]
    | cons next lines =>
      rw [beforeSections, List.append_eq_nil_iff, ih, List.isChain_cons_cons]
      refine and_congr_left fun _ => ?_
      cases ht : Trailer.ofLine? next with
      | none => simp [isTrailer, ht]
      | some trailer => simp [isTrailer, ht]

/-! The order of the trailers -/

def kinds (lines : List Text) : List Trailer.Kind :=
  lines.filterMap fun line => (Trailer.ofLine? line).map (·.kind)

theorem map_trailerLines (lines : List Text) :
    (trailerLines lines).map (·.trailer.kind) = kinds lines := by
  have hfrom (start : Nat) : ((lines.zipIdx start).filterMap fun entry =>
      (Trailer.ofLine? entry.1).map fun trailer =>
        (⟨entry.2, entry.1, trailer⟩ : TrailerLine)).map (·.trailer.kind) = kinds lines := by
    induction lines generalizing start with
    | nil => rfl
    | cons line lines ih =>
      cases ht : Trailer.ofLine? line with
      | none => simpa [kinds, ht] using ih (start + 1)
      | some trailer => simpa [kinds, ht] using ih (start + 1)
  exact hfrom 0

theorem orderFindings_eq_nil_iff {highest : Nat} {tickets : Bool} {trailers : List TrailerLine} :
    orderFindings highest tickets trailers = [] ↔
      (highest :: trailers.map (·.trailer.kind.order)).IsChain (· ≤ ·) ∧
        trailers.countP (·.trailer.kind.isTicketReference) + tickets.toNat ≤ 1 := by
  induction trailers generalizing highest tickets with
  | nil =>
    cases tickets <;> simp [orderFindings]
  | cons t trailers ih =>
    rw [orderFindings, List.map_cons, List.isChain_cons_cons, List.countP_cons]
    by_cases horder : t.trailer.kind.order < highest
    · simp [horder, Nat.not_le.mpr horder]
    · have hle := Nat.not_lt.mp horder
      rw [List.append_eq_nil_iff, ih, Nat.max_eq_right hle]
      cases hk : t.trailer.kind.isTicketReference <;> cases tickets <;> simp [horder, hle]

/-! Blocks -/

/-- Blocks of lines one after the other, with one blank line between each and the next. -/
inductive SetApart : List (List Text) → List Text → Prop where
  | last (block : List Text) : SetApart [block] block
  | cons {block lines : List Text} {blank : Text} {blocks : List (List Text)}
      (hb : blank.isAllBlank = true) (h : SetApart blocks lines) :
      SetApart (block :: blocks) (block ++ blank :: lines)

namespace SetApart

variable {blocks : List (List Text)}

theorem exists_of_mem_head? (h : SetApart blocks lines) (hn : ∀ block ∈ blocks, block ≠ [])
    {line : Text} (hl : line ∈ lines.head?) : ∃ block ∈ blocks, line ∈ block := by
  cases h with
  | last => exact ⟨lines, List.mem_cons_self, List.mem_of_mem_head? hl⟩
  | @cons block lines blank blocks hb h =>
    obtain ⟨first, rest, rfl⟩ := List.exists_cons_of_ne_nil (hn block List.mem_cons_self)
    obtain rfl : first = line := Option.some.inj hl
    exact ⟨first :: rest, List.mem_cons_self, List.mem_cons_self⟩

theorem isChain {r : Text → Text → Prop} (h : SetApart blocks lines)
    (hblock : ∀ block ∈ blocks, block.IsChain r)
    (hblank : ∀ block ∈ blocks, ∀ line ∈ block, ∀ blank, blank.isAllBlank = true →
      r line blank ∧ r blank line) (hn : ∀ block ∈ blocks, block ≠ []) : lines.IsChain r := by
  induction h with
  | last block => exact hblock block List.mem_cons_self
  | @cons block lines blank blocks hb h ih =>
    have hrest := ih (fun block hm => hblock block (List.mem_cons_of_mem _ hm))
      (fun block hm => hblank block (List.mem_cons_of_mem _ hm))
      (fun block hm => hn block (List.mem_cons_of_mem _ hm))
    have hhead {line : Text} (hl : line ∈ lines.head?) :=
      h.exists_of_mem_head? (fun block hm => hn block (List.mem_cons_of_mem _ hm)) hl
    refine List.isChain_append.mpr ⟨hblock block List.mem_cons_self,
      List.isChain_cons.mpr ⟨fun line hl => ?_, hrest⟩,
      fun line hl next hnext => ?_⟩
    · obtain ⟨other, hm, hl⟩ := hhead hl
      exact (hblank other (List.mem_cons_of_mem _ hm) line hl blank hb).2
    · obtain rfl : blank = next := Option.some.inj hnext
      exact (hblank block List.mem_cons_self line (List.mem_of_mem_getLast? hl) blank hb).1

theorem of_summary {summary : Text} (h : SetApart ([summary] :: blocks) lines) :
    lines = [summary] ∨ ∃ blank rest, blank.isAllBlank = true ∧ lines = summary :: blank :: rest := by
  cases h with
  | last => exact .inl rfl
  | cons hb h => exact .inr ⟨_, _, hb, rfl⟩

theorem filterMap {α : Type} {f : Text → Option α} (h : SetApart blocks lines)
    (hf : ∀ blank : Text, blank.isAllBlank = true → f blank = none) :
    lines.filterMap f = blocks.flatten.filterMap f := by
  induction h with
  | last block => simp
  | cons hb h ih => simp [hf _ hb, ih]

theorem mem (h : SetApart blocks lines) {line : Text} (hl : line ∈ lines) :
    line.isAllBlank = true ∨ ∃ block ∈ blocks, line ∈ block := by
  induction h with
  | last block => exact .inr ⟨block, List.mem_cons_self, hl⟩
  | @cons block lines blank blocks hb h ih =>
    rcases List.mem_append.mp hl with hl | hl
    · exact .inr ⟨block, List.mem_cons_self, hl⟩
    · rcases List.mem_cons.mp hl with rfl | hl
      · exact .inl hb
      · obtain hl | ⟨other, hm, hl⟩ := ih hl
        · exact .inl hl
        · exact .inr ⟨other, List.mem_cons_of_mem _ hm, hl⟩

end SetApart

/-- The parts of a message: the summary, the paragraphs of the body, and the trailers, with blank
lines between some of them. -/
structure Draft where
  summary : Text
  paragraphs : List (List Text)
  groups : List (List (Trailer.Kind × Text))

namespace Draft

def blocks (d : Draft) : List (List Text) :=
  [d.summary] :: (d.paragraphs ++ d.groups.map (·.map (·.2)))

def trailers (d : Draft) : List (Trailer.Kind × Text) := d.groups.flatten

structure IsWellFormed (d : Draft) : Prop where
  summary : IsSummary d.summary
  body : ∀ paragraph ∈ d.paragraphs, paragraph ≠ [] ∧ ∀ line ∈ paragraph, isBody line = true
  groups : ∀ group ∈ d.groups, group ≠ []
  written : ∀ trailer ∈ d.trailers, Trailer.IsWritten trailer.1 trailer.2
  inOrder : (d.trailers.map (·.1.order)).Pairwise (· ≤ ·)
  tickets : d.trailers.countP (·.1.isTicketReference) ≤ 1

variable {d : Draft}

theorem IsWellFormed.cases (h : d.IsWellFormed) {block : List Text} (hm : block ∈ d.blocks) :
    block = [d.summary] ∨ block ∈ d.paragraphs ∨
      block ≠ [] ∧ ∀ line ∈ block, ∃ kind, (kind, line) ∈ d.trailers := by
  rcases List.mem_cons.mp hm with rfl | hm
  · exact .inl rfl
  · rcases List.mem_append.mp hm with hm | hm
    · exact .inr (.inl hm)
    · obtain ⟨group, hg, rfl⟩ := List.mem_map.mp hm
      refine .inr (.inr ⟨by simpa using h.groups group hg, fun line hl => ?_⟩)
      obtain ⟨entry, he, rfl⟩ := List.mem_map.mp hl
      exact ⟨entry.1, List.mem_flatten.mpr ⟨group, hg, he⟩⟩

theorem IsWellFormed.ne_nil (h : d.IsWellFormed) {block : List Text} (hm : block ∈ d.blocks) :
    block ≠ [] := by
  obtain rfl | hm | ⟨hn, -⟩ := h.cases hm
  · exact List.cons_ne_nil _ _
  · exact (h.body block hm).1
  · exact hn

theorem IsWellFormed.isTrailer (h : d.IsWellFormed) {kind : Trailer.Kind} {line : Text}
    (hm : (kind, line) ∈ d.trailers) : isTrailer line = true := by
  obtain ⟨trailer, ht, -⟩ := (h.written _ hm).exists_trailer
  rw [Lint.isTrailer, ht, Option.isSome_some]

theorem isAllBlank_of_isTrailer {line : Text} (h : Lint.isTrailer line = true) :
    line.isAllBlank = false := by
  by_contra hb
  rw [Lint.isTrailer, Trailer.ofLine?_of_isAllBlank (by simpa using hb)] at h
  cases h

theorem IsWellFormed.isAllBlank (h : d.IsWellFormed) {block : List Text} (hm : block ∈ d.blocks)
    {line : Text} (hl : line ∈ block) : line.isAllBlank = false := by
  obtain rfl | hm | ⟨-, hm⟩ := h.cases hm
  · rw [List.mem_singleton.mp hl]
    exact h.summary.isAllBlank
  · have hbody := (h.body block hm).2 line hl
    simp_all [isBody]
  · obtain ⟨kind, hm⟩ := hm line hl
    exact isAllBlank_of_isTrailer (h.isTrailer hm)

theorem IsWellFormed.isBody (h : d.IsWellFormed) {block : List Text} (hm : block ∈ d.blocks)
    {line next : Text} (hl : line ∈ block) (hnext : next ∈ block)
    (ht : Lint.isTrailer next = true) : Lint.isBody line = false := by
  obtain rfl | hm | ⟨-, hm⟩ := h.cases hm
  · rw [List.mem_singleton.mp hnext, h.summary.not_trailer] at ht
    cases ht
  · have hbody := (h.body block hm).2 next hnext
    simp_all [Lint.isBody]
  · obtain ⟨kind, hm⟩ := hm line hl
    simp [Lint.isBody, h.isTrailer hm]

theorem IsWellFormed.blankLineFindings (h : d.IsWellFormed) (hs : SetApart d.blocks lines) :
    blankLineFindings lines = [] := by
  have hruns : blankRuns 0 0 lines = [] := by
    refine (blankRuns_eq_nil_iff (Nat.zero_le 1)).mpr ⟨nofun, hs.isChain ?_ ?_ fun _ => h.ne_nil⟩
    · intro block hm
      refine (List.pairwise_of_forall_mem_list fun line hl next hnext _ => ?_).isChain
      exact h.isAllBlank hm hnext
    · intro block hm line hl blank hb
      have hline := h.isAllBlank hm hl
      simp [hline]
  have hsections : beforeSections 0 lines = [] := by
    refine beforeSections_eq_nil_iff.mpr (hs.isChain ?_ ?_ fun _ => h.ne_nil)
    · intro block hm
      refine (List.pairwise_of_forall_mem_list fun line hl next hnext ht => ?_).isChain
      exact h.isBody hm hl hnext ht
    · intro block hm line hl blank hb
      have hblank : Lint.isTrailer blank = false := by
        rw [Lint.isTrailer, Trailer.ofLine?_of_isAllBlank hb, Option.isSome_none]
      simp [Lint.isBody, hb, hblank]
  have hafter : afterSummary lines = [] := by
    obtain rfl | ⟨blank, rest, hb, rfl⟩ := hs.of_summary
    · rfl
    · simp [afterSummary, hb]
  rw [Lint.blankLineFindings, hafter, hruns, hsections]
  rfl

theorem IsWellFormed.kinds (h : d.IsWellFormed) (hs : SetApart d.blocks lines) :
    kinds lines = d.trailers.map (·.1) := by
  have hsummary : Trailer.ofLine? d.summary = none := by
    simpa [Lint.isTrailer] using h.summary.not_trailer
  have hbody : d.paragraphs.flatten.filterMap
      (fun line => (Trailer.ofLine? line).map (·.kind)) = [] := by
    refine List.filterMap_eq_nil_iff.mpr fun line hl => ?_
    obtain ⟨paragraph, hm, hl⟩ := List.mem_flatten.mp hl
    have hline := (h.body paragraph hm).2 line hl
    simp_all [Lint.isBody, Lint.isTrailer]
  have htrailers : (d.trailers.map (·.2)).filterMap
      (fun line => (Trailer.ofLine? line).map (·.kind)) = d.trailers.map (·.1) := by
    rw [List.filterMap_map, ← List.filterMap_eq_map]
    refine List.filterMap_congr fun entry hm => ?_
    obtain ⟨trailer, ht, hk⟩ := (h.written entry hm).exists_trailer
    simp [ht, hk]
  have hgroups : (d.groups.map (·.map (·.2))).flatten = d.trailers.map (·.2) := by
    rw [trailers, List.map_flatten]
  rw [Lint.kinds, hs.filterMap fun blank hb => by rw [Trailer.ofLine?_of_isAllBlank hb, Option.map_none],
    blocks, List.flatten_cons, List.flatten_append, hgroups, List.filterMap_append,
    List.filterMap_append, hbody, htrailers]
  simp [hsummary]

theorem IsWellFormed.sectionFindings (h : d.IsWellFormed) (hs : SetApart d.blocks lines) :
    sectionFindings (trailerLines lines) = [] := by
  have hkinds := (map_trailerLines lines).trans (h.kinds hs)
  have horders : (trailerLines lines).map (·.trailer.kind.order) = d.trailers.map (·.1.order) := by
    simpa [Function.comp_def] using congrArg (List.map Trailer.Kind.order) hkinds
  have hcount : (trailerLines lines).countP (·.trailer.kind.isTicketReference) =
      d.trailers.countP (·.1.isTicketReference) := by
    simpa [List.countP_map, Function.comp_def] using
      congrArg (List.countP Trailer.Kind.isTicketReference) hkinds
  refine orderFindings_eq_nil_iff.mpr ⟨?_, by simpa [hcount] using h.tickets⟩
  rw [horders, List.isChain_iff_pairwise]
  exact List.pairwise_cons.mpr ⟨fun _ _ => Nat.zero_le _, h.inOrder⟩

theorem IsWellFormed.trailerFindings (h : d.IsWellFormed) (hs : SetApart d.blocks lines) :
    (trailerLines lines).flatMap trailerFindings = [] := by
  rw [flatMap_trailerLines, List.flatMap_eq_nil_iff]
  rintro ⟨line, number⟩ hm
  have hl : line ∈ lines := List.fst_mem_of_mem_zipIdx hm
  cases ht : Trailer.ofLine? line with
  | none => simp [lineFindings, ht]
  | some trailer =>
    have hline : Lint.isTrailer line = true := by rw [Lint.isTrailer, ht, Option.isSome_some]
    have hwritten : ∃ kind, Trailer.IsWritten kind line := by
      obtain hb | ⟨block, hm, hl⟩ := hs.mem hl
      · rw [isAllBlank_of_isTrailer hline] at hb
        cases hb
      · obtain rfl | hm | ⟨-, hm⟩ := h.cases hm
        · rw [List.mem_singleton.mp hl, h.summary.not_trailer] at hline
          cases hline
        · have hbody := (h.body block hm).2 line hl
          simp [Lint.isBody, hline] at hbody
        · obtain ⟨kind, hm⟩ := hm line hl
          exact ⟨kind, h.written _ hm⟩
    obtain ⟨kind, hw⟩ := hwritten
    rw [lineFindings, ht]
    exact trailerFindings_eq_nil hw ht

end Draft

/-! Backticks -/

theorem pairwise_backtickFindings (lines : List Text) :
    (backtickFindings lines).Pairwise fun f g => f.precedes g = true := by
  have hnumbers : lines.zipIdx.Pairwise fun a b => a.2 < b.2 := by
    rw [← List.pairwise_map (f := Prod.snd) (R := (· < ·)), List.zipIdx_map_snd]
    exact List.pairwise_lt_range'
  refine List.pairwise_filterMap.mpr (hnumbers.imp ?_)
  intro a b hlt f hf g hg
  obtain ⟨-, rfl⟩ : _ ∧ Finding.onLine a.2 a.1 .unpairedBackticks = f := by simpa using hf
  obtain ⟨-, rfl⟩ : _ ∧ Finding.onLine b.2 b.1 .unpairedBackticks = g := by simpa using hg
  exact Finding.precedes_iff.mpr (.inl hlt)

theorem backtickFindings_eq_nil_iff :
    backtickFindings lines = [] ↔ ∀ line ∈ lines, line.count '`' % 2 = 0 := by
  rw [backtickFindings, List.filterMap_eq_nil_iff]
  constructor
  · intro h line hl
    obtain ⟨number, hn⟩ := List.mem_iff_getElem?.mp hl
    have hnone := h (line, number) (List.mk_mem_zipIdx_iff_getElem?.mpr hn)
    simpa using hnone
  · rintro h ⟨line, number⟩ hm
    have heven := h line (List.fst_mem_of_mem_zipIdx hm)
    simp [heven]

/-- Nothing is found in a well-formed message but its lines with an odd number of backticks. -/
theorem validateText_of_isWellFormed {d : Draft} {t : Text} (h : d.IsWellFormed)
    (hs : SetApart d.blocks t.messageLines) : validateText t = backtickFindings t.messageLines ∧
      (validateText t = [] ↔ ∀ line ∈ t.messageLines, line.count '`' % 2 = 0) := by
  have hsummary : summaryFindings t.messageLines = [] := by
    have hplain : ∀ line ∈ t.messageLines, '\n' ∉ line := fun _ => Text.notMem_of_mem_messageLines
    obtain he | ⟨blank, rest, -, he⟩ := hs.of_summary
    · rw [he] at hplain ⊢
      exact summaryFindings_eq_nil h.summary (hplain _ List.mem_cons_self)
    · rw [he] at hplain ⊢
      exact summaryFindings_eq_nil h.summary (hplain _ List.mem_cons_self)
  have hrules : ruleFindings t.messageLines = backtickFindings t.messageLines := by
    rw [ruleFindings, hsummary, h.sectionFindings hs, h.blankLineFindings hs, h.trailerFindings hs]
    rfl
  have hvalidate : validateText t = backtickFindings t.messageLines := by
    rw [validateText, validate, hrules,
      List.mergeSort_of_pairwise (pairwise_backtickFindings _)]
  exact ⟨hvalidate, hvalidate ▸ backtickFindings_eq_nil_iff⟩

/-- A message with two paragraphs and with a trailer of every kind but See. -/
def fullDraft : Draft where
  summary := "CI/Build 2: Run `lint` twice.".toList
  paragraphs := [["It was off.".toList, "Now it runs.".toList], ["Twice.".toList]]
  groups := [[(.followUp, "Follow-up to [12], [13].".toList),
      (.reviewedBy, "Reviewed by al, b_2 , c.".toList)],
    [(.merges, "Merges [12] to the 6.4 branch.".toList), (.props, "Props al.".toList),
      (.fixes, "Fixes #1, and closes #2.".toList)]]

def fullLines : List Text :=
  ["CI/Build 2: Run `lint` twice.".toList, [], "It was off.".toList, "Now it runs.".toList,
   "  ".toList, "Twice.".toList, [], "Follow-up to [12], [13].".toList,
   "Reviewed by al, b_2 , c.".toList, [], "Merges [12] to the 6.4 branch.".toList,
   "Props al.".toList, "Fixes #1, and closes #2.".toList]

theorem isEntry_of_isUsername {name : Text} (h : isUsername name = true) : IsEntry name :=
  ⟨[], name, [], (List.append_nil name).symm, by simp, by simp, h⟩

theorem written_fullDraft :
    ∀ trailer ∈ fullDraft.trailers, Trailer.IsWritten trailer.1 trailer.2 := by
  have hd : Text.IsNumber "12".toList := ⟨by decide, List.all_eq_true.mp (by decide)⟩
  have hspaced : IsEntry " b_2 ".toList :=
    ⟨[' '], "b_2".toList, [' '], rfl, List.forall_mem_singleton.mpr rfl,
      List.forall_mem_singleton.mpr rfl, by decide⟩
  have hafter : IsEntry " c".toList :=
    ⟨[' '], "c".toList, [], rfl, List.forall_mem_singleton.mpr rfl, List.forall_mem_nil _, by decide⟩
  have hal : IsEntry "al".toList := isEntry_of_isUsername (by decide)
  refine List.forall_mem_cons.mpr ⟨⟨"[12], [13].".toList, rfl, by decide, by decide, ?_⟩,
    List.forall_mem_cons.mpr ⟨⟨"al, b_2 , c.".toList, rfl, by decide, by decide, ?_⟩,
    List.forall_mem_cons.mpr ⟨⟨"[12] to the 6.4 branch.".toList, rfl, by decide, by decide, ?_⟩,
    List.forall_mem_cons.mpr ⟨⟨"al.".toList, rfl, by decide, by decide, ?_⟩,
    List.forall_mem_cons.mpr ⟨⟨"#1, and closes #2.".toList, rfl, by decide, by decide, ?_⟩,
      nofun⟩⟩⟩⟩⟩
  · exact .changeset [] "12".toList ", [13].".toList hd
  · exact .usernames ["al".toList, " b_2 ".toList, " c".toList] rfl (List.cons_ne_nil _ _)
      (List.forall_mem_cons.mpr ⟨hal, List.forall_mem_cons.mpr ⟨hspaced,
        List.forall_mem_cons.mpr ⟨hafter, nofun⟩⟩⟩)
  · exact .merge "12".toList ["6".toList, "4".toList] hd (List.cons_ne_nil _ _)
      (List.forall_mem_cons.mpr ⟨⟨by decide, List.all_eq_true.mp (by decide)⟩,
        List.forall_mem_cons.mpr ⟨⟨by decide, List.all_eq_true.mp (by decide)⟩, nofun⟩⟩)
  · exact .usernames ["al".toList] rfl (List.cons_ne_nil _ _)
      (List.forall_mem_cons.mpr ⟨hal, nofun⟩)
  · exact .ticket [] "1".toList ',' " and closes #2.".toList rfl
      ⟨by decide, List.all_eq_true.mp (by decide)⟩ (by decide)

theorem isWellFormed_fullDraft : fullDraft.IsWellFormed where
  summary := by
    have hd : ("I/Build 2".toList.all fun d =>
        decide (d.isAlphanum = true ∨ d = ' ' ∨ d = '-' ∨ d = '/')) = true := by decide
    exact ⟨⟨'C', "I/Build 2".toList, "Run `lint` twice.".toList, rfl, rfl,
      fun d hm => of_decide_eq_true (List.all_eq_true.mp hd d hm), by decide, by decide⟩,
      by decide, by decide⟩
  body := by decide +kernel
  groups := by decide +kernel
  written := written_fullDraft
  inOrder := by decide +kernel
  tickets := by decide +kernel

theorem setApart_fullLines : SetApart fullDraft.blocks fullLines :=
  .cons rfl (.cons rfl (.cons rfl (.cons rfl (.last _))))

theorem validateText_full : fullDraft.IsWellFormed ∧ SetApart fullDraft.blocks fullLines ∧
    validateText (Text.joinWith ['\n'] fullLines ++ ['\n']) = [] := by
  have hlines : (Text.joinWith ['\n'] fullLines ++ ['\n']).messageLines = fullLines :=
    Text.messageLines_joinWith (List.cons_ne_nil _ _) (by decide +kernel)
  have hiff := (validateText_of_isWellFormed isWellFormed_fullDraft
    (hlines.symm ▸ setApart_fullLines)).2
  refine ⟨isWellFormed_fullDraft, setApart_fullLines, hiff.mpr ?_⟩
  rw [hlines]
  decide +kernel

end Lint

end CommitMessage
