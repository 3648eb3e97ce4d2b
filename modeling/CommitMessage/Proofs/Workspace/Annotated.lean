import CommitMessage.Proofs.Workspace.Start
import CommitMessage.Workspace.Setup

/-! In the end a text shows what the network has for each of its references, each looked up by
itself. How long replies take, how requests are spaced, and which lookups are shared or answered
from the cache makes no difference. -/

namespace CommitMessage

/-- The answer to a reference after the reply from its address. An identifier that is looked up
nowhere is missing. -/
def Reference.answerTo (r : Reference) (reply : Reply) : Option Resolution :=
  if r.isValid then reply.answer r else some (.missing r)

/-- What an occurrence shows after the reply from the address of its reference. -/
def Occurrence.annotation (o : Occurrence) (reply : Reply) : Annotation :=
  { position := o.columnStart
    text := Annotation.textFor o.reference (o.reference.answerTo reply)
    status := Annotation.statusOf (o.reference.answerTo reply)
    reference := o.reference }

def Occurrence.onLine (text : Text) (number : Nat) : List Occurrence :=
  (ofLines text.messageLines).filter (·.line == number)

/-- The lines of a text that have references, each with an annotation for every occurrence. -/
def annotationsOf (text : Text) (replyTo : Reference → Reply) : List (Int × List Annotation) :=
  (List.range text.messageLines.length).filterMap fun number =>
    if Occurrence.onLine text number = [] then none
    else some ((number : Int), (Occurrence.onLine text number).map fun o =>
      o.annotation (replyTo o.reference))

/-- The status that a reply gives to a reference. -/
inductive Rates (r : Reference) : Reply → Annotation.Status → Prop where
  | rejected {reply : Reply} (hr : r.isValid = false) : Rates r reply .invalid
  | found {page : Response} {verdict : Verdict} (hr : r.isValid = true)
      (ht : page.isTransient = false) (hv : Reference.interpret r.kind page = .ok verdict)
      (hf : verdict.found = true) : Rates r (.page page) .valid
  | missing {page : Response} {verdict : Verdict} (hr : r.isValid = true)
      (ht : page.isTransient = false) (hv : Reference.interpret r.kind page = .ok verdict)
      (hf : verdict.found = false) : Rates r (.page page) .invalid
  | transient {page : Response} (hr : r.isValid = true) (ht : page.isTransient = true) :
      Rates r (.page page) .unknown
  | unreadable {page : Response} {problem : Page.Problem} (hr : r.isValid = true)
      (ht : page.isTransient = false) (hv : Reference.interpret r.kind page = .error problem) :
      Rates r (.page page) .unknown
  | timedOut (hr : r.isValid = true) : Rates r .timedOut .unknown
  | failed (hr : r.isValid = true) (reason : Text) : Rates r (.failed reason) .unknown
  | crashed (hr : r.isValid = true) (text : Text) : Rates r (.crashed text) .unknown

theorem rates_statusOf (r : Reference) (reply : Reply) :
    Rates r reply <| Annotation.statusOf (r.answerTo reply) := by
  unfold Reference.answerTo
  cases hr : r.isValid with
  | false => exact .rejected hr
  | true =>
    rw [if_pos rfl]
    cases reply with
    | timedOut => exact .timedOut hr
    | failed reason => exact .failed hr reason
    | crashed text => exact .crashed hr text
    | page page =>
      cases ht : page.isTransient with
      | true =>
        have ha : (Reply.page page).answer r = some (.unverified r) := if_pos ht
        rw [ha]
        exact .transient hr ht
      | false =>
        cases hv : Reference.interpret r.kind page with
        | error problem =>
          have ha : (Reply.page page).answer r = none := by simp [Reply.answer, ht, hv]
          rw [ha]
          exact .unreadable hr ht hv
        | ok verdict =>
          have ha : (Reply.page page).answer r = some (.ofVerdict r verdict) := by
            simp [Reply.answer, ht, hv]
          have hs : Annotation.statusOf (some (.ofVerdict r verdict)) =
            if verdict.found then .valid else .invalid := rfl
          rw [ha, hs]
          cases hf : verdict.found with
          | true => exact .found hr ht hv hf
          | false => exact .missing hr ht hv hf

/-! The lines of a text -/

section

variable {text : Text} {replyTo replyTo' : Reference → Reply} {entry : Int × List Annotation}
  {number : Nat} {o : Occurrence}

theorem Occurrence.mem_onLine :
    o ∈ onLine text number ↔ o ∈ ofLines text.messageLines ∧ o.line = number := by
  rw [onLine, List.mem_filter, beq_iff_eq]

theorem mem_annotationsOf : entry ∈ annotationsOf text replyTo ↔
    ∃ number : Nat, Occurrence.onLine text number ≠ [] ∧
      entry = ((number : Int), (Occurrence.onLine text number).map fun o =>
        o.annotation (replyTo o.reference)) := by
  rw [annotationsOf, List.mem_filterMap]
  constructor
  · rintro ⟨number, -, he⟩
    split at he
    · cases he
    · next hne => exact ⟨number, hne, (Option.some.inj he).symm⟩
  · rintro ⟨number, hne, rfl⟩
    obtain ⟨o, ho⟩ := List.exists_mem_of_ne_nil _ hne
    obtain ⟨ho, hl⟩ := Occurrence.mem_onLine.mp ho
    exact ⟨number, List.mem_range.mpr (hl ▸ Occurrence.line_lt_of_mem_ofLines ho), if_neg hne⟩

theorem pairwise_annotationsOf (text : Text) (replyTo : Reference → Reply) :
    (annotationsOf text replyTo).Pairwise fun a b => a.1 < b.1 := by
  rw [annotationsOf, List.pairwise_filterMap]
  refine List.Pairwise.imp ?_ List.pairwise_lt_range
  intro number number' hlt a ha b hb
  split at ha
  · cases ha
  · split at hb
    · cases hb
    · cases ha
      cases hb
      exact Int.ofNat_lt.mpr hlt

theorem annotationsOf_congr (h : ∀ o ∈ Occurrence.ofLines text.messageLines,
    replyTo o.reference = replyTo' o.reference) :
    annotationsOf text replyTo = annotationsOf text replyTo' := by
  unfold annotationsOf
  refine List.filterMap_congr fun number _ => ?_
  have hmap : (Occurrence.onLine text number).map (fun o => o.annotation (replyTo o.reference)) =
      (Occurrence.onLine text number).map fun o => o.annotation (replyTo' o.reference) :=
    List.map_congr_left fun o ho => by rw [h o (Occurrence.mem_onLine.mp ho).1]
  rw [hmap]

/-- The references on one line stand in the order of their columns. -/
theorem pairwise_onLine (text : Text) (number : Nat) :
    (Occurrence.onLine text number).Pairwise fun o p => o.columnStart < p.columnStart := by
  refine ((Occurrence.pairwise_ofLines _).filter _).imp_of_mem ?_
  intro o p ho hp hop
  have hline : o.line = p.line :=
    (Occurrence.mem_onLine.mp ho).2.trans (Occurrence.mem_onLine.mp hp).2.symm
  rcases hop with hlt | ⟨-, hlt⟩
  · omega
  · exact hlt

theorem pairwise_position (h : entry ∈ annotationsOf text replyTo) :
    entry.2.Pairwise fun a b => a.position < b.position := by
  obtain ⟨number, -, rfl⟩ := mem_annotationsOf.mp h
  exact List.pairwise_map.mpr ((pairwise_onLine text number).imp fun hlt => Int.ofNat_lt.mpr hlt)

theorem rates_of_mem_annotationsOf {a : Annotation} (h : entry ∈ annotationsOf text replyTo)
    (ha : a ∈ entry.2) : Rates a.reference (replyTo a.reference) a.status := by
  obtain ⟨number, -, rfl⟩ := mem_annotationsOf.mp h
  obtain ⟨o, -, rfl⟩ := List.mem_map.mp ha
  exact rates_statusOf _ _

end

namespace Workspace

variable {p : Plan ℚ}

theorem onLine_mentionsIn (text : Text) (number : Nat) :
    Board.onLine (mentionsIn text) number = (Occurrence.onLine text number).map (·.mention) := by
  rw [Board.onLine, mentionsIn, List.filter_map, Occurrence.onLine]
  congr 1
  refine List.filter_congr fun o _ => Bool.eq_iff_iff.mpr ?_
  simp only [Function.comp_apply, Occurrence.mention, beq_iff_eq]
  exact Int.natCast_inj

theorem exists_line_of_onLine_ne_nil {text : Text} {line : Int}
    (h : Board.onLine (mentionsIn text) line ≠ []) : ∃ number : Nat, line = number := by
  obtain ⟨m, hm⟩ := List.exists_mem_of_ne_nil _ h
  obtain ⟨hm, hl⟩ := List.mem_filter.mp hm
  obtain ⟨o, -, rfl⟩ := List.mem_map.mp hm
  exact ⟨o.line, (beq_iff_eq.mp hl).symm⟩

/-- The answer to a lookup of the first pass. -/
def answerOf (p : Plan ℚ) (mentions : List Mention) (q : Board.Query) : Option Resolution :=
  (Board.onLine mentions q.line)[q.place]?.bind fun m => p.answer m.reference

theorem Answers.answerOf_eq {mentions : List Mention} {q : Board.Query} {a : Option Resolution}
    (h : Answers p mentions q a) : answerOf p mentions q = a := by
  obtain ⟨m, hm, rfl⟩ := h
  rw [answerOf, hm, Option.bind_some]

theorem lineAnnotations_eq (p : Plan ℚ) (buffer text : Text) (number : Nat) :
    Board.lineAnnotations (answerOf p (mentionsIn text)) buffer 1 number
        (Board.onLine (mentionsIn text) number) =
      (Occurrence.onLine text number).map fun o =>
        o.annotation (p.network (o.reference.url p.hosts)).reply := by
  have hlist : (Board.onLine (mentionsIn text) number).mapIdx (fun i m => Annotation.ofAnswer m
        (answerOf p (mentionsIn text) ⟨buffer, 1, number, i⟩)) =
      (Occurrence.onLine text number).map fun o =>
        o.annotation (p.network (o.reference.url p.hosts)).reply := by
    refine List.ext_getElem? fun i => ?_
    rw [List.getElem?_mapIdx, List.getElem?_map]
    simp only [answerOf, onLine_mentionsIn, List.getElem?_map]
    cases (Occurrence.onLine text number)[i]? with
    | none => rfl
    | some o => rfl
  rw [Board.lineAnnotations, hlist]
  -- the positions increase already, so there is nothing to sort
  refine List.mergeSort_of_pairwise ?_
  exact List.pairwise_map.mpr ((pairwise_onLine text number).imp fun hlt =>
    Board.precedes_iff.mpr (.inl (Int.ofNat_lt.mpr hlt)))

/-- What a first pass shows when it has come to its end. -/
theorem Going.annotations_eq {buffer text : Text} {w : Workspace ℚ}
    (h : Going p buffer (mentionsIn text) [] (fun _ => False) (fun _ => False) w)
    (hn : w.board.groups = []) :
    w.board.annotations buffer = annotationsOf text fun r => (p.network (r.url p.hosts)).reply := by
  have hfirst : firstPass buffer (mentionsIn text) buffer = some (1, mentionsIn text) := if_pos rfl
  have hboard := h.tracks.annotations_eq hn (fun _ _ => Answers.answerOf_eq) hfirst
  refine hboard.trans (Board.eq_of_lines_increasing ?_ (pairwise_annotationsOf _ _) fun entry => ?_)
  · exact List.pairwise_map.mpr (Board.pairwise_byLine _)
  · rw [mem_annotationsOf, List.mem_map]
    constructor
    · rintro ⟨⟨line, ms⟩, hm, rfl⟩
      obtain ⟨rfl, hne⟩ := Board.mem_byLine.mp hm
      obtain ⟨number, rfl⟩ := exists_line_of_onLine_ne_nil hne
      refine ⟨number, fun hn => hne ?_, Prod.ext rfl (lineAnnotations_eq p buffer text number)⟩
      rw [onLine_mentionsIn, hn, List.map_nil]
    · rintro ⟨number, hne, rfl⟩
      refine ⟨(number, Board.onLine (mentionsIn text) number), Board.mem_byLine.mpr ⟨rfl, ?_⟩,
        Prod.ext rfl (lineAnnotations_eq p buffer text number)⟩
      rw [onLine_mentionsIn]
      exact fun hn => hne (List.map_eq_nil_iff.mp hn)

theorem annotateNow_snd (w : Workspace ℚ) (buffer text : Text) :
    (annotateNow w buffer text).2 =
      ((w.runPass buffer text).2.start ((w.runPass buffer text).2.settlePlan buffer)).settle := by
  simp only [annotateNow]

theorem annotateNow_annotations (w : Workspace ℚ) (buffer text : Text) :
    (annotateNow w buffer text).1.annotations =
      (annotateNow w buffer text).2.board.annotations buffer := by
  simp only [annotateNow]

/-- Once all has been looked up, no caller waits and the board shows what the network has. -/
theorem annotations_annotateNow (p : Plan ℚ) (now : ℚ) (buffer text : Text) :
    (annotateNow (new p now) buffer text).2.callers = [] ∧
    (annotateNow (new p now) buffer text).1.annotations =
      annotationsOf text fun r => (p.network (r.url p.hosts)).reply := by
  have hstart := going_start p now buffer text
  rw [annotateNow_annotations, annotateNow_snd]
  generalize (new p now).runPass buffer text = first at *
  obtain ⟨hgo, hgroups, hcallers⟩ := hstart.1.settled hstart.2
  exact ⟨hcallers, hgo.annotations_eq hgroups⟩

/-- A fresh workspace refines a function of the text and of the reply for each of its references. -/
theorem annotateNow_refines (p : Plan ℚ) (now : ℚ) (buffer text : Text) :
    let done := annotateNow (new p now) buffer text
    let replyTo := fun r : Reference => (p.network (r.url p.hosts)).reply
    done.2.callers = [] ∧ done.1.annotations = annotationsOf text replyTo ∧
    (∀ entry ∈ done.1.annotations, entry.2.Pairwise (fun a b => a.position < b.position) ∧
      ∀ a ∈ entry.2, Rates a.reference (replyTo a.reference) a.status) ∧
    ∀ (p' : Plan ℚ) (now' : ℚ) (buffer' : Text),
      (∀ o ∈ Occurrence.ofLines text.messageLines,
        (p'.network (o.reference.url p'.hosts)).reply = replyTo o.reference) →
      (annotateNow (new p' now') buffer' text).1.annotations = done.1.annotations := by
  intro done replyTo
  obtain ⟨hcallers, hshown⟩ := annotations_annotateNow p now buffer text
  refine ⟨hcallers, hshown, fun entry he => ?_, fun p' now' buffer' hsame => ?_⟩
  · rw [hshown] at he
    exact ⟨pairwise_position he, fun a ha => rates_of_mem_annotationsOf he ha⟩
  · rw [(annotations_annotateNow p' now' buffer' text).2, hshown]
    exact annotationsOf_congr hsame

end Workspace

end CommitMessage
