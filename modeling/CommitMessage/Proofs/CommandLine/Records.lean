import CommitMessage.Proofs.CommandLine.Surfaces
import CommitMessage.Proofs.Lookup.Identifiers
import CommitMessage.Proofs.Message.Agreement
import CommitMessage.Proofs.Message.Layout
import CommitMessage.Proofs.Page.Details
import CommitMessage.Proofs.Workspace.Annotated

/-! What the command prints of a message: one record for each finding, and after them one for each
annotation. A record is a line, unless it shows the title of a ticket or the name of a contributor
and that holds a line feed. -/

namespace CommitMessage

namespace Text

/-- Texts with a line feed after each are read back as lines exactly if none holds a line feed. -/
theorem pieces_flatMap_iff (c : Char) (records : List Text) :
    pieces c (records.flatMap (· ++ [c])) = records ++ [[]] ↔ ∀ record ∈ records, c ∉ record := by
  constructor
  · intro h record hr
    exact notMem_of_mem_pieces (h ▸ List.mem_append_left _ hr)
  · intro h
    induction records with
    | nil => rfl
    | cons record records ih =>
      rw [List.flatMap_cons, List.append_assoc, List.singleton_append,
        pieces_append (h record List.mem_cons_self), ih fun r hr => h r (List.mem_cons_of_mem _ hr),
        List.cons_append]

theorem notMem_digits (n : Nat) : '\n' ∉ Decimal.digits n := fun h =>
  absurd (Nat.isDigit_of_mem_toDigits (by decide) (by decide) h) (by decide)

theorem notMem_ofInt (n : Int) : '\n' ∉ Decimal.ofInt n := by
  unfold Decimal.ofInt
  split
  · exact fun h => (List.mem_cons.mp h).elim (by decide) (notMem_digits _)
  · exact notMem_digits _

end Text

/-! The wording of findings -/

namespace Lint

variable {lines : List Text} {t : Text} {f : Finding}

theorem Problem.notMem_message {p : Problem} (h : p.isUsername = false) : '\n' ∉ p.message := by
  cases p with
  | usernameFormat name => cases h
  | summaryLength length =>
    unfold Problem.message
    dsimp only
    rw [List.mem_append, List.mem_append, not_or, not_or]
    exact ⟨⟨by decide, Text.notMem_digits length⟩, by decide⟩
  | blankBeforeSection kind => cases kind <;> decide +kernel
  | trailerCapitalization kind onlyCase => cases kind <;> cases onlyCase <;> decide +kernel
  | trailerFormat kind => cases kind <;> decide +kernel
  | trailerPeriod kind => cases kind <;> decide +kernel
  | _ => decide +kernel

theorem Problem.notMem_code (p : Problem) : '\n' ∉ p.severity.name ∧ '\n' ∉ p.code := by
  unfold Problem.severity Problem.code
  constructor
  · split <;> decide
  · split <;> decide

/-- Only an entry of a username list is quoted in a finding, and it stands in a line. -/
theorem mem_of_isUsername (hf : f ∈ validate lines) (hu : f.problem.isUsername = true) :
    ∃ line ∈ lines, ∃ before name after, line = before ++ name ++ after ∧
      f.problem = .usernameFormat name := by
  have hrule : f.problem.rule = .trailers :=
    Problem.rule_of_isOfContent (isOfContent_of_isUsername hu)
  have hfound := mem_validate_iff.mp hf
  rw [hrule] at hfound
  obtain ⟨trailer, ht, hf⟩ := List.mem_flatMap.mp hfound
  obtain ⟨entry, hentry, htrailer⟩ := List.mem_filterMap.mp ht
  obtain ⟨read, hread, rfl⟩ := Option.map_eq_some_iff.mp htrailer
  have hline : entry.1 ∈ lines := List.fst_mem_of_mem_zipIdx hentry
  simp only [trailerFindings, keywordFindings, usernameFindings, List.mem_append,
    List.mem_ite_nil_left, List.mem_ite_nil_right, List.mem_singleton, List.mem_map] at hf
  rcases hf with ((⟨-, rfl⟩ | ⟨-, rfl⟩) | ⟨-, rfl⟩) | ⟨-, token, hm, rfl⟩
  · cases hu
  · cases hu
  · cases hu
  · obtain ⟨before, after, he, -⟩ := Trailer.usernames_at hread (List.mem_filter.mp hm).1
    exact ⟨entry.1, hline, before, token.text, after, he, rfl⟩

theorem notMem_message (hf : f ∈ validateText t) : '\n' ∉ f.problem.message := by
  cases hu : f.problem.isUsername with
  | false => exact Problem.notMem_message hu
  | true =>
    obtain ⟨line, hl, before, name, after, rfl, hp⟩ := mem_of_isUsername hf hu
    have hname := Text.notMem_of_mem_messageLines hl
    rw [hp]
    unfold Problem.message
    simp only [List.mem_append, not_or] at hname ⊢
    exact ⟨⟨by decide, hname.1.2⟩, by decide⟩

end Lint

/-! The wording of annotations -/

namespace Page

variable {body detail : Text}

/-- The message of a changeset is shown on one line. -/
theorem notMem_of_changesetMessage (h : changesetMessage body = .ok (some detail)) :
    '\n' ∉ detail := by
  intro hm
  have hspace := (isTidy_of_changesetMessage h).space '\n' hm (by decide)
  exact absurd hspace (by decide)

end Page

namespace Reference

variable {r : Reference} {reply : Reply} {detail : Text}

/-- The detail that is shown for a reference after a reply: one of an answer that found it. -/
def shownDetail? (r : Reference) (reply : Reply) : Option Text :=
  (r.answerTo reply).bind fun a => if a.found then Annotation.detailOf? a else none

theorem mem_textFor_iff (h : '\n' ∉ r.identifier) : '\n' ∈ Annotation.textFor r (r.answerTo reply) ↔
    ∃ detail, r.shownDetail? reply = some detail ∧ '\n' ∈ detail := by
  have hsubject : '\n' ∉ Annotation.subject r := by
    unfold Annotation.subject
    cases r.kind <;> simp [h, Annotation.handle]
  have hnegative (answer : Option Resolution) : '\n' ∉ Annotation.negativeText answer := by
    unfold Annotation.negativeText
    split
    · split <;> decide
    · decide
  unfold shownDetail? Annotation.textFor
  cases r.answerTo reply with
  | none => simp [hsubject, hnegative]
  | some a =>
    cases hf : a.found with
    | false => simp [hf, hsubject, hnegative]
    | true =>
      simp only [hf, if_true, Option.bind_some]
      unfold Annotation.positiveText
      cases Annotation.detailOf? a with
      | none => cases r.kind <;> simp [h, hsubject, Annotation.handle]
      | some detail => cases r.kind <;> simp [h, Annotation.handle]

theorem changesetMessage_of_interpret {page : Response} {verdict : Verdict}
    (h : interpret .changeset page = .ok verdict) (hd : verdict.detail = some detail) :
    Page.changesetMessage page.body = .ok (some detail) := by
  unfold interpret readPage at h
  split at h
  · dsimp only at h
    split at h
    · cases hm : Page.changesetMessage page.body with
      | error p => simp [hm, Except.map] at h
      | ok found =>
        simp only [hm, Except.map, Except.ok.injEq] at h
        rw [← hd, ← h]
    · cases h
      cases hd
  · cases h
    cases hd

theorem notMem_of_shownDetail? (hk : r.kind = .changeset)
    (h : r.shownDetail? reply = some detail) : '\n' ∉ detail := by
  obtain ⟨a, ha, hd⟩ := Option.bind_eq_some_iff.mp h
  have hdetail : a.detail = some detail := by
    split at hd
    · exact (Option.filter_eq_some_iff.mp hd).1
    · cases hd
  unfold answerTo at ha
  split at ha
  · cases reply with
    | page page =>
      unfold Reply.answer at ha
      dsimp only at ha
      split at ha
      · cases ha
        cases hdetail
      · rw [hk] at ha
        split at ha
        · next verdict hv =>
          cases ha
          exact Page.notMem_of_changesetMessage (changesetMessage_of_interpret hv hdetail)
        · cases ha
    | crashed text => cases ha
    | timedOut | failed reason =>
      cases ha
      cases hdetail
  · cases ha
    cases hdetail

end Reference

/-! The records of a report -/

namespace Report

/-- A finding as it is printed, without the end of the line. -/
def findingRecord (path : Text) (f : Lint.Finding) : Text :=
  placeText path f.line f.columnStart ++ f.problem.severity.name ++ ':' :: ' ' ::
    f.problem.message ++ ' ' :: '[' :: f.problem.code ++ [']']

/-- An annotation as it is printed, without the end of the line. -/
def annotationRecord (path : Text) (x : Int × Annotation) : Text :=
  placeText path x.1 x.2.position ++ x.2.status.name ++ ':' :: ' ' :: x.2.text

def records (r : Report) : List Text :=
  r.findings.map (findingRecord r.path) ++ r.placed.map (annotationRecord r.path)

variable {path : Text}

theorem text_eq (r : Report) : r.text = r.records.flatMap (· ++ ['\n']) := by
  rw [text, records, List.flatMap_append, List.flatMap_map, List.flatMap_map]
  congr 1
  refine List.flatMap_congr fun f _ => ?_
  simp [findingLine, findingRecord]

theorem notMem_placeText (h : '\n' ∉ path) (line column : Int) :
    '\n' ∉ placeText path line column := by
  unfold placeText
  simp [h, Text.notMem_ofInt]

theorem notMem_findingRecord (h : '\n' ∉ path) {t : Text} {f : Lint.Finding}
    (hf : f ∈ Lint.validateText t) : '\n' ∉ findingRecord path f := by
  have hplace := notMem_placeText h f.line f.columnStart
  have hcode := f.problem.notMem_code
  simp [findingRecord, hplace, hcode, Lint.notMem_message hf]

theorem mem_annotationRecord_iff (h : '\n' ∉ path) (x : Int × Annotation) :
    '\n' ∈ annotationRecord path x ↔ '\n' ∈ x.2.text := by
  have hplace := notMem_placeText h x.1 x.2.position
  have hstatus : '\n' ∉ x.2.status.name := by cases x.2.status <;> decide
  simp [annotationRecord, hplace, hstatus]

end Report

/-- A reference of a message has no line feed in its identifier. -/
theorem Occurrence.notMem_identifier {o : Occurrence} {lines : List Text} (ho : o ∈ ofLines lines) :
    '\n' ∉ o.reference.identifier := by
  rcases identifier_of_mem_ofLines ho with ⟨-, hu⟩ | ⟨-, -, hd⟩
  · intro hm
    have hall := (Bool.and_eq_true_iff.mp hu).2
    exact absurd (List.all_eq_true.mp hall _ hm) (by decide)
  · exact fun hm => absurd (hd _ hm) (by decide)

/-- Every reference of a text is annotated where it stands, and nothing else is. -/
theorem Report.mem_placed_iff {r : Report} {text : Text} {replyTo : Reference → Reply}
    (h : r.annotations = annotationsOf text replyTo) {x : Int × Annotation} :
    x ∈ r.placed ↔ ∃ o ∈ Occurrence.ofLines text.messageLines,
      x = ((o.line : Int), o.annotation (replyTo o.reference)) := by
  rw [placed, h, List.mem_flatMap]
  constructor
  · rintro ⟨entry, he, hx⟩
    obtain ⟨number, -, rfl⟩ := mem_annotationsOf.mp he
    obtain ⟨a, ha, rfl⟩ := List.mem_map.mp hx
    obtain ⟨o, ho, rfl⟩ := List.mem_map.mp ha
    obtain ⟨hm, rfl⟩ := Occurrence.mem_onLine.mp ho
    exact ⟨o, hm, rfl⟩
  · rintro ⟨o, ho, rfl⟩
    have hline : o ∈ Occurrence.onLine text o.line := Occurrence.mem_onLine.mpr ⟨ho, rfl⟩
    exact ⟨_, mem_annotationsOf.mpr ⟨o.line, List.ne_nil_of_mem hline, rfl⟩,
      List.mem_map_of_mem (List.mem_map_of_mem hline)⟩

namespace CommandLine

variable {s : Surroundings ℚ} {settings : Settings} {plan : Workspace.Plan ℚ}
  {path message : Text} {force : Bool}

/-- A request that asks for text, with all references looked up. -/
def textRequest (path : Text) (force : Bool) : LintRequest :=
  { path, offline := false, json := false, force }

/-- The reply for a reference from where the settings say that it is looked up. -/
def replyFor (s : Surroundings ℚ) (settings : Settings) (r : Reference) : Reply :=
  (s.network (r.url settings.hosts)).reply

/-- What there is to report on a message once all of its references have been looked up. -/
def onlineReport (s : Surroundings ℚ) (settings : Settings) (path message : Text) : Report :=
  { path, findings := Lint.validateText message.lineFeeds
    annotations := annotationsOf message.lineFeeds (replyFor s settings) }

theorem run_lint_online (hs : Settings.read s.env = .ok settings)
    (hp : Workspace.Plan.ofSettings s.time s.network settings = some plan)
    (hf : s.Holds path message) (ha : isAccepted settings (textRequest path force) = true) :
    ∃ answer, run s (.lint (textRequest path force)) = .ok answer ∧
      answer.printed = (onlineReport s settings path message).text := by
  have hnull : path.contains '\x00' = false := by simpa using hf.not_mem
  have hplan : plan.network = s.network ∧ plan.hosts = settings.hosts := by
    simp only [Workspace.Plan.ofSettings, bind, Option.bind_eq_some_iff] at hp
    obtain ⟨interval, -, pause, -, he⟩ := hp
    cases he
    exact ⟨rfl, rfl⟩
  have hshown := (Workspace.annotations_annotateNow plan s.now (bufferName path)
    message.lineFeeds).2
  rw [hplan.1, hplan.2] at hshown
  unfold textRequest at ha ⊢
  simp only [run, hs, lint, ha, hnull, readMessage_of_holds hf, lintOnline, hp, hshown]
  exact ⟨_, rfl, rfl⟩

/-- What the command prints: a record for each finding, none of which holds a line feed, and then a
record for each reference, which holds one exactly if the detail does that is shown for it. What is
printed reads back as these records, one a line, exactly if no such detail holds a line feed; that
of a changeset never does. -/
theorem run_lint_text (hs : Settings.read s.env = .ok settings)
    (hp : Workspace.Plan.ofSettings s.time s.network settings = some plan)
    (hf : s.Holds path message) (ha : isAccepted settings (textRequest path force) = true)
    (hpath : '\n' ∉ path) :
    let report := onlineReport s settings path message
    let references := Occurrence.ofLines message.lineFeeds.messageLines
    ∃ answer, run s (.lint (textRequest path force)) = .ok answer ∧
      answer.printed = (report.findings.map (Report.findingRecord path) ++
        report.placed.map (Report.annotationRecord path)).flatMap (· ++ ['\n']) ∧
      (∀ f ∈ report.findings,
        Report.placeText path f.line f.columnStart <+: Report.findingRecord path f ∧
          '\n' ∉ Report.findingRecord path f) ∧
      (∀ x, x ∈ report.placed ↔ ∃ o ∈ references,
        x = ((o.line : Int), o.annotation (replyFor s settings o.reference))) ∧
      (∀ x ∈ report.placed,
        Report.placeText path x.1 x.2.position <+: Report.annotationRecord path x ∧
          ('\n' ∈ Report.annotationRecord path x ↔ ∃ detail, x.2.reference.shownDetail?
            (replyFor s settings x.2.reference) = some detail ∧ '\n' ∈ detail)) ∧
      (∀ (r : Reference) (reply : Reply) (detail : Text), r.kind = .changeset →
        r.shownDetail? reply = some detail → '\n' ∉ detail) ∧
      (answer.printed.pieces '\n' = report.findings.map (Report.findingRecord path) ++
          report.placed.map (Report.annotationRecord path) ++ [[]] ↔
        ∀ o ∈ references, ∀ detail,
          o.reference.shownDetail? (replyFor s settings o.reference) = some detail →
            '\n' ∉ detail) := by
  intro report references
  obtain ⟨answer, hrun, hprinted⟩ := run_lint_online hs hp hf ha
  have hplaced (x : Int × Annotation) : x ∈ report.placed ↔ ∃ o ∈ references,
      x = ((o.line : Int), o.annotation (replyFor s settings o.reference)) :=
    Report.mem_placed_iff rfl
  have hfinding (f : Lint.Finding) (hm : f ∈ report.findings) :
      '\n' ∉ Report.findingRecord path f := Report.notMem_findingRecord hpath hm
  have hfeeds (o : Occurrence) (ho : o ∈ references) :
      '\n' ∈ Report.annotationRecord path
          ((o.line : Int), o.annotation (replyFor s settings o.reference)) ↔
        ∃ detail, o.reference.shownDetail? (replyFor s settings o.reference) = some detail ∧
          '\n' ∈ detail :=
    (Report.mem_annotationRecord_iff hpath _).trans
      (Reference.mem_textFor_iff (Occurrence.notMem_identifier ho))
  have hlines : answer.printed = (report.findings.map (Report.findingRecord path) ++
      report.placed.map (Report.annotationRecord path)).flatMap (· ++ ['\n']) :=
    hprinted.trans report.text_eq
  refine ⟨answer, hrun, hlines, fun f hm => ⟨?_, hfinding f hm⟩, hplaced, fun x hx => ⟨?_, ?_⟩,
    fun r reply detail => Reference.notMem_of_shownDetail?, ?_⟩
  · simp [Report.findingRecord]
  · simp [Report.annotationRecord]
  · obtain ⟨o, ho, rfl⟩ := (hplaced x).mp hx
    exact hfeeds o ho
  · rw [hlines, Text.pieces_flatMap_iff]
    constructor
    · intro hnone o ho detail hd hm
      exact hnone _ (List.mem_append_right _ (List.mem_map_of_mem ((hplaced _).mpr ⟨o, ho, rfl⟩)))
        ((hfeeds o ho).mpr ⟨detail, hd, hm⟩)
    · intro hnone record hr
      rcases List.mem_append.mp hr with hr | hr
      · obtain ⟨f, hm, rfl⟩ := List.mem_map.mp hr
        exact hfinding f hm
      · obtain ⟨x, hx, rfl⟩ := List.mem_map.mp hr
        obtain ⟨o, ho, rfl⟩ := (hplaced x).mp hx
        intro hfeed
        obtain ⟨detail, hd, hm⟩ := (hfeeds o ho).mp hfeed
        exact hnone o ho detail hd hm

/-- A file with the bytes of a message, and one page for every address. -/
def pageOnly (path message body : Text) : Surroundings ℚ :=
  { Lint.fileOnly path message with network := fun _ => { reply := .page ⟨200, body⟩ } }

theorem holds_pageOnly {path : Text} (hp : path ≠ inputPath) (hn : '\x00' ∉ path)
    (message body : Text) : (pageOnly path message body).Holds path message :=
  Lint.holds_fileOnly hp hn message

theorem exists_plan (time : Binary64 → ℚ) (network : Text → Delivery ℚ) :
    ∃ plan, Workspace.Plan.ofSettings time network {} = some plan := by
  have hinterval : (Settings.seconds? ({} : Settings).intervalMs).isSome = true := by
    decide +kernel
  have hpause : (Settings.seconds? ({} : Settings).debounceMs).isSome = true := by
    decide +kernel
  obtain ⟨interval, hi⟩ := Option.isSome_iff_exists.mp hinterval
  obtain ⟨pause, hp⟩ := Option.isSome_iff_exists.mp hpause
  unfold Workspace.Plan.ofSettings
  simp only [bind, Option.bind_eq_some_iff]
  exact ⟨_, interval, hi, pause, hp, rfl⟩

theorem run_lint_text_ticket :
    let message : Text := "Docs: Fix it.\n\nFixes #1.".toList
    let s := pageOnly ['m'] message "id,summary\n1,A title".toList
    ∃ settings plan answer, Settings.read s.env = .ok settings ∧
      Workspace.Plan.ofSettings s.time s.network settings = some plan ∧
      s.Holds ['m'] message ∧ isAccepted settings (textRequest ['m'] true) = true ∧
      '\n' ∉ (['m'] : Text) ∧ run s (.lint (textRequest ['m'] true)) = .ok answer ∧
      answer.printed.pieces '\n' = ["m:3:7: valid: A title".toList, []] := by
  intro message s
  have hs : Settings.read s.env = .ok {} := rfl
  obtain ⟨plan, hp⟩ := exists_plan s.time s.network
  have hf : s.Holds ['m'] message := holds_pageOnly (by decide) (by decide) _ _
  have ha : isAccepted {} (textRequest ['m'] true) = true := rfl
  obtain ⟨answer, hrun, -, -, -, -, -, hpieces⟩ := run_lint_text hs hp hf ha (by decide)
  refine ⟨_, plan, answer, hs, hp, hf, ha, by decide, hrun, ?_⟩
  have hrecords := hpieces.mpr (by decide +kernel)
  exact hrecords.trans (by decide +kernel)

/-- A title in two lines: the second one reads as a record of its own. -/
theorem exists_forged_record :
    ∃ (message body : Text) (answer : Answer ℚ),
      run (pageOnly ['m'] message body) (.lint (textRequest ['m'] true)) = .ok answer ∧
      Lint.validateText message.lineFeeds = [] ∧
      (Occurrence.ofLines message.lineFeeds.messageLines).length = 1 ∧
      answer.printed.pieces '\n' = ["m:3:7: valid: One".toList,
        "m:1:1: error: Forged [summary-format]".toList, []] := by
  let message : Text := "Docs: Fix it.\n\nFixes #1.".toList
  let body : Text := "id,summary\n1,\"One\nm:1:1: error: Forged [summary-format]\"\n".toList
  obtain ⟨plan, hp⟩ := exists_plan (pageOnly ['m'] message body).time
    (pageOnly ['m'] message body).network
  have hf : (pageOnly ['m'] message body).Holds ['m'] message :=
    holds_pageOnly (by decide) (by decide) _ _
  have ha : isAccepted {} (textRequest ['m'] true) = true := rfl
  obtain ⟨answer, hrun, hprinted⟩ := run_lint_online rfl hp hf ha
  refine ⟨message, body, answer, hrun, by decide +kernel, by decide +kernel, ?_⟩
  rw [hprinted]
  decide +kernel

end CommandLine

end CommitMessage
