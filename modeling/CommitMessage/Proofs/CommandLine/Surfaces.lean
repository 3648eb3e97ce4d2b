import Mathlib
import CommitMessage.Api.Routes
import CommitMessage.CommandLine.Run
import CommitMessage.Proofs.ExactTime
import CommitMessage.Proofs.Text.Written

/-! A message can be linted from a file, by a request, and in a pass over a buffer. The request and
the pass find the same in it. The file is read with every end of a line as a line feed, so what is
found there is the same as long as no carriage return stands alone. -/

namespace CommitMessage

namespace CommandLine

variable {τ : Type} {s : Surroundings τ} {path message : Text}

/-- The file at a path holds the bytes of a message; a dash stands for the input. -/
def Surroundings.Holds (s : Surroundings τ) (path message : Text) : Prop :=
  (path = inputPath ∧ s.input = message.toBytes) ∨
    (path ≠ inputPath ∧ '\x00' ∉ path ∧ s.file path = .ok message.toBytes)

theorem Surroundings.Holds.not_mem (h : s.Holds path message) : '\x00' ∉ path := by
  rcases h with ⟨rfl, -⟩ | ⟨-, hn, -⟩
  · decide
  · exact hn

theorem readMessage_of_holds (h : s.Holds path message) :
    readMessage s path = .ok message.lineFeeds := by
  have hread : Text.ofBytes message.toBytes = .ok message := Text.ofBytes_toBytes message
  unfold readMessage
  rcases h with ⟨rfl, hinput⟩ | ⟨hpath, -, hfile⟩
  · rw [if_pos rfl, hinput]
    simp only [bind, Except.bind, hread]
    rfl
  · rw [if_neg hpath, hfile]
    simp only [Except.mapError, bind, Except.bind, hread]
    rfl

variable [TimeLine τ] [DecidableLT τ] {settings : Settings}

theorem run_lint_offline (hs : Settings.read s.env = .ok settings) (h : s.Holds path message) :
    run s (.lint { path, offline := true, json := true, force := true }) = .ok
      { status := if (Lint.validateText message.lineFeeds).any (·.isError) then 1 else 0
        printed := (Json.object [("path".toList, .string path), ("findings".toList,
          .array ((Lint.validateText message.lineFeeds).map Report.findingJson)),
          ("annotations".toList, .array [])]).indented 0 ++ ['\n']
        logLevel := settings.logLevel } := by
  have haccepted : isAccepted settings { path, offline := true, json := true, force := true } =
      true := by simp [isAccepted]
  have hnull : path.contains '\x00' = false := by simpa using h.not_mem
  simp only [run, hs, lint, haccepted, hnull, readMessage_of_holds h]
  rfl

end CommandLine

namespace Api

variable {τ : Type} [TimeLine τ] [DecidableLT τ] {request : Request} {payload : Payload}

theorem handle_lint (hm : request.method = Route.lint.method)
    (hp : barePath request.path = Route.lint.path)
    (hb : Payload.read request.mediaType request.body = .ok payload)
    (running : Option (Workspace τ)) :
    handle running request = .ok (.ok (.object
      [("has_errors".toList, .bool ((Lint.validateText payload.message).any (·.isError))),
        ("findings".toList, .array ((Lint.validateText payload.message).map Report.findingJson))]),
      running) := by
  have hroute : Route.ofPath? (barePath request.path) = some .lint := by
    rw [hp]
    decide
  unfold handle
  dsimp only
  rw [hroute]
  dsimp only
  rw [if_pos hm]
  unfold onRoute
  simp only [hb]
  rfl

end Api

namespace Lint

variable {τ : Type} [TimeLine τ] [DecidableLT τ] {s : CommandLine.Surroundings τ}
  {settings : Settings} {path message : Text} {request : Api.Request} {payload : Api.Payload}

/-- What the three ways report of one message. The findings of the file are those of the message
if no carriage return stands alone in it, and just then the file has the lines of the message. -/
theorem reported (hs : Settings.read s.env = .ok settings) (hf : s.Holds path message)
    (hm : request.method = Api.Route.lint.method)
    (hp : Api.barePath request.path = Api.Route.lint.path)
    (hb : Api.Payload.read request.mediaType request.body = .ok payload)
    (he : payload.message = message) (running : Option (Workspace τ)) :
    CommandLine.run s (.lint { path, offline := true, json := true, force := true }) = .ok
      { status := if (validateText message.lineFeeds).any (·.isError) then 1 else 0
        printed := (Json.object [("path".toList, .string path),
          ("findings".toList, .array ((validateText message.lineFeeds).map Report.findingJson)),
          ("annotations".toList, .array [])]).indented 0 ++ ['\n']
        logLevel := settings.logLevel } ∧
    Api.handle running request = .ok (.ok (.object
      [("has_errors".toList, .bool ((validateText message).any (·.isError))),
        ("findings".toList, .array ((validateText message).map Report.findingJson))]), running) ∧
    (∀ (w : Workspace τ) (buffer : Text),
      (w.runPass buffer message).1.findings = validateText message) ∧
    (message.HasNoLoneReturn → validateText message.lineFeeds = validateText message) ∧
    (message.lineFeeds.messageLines = message.messageLines ↔ message.HasNoLoneReturn) := by
  have hlines := Text.messageLines_lineFeeds_iff message
  refine ⟨CommandLine.run_lint_offline hs hf, ?_, fun _ _ => rfl, fun h => ?_, hlines⟩
  · rw [Api.handle_lint hm hp hb, he]
  · rw [validateText, validateText, hlines.mpr h]

/-- A file with the bytes of a message, and nothing at other paths. -/
def fileOnly (path message : Text) : CommandLine.Surroundings ℚ where
  env := []
  file p := if p = path then .ok message.toBytes else .error .missing
  network _ := { reply := .timedOut }
  time _ := 0
  now := 0

theorem holds_fileOnly {path : Text} (hp : path ≠ CommandLine.inputPath) (hn : '\x00' ∉ path)
    (message : Text) : (fileOnly path message).Holds path message :=
  .inr ⟨hp, hn, if_pos rfl⟩

theorem reported_twoLines :
    let message : Text := "Docs: Fix it.\r\nMore.".toList
    let request : Api.Request := { method := "POST".toList, path := "/lint".toList, body :=
      "\x7b\"message\": \"Docs: Fix it.\\r\\nMore.\"\x7d".toList }
    message.HasNoLoneReturn ∧ validateText message ≠ [] ∧
      ∃ answer reply, CommandLine.run (fileOnly ['m'] message)
          (.lint { path := ['m'], offline := true, json := true, force := true }) = .ok answer ∧
        answer.status = 1 ∧
        Api.handle (none : Option (Workspace ℚ)) request = .ok (reply, none) ∧
        reply.status = 200 := by
  intro message request
  have hbody : Api.Payload.read request.mediaType request.body = .ok ⟨message, none⟩ := by
    decide +kernel
  have hlines : message.HasNoLoneReturn :=
    (Text.messageLines_lineFeeds_iff message).mp (by decide +kernel)
  have hfile : (fileOnly ['m'] message).Holds ['m'] message :=
    holds_fileOnly (by decide) (by decide) message
  obtain ⟨hcli, hapi, -⟩ := reported rfl hfile rfl (by decide) hbody rfl none
  refine ⟨hlines, by decide +kernel, _, _, hcli, by decide +kernel, hapi, rfl⟩

/-- The command finds an error in a message in which the request finds nothing. -/
theorem exists_reported_differently :
    ∃ message : Text, validateText message = [] ∧
      ∃ answer, CommandLine.run (fileOnly ['m'] message)
          (.lint { path := ['m'], offline := true, json := true, force := true }) = .ok answer ∧
        answer.status = 1 := by
  refine ⟨"Docs: Fix it.\rMore.".toList, by decide +kernel, _,
    CommandLine.run_lint_offline rfl (holds_fileOnly (by decide) (by decide) _), ?_⟩
  decide +kernel

end Lint

end CommitMessage
