import CommitMessage.Proofs.Board.Turns
import CommitMessage.Proofs.Message.Occurrences
import CommitMessage.Proofs.Workspace.Instants

/-! The first pass of a workspace, and a caller that waits until all has been looked up. -/

namespace CommitMessage.Workspace

variable {p : Plan ℚ} {buffer : Text} {mentions : List Mention} {w : Workspace ℚ}

def mentionsIn (text : Text) : List Mention :=
  (Occurrence.ofLines text.messageLines).map (·.mention)

theorem mentions_inOrder (text : Text) : (mentionsIn text).Pairwise Board.StandsBefore := by
  refine List.pairwise_map.mpr ((Occurrence.pairwise_ofLines _).imp fun {o p} hop => ?_)
  unfold Occurrence.Before at hop
  unfold Board.StandsBefore Occurrence.mention
  dsimp only
  omega

theorem adds_runPass (w : Workspace ℚ) (buffer text : Text) :
    let change := (w.board.startPass buffer (mentionsIn text)).2
    Adds (change.2.filterMap boardJob?) [] { w with board := change.1 }
      (w.runPass buffer text).2 := by
  intro change
  have hboard := adds_applyBoard change (Board.isQuiet_startPass w.board buffer (mentionsIn text))
    { w with texts := w.texts.set buffer text }
  have hnote {w' : Workspace ℚ} (e : Entry ℚ) (h : Adds (change.2.filterMap boardJob?) []
      { w with texts := w.texts.set buffer text, board := change.1 } w') :
      Adds (change.2.filterMap boardJob?) []
        { w with texts := w.texts.set buffer text, board := change.1 } (w'.note e) := by
    simpa using h.trans (adds_note w' e)
  obtain ⟨w', h, he⟩ := runPass_rec w buffer text hboard (fun _ _ h => hnote _ h)
    fun _ _ h => hnote _ h
  rw [he]
  exact ⟨h.network, h.now, h.desk, h.board, h.callers, h.nextCaller, h.debouncerOf, h.debouncers,
    h.jobs, h.alarms⟩

/-- A workspace whose first pass has just begun. -/
theorem going_first (now : ℚ) (hn : w.network = p.network) (hd : w.desk = (new p now).desk)
    (hb : w.board = (({} : Board).startPass buffer mentions).2.1)
    (hj : w.agenda.jobs = (({} : Board).startPass buffer mentions).2.2.filterMap boardJob?)
    (ha : w.agenda.alarms = [])
    (hc : w.callers = [] ∧ w.board.groups = [] ∨ w.callers = [(0, [.sheetIdle 0])]) :
    Going p buffer mentions [] (fun _ => False) (fun _ => False) w := by
  have hjob {job : Job} (hm : job ∈ w.agenda.jobs) : (∃ id, job = .group id) ∨
      ∃ group slot, job = .slot group slot := by
    rw [hj] at hm
    obtain ⟨x, -, he⟩ := List.mem_filterMap.mp hm
    exact boardJob?_cases he
  have hforgets : forgetting w.agenda.jobs = [] := by
    rw [hj]
    exact forgetting_boardJobs _
  have hnew : w.desk.Live (fun e => deskDue [] w e ∨ False) none := by
    rw [hd]
    exact Desk.live_new p.hosts p.timeout _ p.interval
  have hempty : Board.Tracks (fun _ => none) (Answers p mentions) {} := Board.tracks_empty
  have htracks := hempty.startPass buffer mentions
  have hgeneration : (({} : Board).startPass buffer mentions).1 = 1 := by
    rw [Board.startPass_eq]
    rfl
  rw [hgeneration] at htracks
  refine ⟨hn, hd ▸ rfl, ?_, fun g hg => ?_, ?_, hnew, ?_, fun job hm => ?_, ?_, ?_, ?_, ?_, ?_,
    nofun, hc, fun id hm => ?_⟩
  · rw [hb]
    exact htracks
  · rw [hb] at hg
    exact ⟨g, hg, .refl g⟩
  · have hatt : Board.Attended (fun _ => False) {} := nofun
    rw [hb]
    refine (hatt.startPass buffer mentions).mono fun e he => .inl ?_
    exact boardDue_of_wakes (Board.isQuiet_startPass {} buffer mentions) (fun _ hm => hj ▸ hm)
      (he.resolve_left id)
  · rw [hd]
    exact Desk.truthful_new p.hosts p.timeout _ _ _
  · rcases hjob hm with ⟨id, rfl⟩ | ⟨group, slot, rfl⟩ <;> trivial
  · rw [ha]
    nofun
  · rw [hforgets]
    exact List.nodup_nil
  · rw [hforgets]
    nofun
  · rw [ha, hd]
    exact .refl _
  · rw [hd]
    nofun
  · rcases hjob hm with ⟨id, he⟩ | ⟨group, slot, he⟩ <;> cases he

/-- The caller of the first pass waits if it has groups, and else returns at once. -/
theorem start_cases (hb : w.board = (({} : Board).startPass buffer mentions).2.1)
    (hd : w.debouncerOf = []) (hn : w.nextCaller = 0) (hc : w.callers = []) :
    (w.board.groups = [] ∧ w.start (w.settlePlan buffer) =
      { w with nextCaller := 1, callers := [] }.note (.returned 0)) ∨
    (w.board.groups ≠ [] ∧ w.start (w.settlePlan buffer) =
      { w with nextCaller := 1, callers := [(0, [.sheetIdle 0])] }) := by
  have hs : w.board.sheets.get? buffer = some (({} : Board).sheetAfter buffer mentions) :=
    hb ▸ Board.get?_startPass {} buffer mentions
  have hserial : (({} : Board).sheetAfter buffer mentions).serial = 0 := rfl
  have hall : w.board.groupsOf 0 = w.board.groups := by
    refine List.filter_eq_self.mpr fun g hg => ?_
    rw [hb] at hg
    simp [(isNew_firstGroups hg).sheet]
  have hplan : w.settlePlan buffer = [.idle buffer] := by
    rw [settlePlan, hd]
    rfl
  have hlength (w : Workspace ℚ) :
      w.planLength [.idle buffer] = 4 * w.board.sheets.length + 4 + 1 := by
    simp only [planLength, List.length_singleton]
    omega
  rw [start, hplan, hn, resume, hlength]
  by_cases hg : w.board.groups = []
  · exact .inl ⟨hg, by simp [proceed, isOver, enter, hs, hserial, hall, hg, hc, Register.erase]⟩
  · exact .inr ⟨hg, by simp [proceed, isOver, enter, hs, hserial, hall, hg, hc, Register.set]⟩

theorem going_start (p : Plan ℚ) (now : ℚ) (buffer text : Text) :
    let w := ((new p now).runPass buffer text).2
    Going p buffer (mentionsIn text) [] (fun _ => False) (fun _ => False)
        (w.start (w.settlePlan buffer)) ∧ (w.start (w.settlePlan buffer)).Called := by
  intro w
  have ha : Adds ((({} : Board).startPass buffer (mentionsIn text)).2.2.filterMap boardJob?) []
      { new p now with board := (({} : Board).startPass buffer (mentionsIn text)).2.1 } w :=
    adds_runPass (new p now) buffer text
  have hj : w.agenda.jobs = (({} : Board).startPass buffer (mentionsIn text)).2.2.filterMap
      boardJob? := ha.jobs
  have hl : w.agenda.alarms = [] := List.perm_nil.mp ha.alarms
  rcases start_cases ha.board ha.debouncerOf ha.nextCaller ha.callers with ⟨hg, he⟩ | ⟨hg, he⟩
  · rw [he]
    exact ⟨going_first now ha.network ha.desk ha.board hj hl (.inl ⟨rfl, hg⟩),
      fun hn => absurd rfl hn⟩
  · rw [he]
    exact ⟨going_first now ha.network ha.desk ha.board hj hl (.inr rfl), fun _ hn => absurd hn hg⟩

end CommitMessage.Workspace
