import CommitMessage.Annotation
import CommitMessage.Lookup.Response
import CommitMessage.Register

/-! The board on which the lines of buffers show their annotations. Every pass over a buffer has
a generation, and a group for each line with references. A group asks for its references, waits
for all answers, and then commits its line, unless a later pass has made it stale. -/

namespace CommitMessage

inductive Board.Slot where
  /-- Asks at its first turn. -/
  | fresh
  | asking
  /-- Answered; none if the lookup failed. -/
  | done (answer : Option Resolution)
  deriving DecidableEq, Repr

inductive Board.Stage where
  /-- Opens its slots at its first turn. -/
  | fresh
  | waiting
  /-- Ends at its next turn. -/
  | ready
  deriving DecidableEq, Repr

/-- The lookups for one line of one pass. -/
structure Board.Group where
  id : Nat
  /-- The sheet that the group was made for. -/
  sheet : Nat
  buffer : Text
  generation : Nat
  line : Int
  slots : List (Mention × Board.Slot)
  stage : Board.Stage := .fresh
  /-- Called off: ends without a commit. -/
  calledOff : Bool := false
  deriving DecidableEq, Repr

/-- What the board keeps of a buffer. A buffer that is dropped and used again gets a new sheet. -/
structure Board.Sheet where
  serial : Nat
  generation : Nat := 0
  committed : Register Int (List Annotation) := []
  /-- The group that each line waits for. -/
  pending : Register Int Nat := []
  deriving DecidableEq, Repr

/-- The annotations of one line, replacing those before. -/
structure Board.Commit where
  buffer : Text
  line : Int
  annotations : List Annotation
  deriving DecidableEq, Repr

inductive Board.LineState where
  | idle
  | pending
  | committed
  deriving DecidableEq, Repr

def Board.LineState.name : LineState → Text
  | idle => "idle".toList
  | pending => "pending".toList
  | committed => "committed".toList

structure Board where
  sheets : Register Text Board.Sheet := []
  /-- The groups that have not ended, oldest first. -/
  groups : List Board.Group := []
  nextGroup : Nat := 0
  nextSheet : Nat := 0

namespace Board

/-- What a board asks for. -/
inductive Signal where
  | groupTurn (group : Nat)
  | slotTurn (group slot : Nat)
  /-- The slot wants an answer, in the course of the pass. -/
  | ask (group slot : Nat) (pass : Text) (r : Reference)
  /-- The slot wants no answer any more. -/
  | withdraw (group slot : Nat)
  | commit (pass : Option Text) (c : Commit)
  | note (e : LogEntry)
  | ended (group : Nat)
  deriving DecidableEq, Repr

def passName (buffer : Text) (generation : Nat) : Text :=
  buffer ++ ':' :: Decimal.digits generation

def Group.pass (g : Group) : Text := passName g.buffer g.generation

def Slot.isDone : Slot → Bool
  | done _ => true
  | _ => false

def group? (b : Board) (id : Nat) : Option Group := b.groups.find? (·.id == id)

def setGroup (b : Board) (g : Group) : Board :=
  { b with groups := b.groups.map fun h => if h.id = g.id then g else h }

def dropGroup (b : Board) (id : Nat) : Board :=
  { b with groups := b.groups.filter fun g => g.id ≠ id }

/-- Distinct numbers in increasing order. -/
def sortedLines (lines : List Int) : List Int := lines.eraseDups.mergeSort (· ≤ ·)

/-- The mentions line by line; those of one line keep their order. -/
def byLine (mentions : List Mention) : List (Int × List Mention) :=
  (sortedLines (mentions.map (·.line))).map fun line => (line, mentions.filter (·.line == line))

/-- The lines that show annotations or wait for some. -/
def Sheet.shownLines (s : Sheet) : List Int :=
  (s.committed.filter fun entry => !entry.2.isEmpty).map (·.1) ++ s.pending.keys

/-- Clears a line that has no references any more. -/
def clearLine (buffer : Text) (change : Sheet × List Signal) (line : Int) : Sheet × List Signal :=
  ({ change.1 with committed := change.1.committed.set line [] },
    change.2 ++ [.commit none ⟨buffer, line, []⟩])

def openGroup (buffer : Text) (change : Board × Sheet × List Signal)
    (lineMentions : Int × List Mention) : Board × Sheet × List Signal :=
  let (b, s, signals) := change
  let (line, mentions) := lineMentions
  let g : Group :=
    { id := b.nextGroup, sheet := s.serial, buffer, generation := s.generation, line,
      slots := mentions.map fun m => (m, .fresh) }
  ({ b with groups := b.groups ++ [g], nextGroup := g.id + 1 },
    { s with pending := s.pending.set line g.id }, signals ++ [.groupTurn g.id])

/-- The sheet of a buffer, a new one if there is none. -/
def sheetFor (b : Board) (buffer : Text) : Board × Sheet :=
  match b.sheets.get? buffer with
  | some s => (b, s)
  | none => ({ b with nextSheet := b.nextSheet + 1 }, { serial := b.nextSheet })

/-- Starts a pass. Lines that have lost their references are cleared, and every line that has
some gets a group. -/
def startPass (b : Board) (buffer : Text) (mentions : List Mention) :
    Nat × Board × List Signal :=
  let (b, s) := b.sheetFor buffer
  let lines := byLine mentions
  let lost := (sortedLines s.shownLines).filter fun line => !lines.any (·.1 == line)
  let s := { s with generation := s.generation + 1, pending := [] }
  let (s, cleared) := lost.foldl (clearLine buffer) (s, [])
  let (b, s, opened) := lines.foldl (openGroup buffer) (b, s, [])
  let notice := Notice.groupsDispatched buffer s.generation lines.length
  (s.generation, { b with sheets := b.sheets.set buffer s },
    cleared ++ opened ++ [.note ⟨none, notice⟩])

/-- Earlier positions first; at one position the order of the identifiers decides. -/
def precedes (a b : Annotation) : Bool :=
  a.position < b.position ||
    (a.position == b.position && Text.precedes a.reference.identifier b.reference.identifier)

/-- The annotations of a group whose slots are all done. -/
def Group.annotations (g : Group) : List Annotation :=
  (g.slots.filterMap fun
    | (m, .done answer) => some <| Annotation.ofAnswer m answer
    | _ => none).mergeSort precedes

/-- Whether the pass that made the group is still the last one of its buffer. -/
def isCurrent (b : Board) (g : Group) : Bool :=
  (b.sheets.get? g.buffer).any (·.generation == g.generation)

def commitGroup (b : Board) (g : Group) : Board × List Signal :=
  match b.sheets.get? g.buffer with
  | some s =>
    if s.generation = g.generation then
      let pending := if s.pending.get? g.line = some g.id then s.pending.erase g.line
        else s.pending
      let s := { s with pending, committed := s.committed.set g.line g.annotations }
      ({ b with sheets := b.sheets.set g.buffer s },
        [.commit (some g.pass) ⟨g.buffer, g.line, g.annotations⟩])
    else (b, [.note ⟨some g.pass, .staleGroup g.buffer g.line⟩])
  | none => (b, [.note ⟨some g.pass, .staleGroup g.buffer g.line⟩])

def groupTurn (b : Board) (id : Nat) : Board × List Signal :=
  match b.group? id with
  | none => (b, [])
  | some g =>
    match g.stage with
    | .fresh =>
      if g.calledOff then (b.dropGroup id, [.ended id])
      else (b.setGroup { g with stage := .waiting },
        (List.range g.slots.length).map fun slot => .slotTurn id slot)
    | .waiting => (b, [])
    | .ready =>
      let (b, signals) := if g.calledOff then (b, []) else b.commitGroup g
      (b.dropGroup id, signals ++ [.ended id])

def Group.setSlot (g : Group) (slot : Nat) (state : Slot) : Group :=
  { g with slots := g.slots.modify slot fun entry => (entry.1, state) }

def slotTurn (b : Board) (id slot : Nat) : Board × List Signal :=
  match b.group? id with
  | none => (b, [])
  | some g =>
    match g.calledOff, g.slots[slot]? with
    | false, some (m, .fresh) =>
      (b.setGroup (g.setSlot slot .asking), [.ask id slot g.pass m.reference])
    | _, _ => (b, [])

/-- Fills a slot; the last one makes the group ready. -/
def fillSlot (b : Board) (g : Group) (slot : Nat) (answer : Option Resolution) :
    Board × List Signal :=
  let g := g.setSlot slot (.done answer)
  if g.slots.all (·.2.isDone) then (b.setGroup { g with stage := .ready }, [.groupTurn g.id])
  else (b.setGroup g, [])

/-- A lookup has ended for a slot. One that was stopped ends its group. -/
def answer (b : Board) (id slot : Nat) (outcome : Outcome) : Board × List Signal :=
  match b.group? id with
  | none => (b, [])
  | some g =>
    match g.calledOff, g.slots[slot]?, outcome with
    | false, some (_, .asking), .resolved r => b.fillSlot g slot (some r)
    | false, some (m, .asking), .failed f =>
      let (b, signals) := b.fillSlot g slot none
      (b, .note ⟨some g.pass, .resolutionFailed m.reference f⟩ :: signals)
    | false, some (_, .asking), .stopped =>
      (b.setGroup { g with stage := .ready, calledOff := true }, [.groupTurn id])
    | _, _, _ => (b, [])

/-- Calls off a group; it ends at its next turn, and gets one now if it has none coming. -/
def callOff (b : Board) (g : Group) : Board × List Signal :=
  if g.calledOff then (b, [])
  else match g.stage with
    | .waiting =>
      let asking := (List.range g.slots.length).filter fun slot =>
        (g.slots[slot]?).any (·.2 == .asking)
      (b.setGroup { g with calledOff := true, stage := .ready },
        asking.map (.withdraw g.id ·) ++ [.groupTurn g.id])
    | _ => (b.setGroup { g with calledOff := true }, [])

def groupsOf (b : Board) (sheet : Nat) : List Group := b.groups.filter (·.sheet == sheet)

def callOffSheet (b : Board) (sheet : Nat) : Board × List Signal :=
  (b.groupsOf sheet).foldl (fun change g =>
    let (b, signals) := change.1.callOff g
    (b, change.2 ++ signals)) (b, [])

def drop (b : Board) (buffer : Text) : Board := { b with sheets := b.sheets.erase buffer }

/-- The current generation of a buffer, zero if it was never seen. -/
def generation (b : Board) (buffer : Text) : Nat :=
  ((b.sheets.get? buffer).map (·.generation)).getD 0

/-- What the lines of a buffer show, in the order of the lines. -/
def annotations (b : Board) (buffer : Text) : List (Int × List Annotation) :=
  match b.sheets.get? buffer with
  | some s =>
    (s.committed.filter fun entry => !entry.2.isEmpty).mergeSort fun a b => a.1 ≤ b.1
  | none => []

def lineState (b : Board) (buffer : Text) (line : Int) : LineState :=
  match b.sheets.get? buffer with
  | some s =>
    if s.pending.has line then .pending else if s.committed.has line then .committed else .idle
  | none => .idle

end Board

end CommitMessage
