import CommitMessage.Lint.Problem

/-! The trailers of a message, where they stand, and whether their sections are in order. -/

namespace CommitMessage.Lint

structure TrailerLine where
  number : Nat
  line : Text
  trailer : Trailer
  deriving DecidableEq, Repr

def isTrailer (line : Text) : Bool := (Trailer.ofLine? line).isSome

def trailerLines (lines : List Text) : List TrailerLine :=
  lines.zipIdx.filterMap fun (line, number) =>
    (Trailer.ofLine? line).map fun trailer => { number, line, trailer }

/-- Findings on the trailers that follow, when `highest` is the greatest place of a section so
far and `tickets` says whether a Fixes or See line was seen. -/
def orderFindings (highest : Nat) (tickets : Bool) : List TrailerLine → List Finding
  | [] => []
  | t :: rest =>
    let order := t.trailer.kind.order
    let isTicket := t.trailer.kind.isTicketReference
    (if order < highest then [.onLine t.number t.line .sectionOrder] else []) ++
    (if isTicket && tickets then [.onLine t.number t.line .ticketsCombined] else []) ++
    orderFindings (max highest order) (tickets || isTicket) rest

def sectionFindings (trailers : List TrailerLine) : List Finding :=
  orderFindings 0 false trailers

/-! Blank lines: one after the summary, one before a section, and never two together. -/

def isBody (line : Text) : Bool := !line.isAllBlank && !isTrailer line

def afterSummary : List Text → List Finding
  | _ :: second :: rest =>
    if (second :: rest).any isBody && !second.isAllBlank then [.atLine 1 .blankAfterSummary]
    else []
  | _ => []

/-- One finding for each run of blank lines, at its second line. The lines start at `number`,
and `run` blank lines stand right before them. -/
def blankRuns (number run : Nat) : List Text → List Finding
  | [] => []
  | line :: rest =>
    let length := if line.isAllBlank then run + 1 else 0
    (if length = 2 then [.atLine number .consecutiveBlankLines] else []) ++
    blankRuns (number + 1) length rest

/-- A finding on every body line that a trailer follows at once. -/
def beforeSections (number : Nat) : List Text → List Finding
  | line :: next :: rest =>
    (match Trailer.ofLine? next with
     | some trailer =>
       if isBody line then [.atLine number (.blankBeforeSection trailer.kind)] else []
     | none => []) ++
    beforeSections (number + 1) (next :: rest)
  | _ => []

def blankLineFindings (lines : List Text) : List Finding :=
  afterSummary lines ++ blankRuns 0 0 lines ++ beforeSections 0 lines

end CommitMessage.Lint
