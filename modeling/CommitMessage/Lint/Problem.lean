import CommitMessage.Trailer

/-! The rules a message can break. Each problem carries what its wording needs; severity, code
and wording are functions of it. -/

namespace CommitMessage.Lint

inductive Severity where
  | error
  | warning
  deriving DecidableEq, Repr

def Severity.name : Severity → Text
  | error => "error".toList
  | warning => "warning".toList

inductive Problem where
  | summaryMissing
  | summaryFormat
  | summaryLength (length : Nat)
  | componentCapitalization
  | summaryCapitalization
  | summaryPeriod
  | sectionOrder
  | ticketsCombined
  | blankAfterSummary
  | consecutiveBlankLines
  | blankBeforeSection (trailer : Trailer.Kind)
  /-- The keyword is not written as it should be; `onlyCase` when only letter case differs. -/
  | trailerCapitalization (trailer : Trailer.Kind) (onlyCase : Bool)
  | trailerFormat (trailer : Trailer.Kind)
  | trailerPeriod (trailer : Trailer.Kind)
  | usernameFormat (username : Text)
  | unpairedBackticks
  deriving DecidableEq, Repr

/-- The length that a summary line should reach. -/
def summaryMinLength : Nat := 50

/-- The length that a summary line should not pass. -/
def summaryMaxLength : Nat := 70

namespace Problem

def severity : Problem → Severity
  | summaryLength _ | componentCapitalization | summaryCapitalization | summaryPeriod
  | blankBeforeSection _ | usernameFormat _ | unpairedBackticks => .warning
  | _ => .error

/-- The stable name of the rule. -/
def code : Problem → Text
  | summaryMissing => "summary-missing".toList
  | summaryFormat => "summary-format".toList
  | summaryLength _ => "summary-length".toList
  | componentCapitalization => "component-capitalization".toList
  | summaryCapitalization => "summary-capitalization".toList
  | summaryPeriod => "summary-period".toList
  | sectionOrder => "section-order".toList
  | ticketsCombined => "tickets-combined".toList
  | blankAfterSummary => "blank-after-summary".toList
  | consecutiveBlankLines => "consecutive-blank-lines".toList
  | blankBeforeSection _ => "blank-before-section".toList
  | trailerCapitalization _ _ => "trailer-capitalization".toList
  | trailerFormat _ => "trailer-format".toList
  | trailerPeriod _ => "trailer-period".toList
  | usernameFormat _ => "username-format".toList
  | unpairedBackticks => "unpaired-backticks".toList

/-- What the content of a trailer has to look like. -/
def formatHint : Trailer.Kind → Text
  | .followUp => "Follow-up line must contain changeset numbers like [12345]".toList
  | .merges => "Merges format should be 'Merges [12345] to the x.x branch.'".toList
  | .fixes => "Fixes line must contain ticket numbers like #12345".toList
  | .see => "See line must contain ticket numbers like #12345".toList
  | .props => "Props format should be 'Props username, another.'".toList
  | .reviewedBy => "Reviewed by format should be 'Reviewed by username, another.'".toList

def message : Problem → Text
  | summaryMissing => "Summary line is required".toList
  | summaryFormat => "Summary line must start with 'Component: Brief summary.'".toList
  | summaryLength length =>
    "Summary line should be ".toList ++ Nat.toDigits 10 summaryMinLength ++ '-' ::
      Nat.toDigits 10 summaryMaxLength ++ " characters (currently ".toList ++
      Nat.toDigits 10 length ++ [')']
  | componentCapitalization => "Component should start with capital letter".toList
  | summaryCapitalization => "Summary should start with capital letter".toList
  | summaryPeriod => "Summary should end with period".toList
  | sectionOrder => "Sections must be in order: ".toList ++ Trailer.orderDescription
  | ticketsCombined => "Fixes and See references must be combined onto one line".toList
  | blankAfterSummary => "Blank line required after summary line".toList
  | consecutiveBlankLines => "Multiple consecutive blank lines".toList
  | blankBeforeSection kind =>
    "Blank line recommended before ".toList ++ kind.label ++ " section".toList
  | trailerCapitalization kind onlyCase =>
    "Should be '".toList ++ kind.keyword ++ '\'' ::
      (if onlyCase then " (capitalized)".toList else [])
  | trailerFormat kind => formatHint kind
  | trailerPeriod kind => kind.label ++ " line must end with period".toList
  | usernameFormat username => "Invalid username format: '".toList ++ username ++ ['\'']
  | unpairedBackticks =>
    "Unpaired backticks - code should be wrapped in `backticks`".toList

end Problem

/-- A problem and where it is: a line, and a span of columns in it. All count from zero, and
`columnEnd` is the first column after the span. -/
structure Finding where
  line : Nat
  columnStart : Nat
  columnEnd : Nat
  problem : Problem
  deriving DecidableEq, Repr

namespace Finding

def isError (f : Finding) : Bool := f.problem.severity == .error

/-- Earlier lines first, and earlier columns first within a line. -/
def precedes (f g : Finding) : Bool :=
  f.line < g.line || (f.line == g.line && f.columnStart ≤ g.columnStart)

def onLine (n : Nat) (line : Text) (problem : Problem) : Finding :=
  { line := n, columnStart := 0, columnEnd := line.length, problem }

/-- A finding at the start of a line, over no column. -/
def atLine (n : Nat) (problem : Problem) : Finding :=
  { line := n, columnStart := 0, columnEnd := 0, problem }

end Finding

end CommitMessage.Lint
