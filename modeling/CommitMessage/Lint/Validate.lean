import CommitMessage.Lint.Summary
import CommitMessage.Lint.Sections
import CommitMessage.Lint.TrailerFormat

/-! All findings on a message. Every rule sees the whole message; the findings are then put in
the order of the text, and those at one place keep the order of the rules. -/

namespace CommitMessage.Lint

def backtickFindings (lines : List Text) : List Finding :=
  lines.zipIdx.filterMap fun (line, number) =>
    if line.count '`' % 2 = 1 then some (.onLine number line .unpairedBackticks) else none

def ruleFindings (lines : List Text) : List Finding :=
  let trailers := trailerLines lines
  summaryFindings lines ++ sectionFindings trailers ++ blankLineFindings lines ++
    trailers.flatMap trailerFindings ++ backtickFindings lines

def validate (lines : List Text) : List Finding :=
  (ruleFindings lines).mergeSort Finding.precedes

def validateText (t : Text) : List Finding := validate t.messageLines

end CommitMessage.Lint
