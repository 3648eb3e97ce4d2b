import CommitMessage.Log.Record

/-! Notices as log records. A notice is worded already, so its record takes no arguments. -/

namespace CommitMessage

namespace LogEntry

/-- The record of an entry. Of a report on a failure only the last line is kept. -/
def record (e : LogEntry) : Log.Record :=
  { level := .string e.notice.level.name
    template := .string e.notice.message
    logger := .string e.notice.source
    pass := e.pass
    exception := e.notice.failure?.map Failure.lastLine
    extras := e.notice.fields }

/-- The entry as an object, without its time. -/
def toJson (e : LogEntry) : Json := .object (e.record.fields none e.notice.message)

/-- The entry as a line, with the time it was written at. -/
def line (e : LogEntry) (time : Text) : Text :=
  (Json.object (e.record.fields (some time) e.notice.message)).render

end LogEntry

/-- Objects with their members in the order of their keys, in the order of their texts. -/
def sortedLogs (entries : List Json) : List Json :=
  let texts := entries.map fun entry => (Json.render entry.sortMembers, entry.sortMembers)
  (texts.mergeSort fun a b => Text.precedes a.1 b.1).map (·.2)

end CommitMessage
