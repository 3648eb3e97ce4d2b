import CommitMessage.Reference
import CommitMessage.Json.Printer
import CommitMessage.Text.Quoted
import CommitMessage.Text.Lines

/-! What the program reports about its own work. A notice says what happened; its level, the part
of the program it comes from, its wording and its fields are functions of it. -/

namespace CommitMessage

inductive Level where
  | debug
  | info
  | warning
  | error
  | critical
  deriving DecidableEq, Repr

namespace Level

def name : Level → Text
  | debug => "DEBUG".toList
  | info => "INFO".toList
  | warning => "WARNING".toList
  | error => "ERROR".toList
  | critical => "CRITICAL".toList

/-- Greater is graver. -/
def rank : Level → Int
  | debug => 10
  | info => 20
  | warning => 30
  | error => 40
  | critical => 50

def all : List Level := [debug, info, warning, error, critical]

end Level

/-- What can go wrong in a callback, a lookup or a sink: a kind and a text. -/
structure Failure where
  kind : Text
  text : Text
  deriving DecidableEq, Repr

namespace Failure

/-- A failure of no special kind. -/
def plain (text : Text) : Failure := ⟨"RuntimeError".toList, text⟩

/-- The kind and the quoted text. -/
def shown (f : Failure) : Text := f.kind ++ '(' :: f.text.quoted ++ [')']

/-- The last line of a report on the failure. -/
def lastLine (f : Failure) : Text :=
  let report := if f.text.isEmpty then f.kind else f.kind ++ ':' :: ' ' :: f.text
  (report.pieces '\n').getLast?.getD []

end Failure

inductive Notice where
  | cacheHit (r : Reference)
  | cacheSwept (evicted remaining : Nat)
  | lookupFailed (r : Reference) (url error : Text)
  | lookupTransient (r : Reference) (url : Text) (status : Int)
  | lookupRaised (r : Reference) (failure : Failure)
  | pageFetched (url : Text) (status : Int)
  | groupsDispatched (buffer : Text) (generation groups : Nat)
  | staleGroup (buffer : Text) (line : Int)
  | resolutionFailed (r : Reference) (failure : Failure)
  | commitRejected (buffer : Text) (line : Int) (failure : Failure)
  | callbackFailed (failure : Failure)
  | passDispatched (findings occurrences : Nat)
  | fileIgnored (path : Text)
  deriving DecidableEq, Repr

namespace Notice

def level : Notice → Level
  | cacheHit .. | cacheSwept .. | pageFetched .. | groupsDispatched .. | staleGroup ..
  | fileIgnored .. => .debug
  | passDispatched .. => .info
  | lookupFailed .. | lookupTransient .. => .warning
  | lookupRaised .. | resolutionFailed .. | commitRejected .. | callbackFailed .. => .error

/-- The part of the program that reports. -/
def source : Notice → Text
  | cacheSwept .. => "wpcommit.resolve.cache".toList
  | cacheHit .. | lookupFailed .. | lookupTransient .. | lookupRaised .. =>
    "wpcommit.resolve.resolvers".toList
  | pageFetched .. => "wpcommit.resolve.transport".toList
  | groupsDispatched .. | staleGroup .. | resolutionFailed .. | commitRejected .. =>
    "wpcommit.annotate.coordinator".toList
  | callbackFailed .. => "wpcommit.annotate.debounce".toList
  | passDispatched .. | fileIgnored .. => "wpcommit.service".toList

def message : Notice → Text
  | cacheHit r => "Cache hit for ".toList ++ r.label
  | cacheSwept .. => "Evicted expired cache entries".toList
  | lookupFailed r .. => "Reference lookup failed; leaving ".toList ++ r.label ++ " uncached".toList
  | lookupTransient r .. => "Reference lookup returned transient status for ".toList ++ r.label
  | lookupRaised r failure =>
    "Reference lookup for ".toList ++ r.label ++ " raised ".toList ++ failure.shown
  | pageFetched .. => "Fetched reference URL".toList
  | groupsDispatched .. => "Dispatched annotation groups".toList
  | staleGroup .. => "Discarded stale annotation group".toList
  | resolutionFailed .. => "Reference resolution failed".toList
  | commitRejected .. => "Annotation sink rejected commit".toList
  | callbackFailed .. => "Debounced callback failed".toList
  | passDispatched .. => "Validation pass dispatched".toList
  | fileIgnored .. => "Ignoring ineligible file".toList

def nat (n : Nat) : Json := .int n

def fields : Notice → List (Text × Json)
  | cacheHit _ | lookupRaised .. | callbackFailed _ => []
  | cacheSwept evicted remaining =>
    [("evicted".toList, nat evicted), ("remaining".toList, nat remaining)]
  | lookupFailed _ url error => [("url".toList, .string url), ("error".toList, .string error)]
  | lookupTransient _ url status | pageFetched url status =>
    [("url".toList, .string url), ("status_code".toList, .int status)]
  | groupsDispatched buffer generation groups =>
    [("buffer_id".toList, .string buffer), ("generation".toList, nat generation),
     ("groups".toList, nat groups)]
  | staleGroup buffer line | commitRejected buffer line _ =>
    [("buffer_id".toList, .string buffer), ("line".toList, .int line)]
  | resolutionFailed r _ => [("entity".toList, .string r.label)]
  | passDispatched findings occurrences =>
    [("findings".toList, nat findings), ("occurrences".toList, nat occurrences)]
  | fileIgnored path => [("path".toList, .string path)]

/-- The failure that a notice reports on. -/
def failure? : Notice → Option Failure
  | resolutionFailed _ f | commitRejected _ _ f | callbackFailed f => some f
  | _ => none

end Notice

/-- A notice and the pass in whose course it was given. -/
structure LogEntry where
  pass : Option Text
  notice : Notice
  deriving DecidableEq, Repr

end CommitMessage
