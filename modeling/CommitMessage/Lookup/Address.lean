import CommitMessage.Reference
import CommitMessage.Text.Percent

/-! Where references are looked up, and which identifiers are looked up at all. -/

namespace CommitMessage

/-- The base addresses of the tracker and of the profiles. -/
structure Hosts where
  trac : Text
  profiles : Text
  deriving DecidableEq, Repr

/-- A base address without the slashes at its end. -/
def trimSlashes (t : Text) : Text := (t.reverse.dropWhile (· == '/')).reverse

namespace Reference

/-- Tickets and changesets have numbers in ASCII digits; a profile needs a name. -/
def isValid (r : Reference) : Bool :=
  match r.kind with
  | .ticket | .changeset => !r.identifier.isEmpty && r.identifier.all isAsciiDigit
  | .profile => !r.identifier.isEmpty

def url (hosts : Hosts) (r : Reference) : Text :=
  match r.kind with
  | .ticket => trimSlashes hosts.trac ++ "/ticket/".toList ++ r.identifier ++ "?format=csv".toList
  | .changeset => trimSlashes hosts.trac ++ "/changeset/".toList ++ r.identifier
  | .profile => trimSlashes hosts.profiles ++ '/' :: percentEncode r.identifier ++ ['/']

end Reference

end CommitMessage
