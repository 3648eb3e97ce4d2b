import Std.Time.DateTime
import CommitMessage.Calendar
import CommitMessage.CommandLine.Run
import CommitMessage.Log.Entry

/-! The command. What it does is said by `CommandLine.run`; here the words, the variables, the file
and the input are fetched, and the answer is written. There is no network here, so every lookup
comes to nothing and leaves its reference unverified. -/

namespace CommitMessage.Main

-- A power of whole numbers is the same one, whatever else is imported.
attribute [local instance(1100)] instPowNat

def usage : String := "usage: wpcommit [-h] \x7blint,serve\x7d ..."

def problemOf : IO.Error → FileProblem
  | .noFileOrDirectory .. => .missing
  | .inappropriateType .. => .isFolder
  | .permissionDenied .. => .denied
  | .invalidArgument .. => .nameTooLong
  | _ => .noFolder

def readFile (path : Text) : IO (Except FileProblem Text.Bytes) := do
  match ← (IO.FS.readBinFile (String.ofList (FileTree.plainPath path))).toBaseIO with
  | .ok bytes => return .ok bytes.toList
  | .error e => return .error (problemOf e)

def readInput : IO Text.Bytes := do
  let input ← IO.getStdin
  let mut all := ByteArray.empty
  repeat
    let some ← input.read 65536
    if some.isEmpty then break
    all := all ++ some
  return all.toList

def environment : IO Settings.Environment := do
  let mut env := []
  for v in Settings.Variable.all do
    if let some value ← IO.getEnv (String.ofList v.name) then
      env := (v.name, value.toList) :: env
  return env

def unreachable (_ : Text) : Delivery Float := { reply := .failed "ConnectError".toList }

def timeText : IO Text := do
  let now ← Std.Time.Timestamp.now
  let nanos := now.toNanosecondsSinceUnixEpoch.val
  let moment : Moment := ⟨nanos / 10 ^ (9 : Nat), (nanos % 10 ^ (9 : Nat) / 1000).toNat⟩
  return (moment.text.toOption).getD []

def surroundings (r : CommandLine.Request) : IO (CommandLine.Surroundings Float) := do
  let env ← environment
  let (file, input) : Except FileProblem Text.Bytes × Text.Bytes ← match r with
    | .lint r =>
      if r.path = CommandLine.inputPath then pure (.error .missing, ← readInput)
      else pure (← readFile r.path, [])
    | .serve _ => pure (.error .missing, [])
  return { env, file := fun _ => file, input, network := unreachable,
           time := Binary64.toFloat, now := 0 }

def write (a : CommandLine.Answer Float) : IO Unit := do
  let output ← IO.getStdout
  let errors ← IO.getStderr
  for e in a.log do
    errors.putStrLn (String.ofList (e.line (← timeText)))
  errors.putStr (String.ofList a.complaints)
  output.putStr (String.ofList a.printed)
  if let some r := a.served then
    let place := r.host ++ ':' :: Decimal.ofInt r.port
    errors.putStrLn (String.ofList ("no server for ".toList ++ place))

end CommitMessage.Main

open CommitMessage CommitMessage.Main in
def main (words : List String) : IO UInt32 := do
  match CommandLine.Request.ofWords (words.map String.toList) with
  | .error .help =>
    IO.println usage
    return 0
  | .error .misuse =>
    IO.eprintln usage
    return 2
  | .ok request =>
    match CommandLine.run (← surroundings request) request with
    | .ok answer =>
      write answer
      return UInt32.ofNat answer.status
    | .error (.settings p) =>
      IO.eprintln (String.ofList p.message)
      return 1
    | .error .overflow =>
      IO.eprintln (String.ofList Settings.overflowMessage)
      return 1
    | .error .nullInPath =>
      IO.eprintln "embedded null byte"
      return 1
