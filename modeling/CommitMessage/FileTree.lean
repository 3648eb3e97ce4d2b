import CommitMessage.Text.Lines
import CommitMessage.Text.Utf8

/-! Files by their paths, as seen from a folder. Folders that hold a file are there without being
named. -/

namespace CommitMessage

inductive FileProblem where
  | missing
  | isFolder
  | noFolder
  | nameTooLong
  | denied
  deriving DecidableEq, Repr

def FileProblem.message : FileProblem → Text
  | missing => "No such file or directory".toList
  | isFolder => "Is a directory".toList
  | noFolder => "Not a directory".toList
  | nameTooLong => "File name too long".toList
  | denied => "Permission denied".toList

/-- What stands at each path; none for a folder. -/
structure FileTree where
  entries : List (List Text × Option Text.Bytes)

namespace FileTree

/-- The components of a path. Empty ones and single periods do not count. -/
def components (path : Text) : List Text :=
  (path.pieces '/').filter fun part => !part.isEmpty && part != ['.']

/-- A path without components that do not count; a period if nothing is left. -/
def plainPath (path : Text) : Text :=
  let parts := Text.joinWith ['/'] (components path)
  if path.head? = some '/' then '/' :: parts else if parts.isEmpty then ['.'] else parts

inductive Node where
  | file (bytes : Text.Bytes)
  | folder

def node? (tree : FileTree) (place : List Text) : Option Node :=
  match tree.entries.find? (·.1 = place) with
  | some (_, some bytes) => some (.file bytes)
  | some (_, none) => some .folder
  | none =>
    if place.isEmpty || tree.entries.any (fun entry => place.isPrefixOf entry.1) then some .folder
    else none

/-- The greatest size of a component, in bytes. -/
def maxName : Nat := 255

def parent : Text := "..".toList

/-- Goes on from a place; nothing is known of what lies outside of the tree. -/
def follow (tree : FileTree) : List Text → List Text → Except FileProblem Node
  | place, [] =>
    match tree.node? place with
    | some node => .ok node
    | none => .error .missing
  | place, name :: rest =>
    if name = parent then
      if place.isEmpty then
        if rest.all (· = parent) then .ok .folder else .error .missing
      else tree.follow place.dropLast rest
    else if maxName < (Text.toBytes name).length then .error .nameTooLong
    else
      match tree.node? (place ++ [name]) with
      | none => .error .missing
      | some (.file bytes) => if rest.isEmpty then .ok (.file bytes) else .error .noFolder
      | some .folder => tree.follow (place ++ [name]) rest

def read (tree : FileTree) (path : Text) : Except FileProblem Text.Bytes :=
  let parts := components path
  if path.head? = some '/' then .error (if parts.isEmpty then .isFolder else .missing)
  else
    match tree.follow [] parts with
    | .ok (.file bytes) => .ok bytes
    | .ok .folder => .error .isFolder
    | .error problem => .error problem

end FileTree

end CommitMessage
