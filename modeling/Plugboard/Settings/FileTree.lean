import Plugboard.Text.FilePath
/-!
# File trees

The files that settings are read from, by their paths.  Directories are there by
themselves or because a file is inside them.
-/

namespace Plugboard

/-- What a path leads to. -/
inductive FileEntry where
  | file (text : String)
  | directory
  deriving DecidableEq, Repr

/-- Files with their texts, and directories that are there without files. -/
structure FileTree where
  files : List (String × String)
  directories : List String
  deriving DecidableEq, Repr

namespace FileTree

/-- The steps lead to a directory: the top, one that is listed, or one on the way to
another entry. -/
def hasDirectory (tree : FileTree) (steps : List String) : Bool :=
  steps.isEmpty ||
    tree.directories.any (fun path => steps.isPrefixOf (FilePath.steps path)) ||
    tree.files.any (fun file =>
      steps.isPrefixOf (FilePath.steps file.1) && FilePath.steps file.1 != steps)

/-- The entry at steps without a step up. -/
def entryAt? (tree : FileTree) (steps : List String) : Option FileEntry :=
  match tree.files.find? (fun file => FilePath.steps file.1 == steps) with
  | some (_, text) => some (.file text)
  | none => if tree.hasDirectory steps then some .directory else none

/-- Where steps lead, if each step up starts in a directory below the top. -/
def resolve? (tree : FileTree) (visited : List String) : List String → Option (List String)
  | [] => some visited
  | ".." :: rest =>
    if visited.isEmpty || !tree.hasDirectory visited then none
    else resolve? tree visited.dropLast rest
  | step :: rest => resolve? tree (visited ++ [step]) rest

/-- A path that ends in a slash or in a step in place leads to directories only. -/
def endsInside (path : String) : Bool :=
  match (Text.parts '/' path).getLast? with
  | some "" | some "." => true
  | _ => false

/-- What a path leads to, from the top of the tree. -/
def entry? (tree : FileTree) (path : String) : Option FileEntry :=
  match tree.resolve? [] (FilePath.steps path) with
  | none => none
  | some steps =>
    match tree.entryAt? steps with
    | some (.file text) => if endsInside path then none else some (.file text)
    | other => other

end FileTree
end Plugboard
