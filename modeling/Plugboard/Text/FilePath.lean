import Plugboard.Text.Parts
/-!
# File paths

A path is a text of steps between slashes.  Empty steps and steps that stay in place
do not count, and a step of two dots goes up.
-/

namespace Plugboard.FilePath

/-- The steps of a path, without empty steps and steps that stay in place. -/
def steps (path : String) : List String :=
  (Text.parts '/' path).filter (fun step => step != "" && step != ".")

/-- Takes steps one after the other; a step up takes the last one back. -/
def walk (visited : List String) : List String → List String
  | [] => visited
  | step :: rest => walk (if step = ".." then visited.dropLast else visited ++ [step]) rest

/-- A path inside a directory. -/
def inside (directory name : String) : String := directory ++ "/" ++ name

/-- The last step, unless it goes up. -/
def fileName? (path : String) : Option String :=
  (steps path).getLast?.filter (· != "..")

/-- The part of a file name after its last dot.  A name has none without a dot, or with
no dot but the first character. -/
def extensionOf (name : String) : String :=
  let reversed := name.toList.reverse
  let after := reversed.takeWhile (· != '.')
  match reversed.drop after.length with
  | [] | ['.'] => ""
  | _ => String.ofList after.reverse

/-- The extension of the file that a path leads to. -/
def extension (path : String) : String := ((fileName? path).map extensionOf).getD ""

end Plugboard.FilePath
