import Plugboard.Data.Overlay
import Plugboard.Settings.VariableText
/-!
# Settings from the environment

A variable whose name starts with `JUNCTION_`, in any case, sets the entry that the rest
of its name leads to: two underscores, or a dot, separate the steps, and letters count
in lower case.  `VariableText.read` says what its text stands for.
-/

namespace Plugboard.Environment

/-- What the names of all variables that set something start with. -/
def namePrefix : String := "JUNCTION_"

/-- The variable that names the profile. -/
def profileVariable : String := namePrefix ++ "PROFILE"

/-! ## Names -/

/-- The characters after the common start of the names, if the name has it. -/
def afterPrefix? : List Char → List Char → Option (List Char)
  | [], name => some name
  | _ :: _, [] => none
  | c :: start, d :: name => if c.toLower = d.toLower then afterPrefix? start name else none

/-- The steps that two underscores or a dot separate; `seen` holds the characters of the
current step, last first. -/
def stepsFrom (seen : List Char) : List Char → List (List Char)
  | [] => [seen.reverse]
  | '_' :: '_' :: rest => seen.reverse :: stepsFrom [] rest
  | '.' :: rest => seen.reverse :: stepsFrom [] rest
  | c :: rest => stepsFrom (c :: seen) rest

/-- Where a variable leads, if it leads anywhere: no step may be empty. -/
def steps? (name : String) : Option (List String) :=
  match afterPrefix? namePrefix.toList (Text.trimmed name).toList with
  | none => none
  | some rest =>
    let steps := stepsFrom [] (Text.trimmed (String.ofList rest)).toList
    if steps.any List.isEmpty then none
    else some (steps.map fun step => String.ofList (step.map Char.toLower))

/-! ## The layer -/

/-- A value at the end of steps. -/
def nested (content : Value) : List String → Value
  | [] => content
  | step :: rest => .object [(step, nested content rest)]

/-- The values that the variables set, a later variable over an earlier one. -/
def layer (environment : List (String × String)) : Value :=
  Value.stacked (.object []) (environment.filterMap fun (name, text) =>
    (steps? name).map (nested (VariableText.read text)))

/-- The text of a variable. -/
def get? (name : String) (environment : List (String × String)) : Option String :=
  environment.lookup name

end Plugboard.Environment
