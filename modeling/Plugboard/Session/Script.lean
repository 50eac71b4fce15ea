import Plugboard.Engine.Run
/-!
# Scripted handlers

A script describes a handler by actions on the point, taken in order, and by what it
returns in the end.  Scripts become behaviours, so that the engine runs them like any
other handler.
-/

namespace Plugboard

/-- One step of a scripted handler. -/
inductive ScriptAction where
  | log (text : String)
  | set (key : String) (value : Value)
  | increment (key : String)
  | interrupt (id : HandlerId)
  | restore (state : Option Interruption)
  | operate (command : Command Behaviour)

/-- What a scripted handler returns. -/
inductive ScriptReturn where
  | unit
  | value (value : Value)
  | data (key : String)
  | log
  | failure (failure : Failure)
  | panic (message : String)
  /-- One return per run of the instance; the last one stays. -/
  | sequence (returns : List ScriptReturn)
  | propagate (kind : PointKind) (strict : Bool)
  deriving Inhabited

/-- A scripted handler. -/
structure Script where
  id : HandlerId
  kind : PointKind
  actions : List ScriptAction
  result : ScriptReturn

namespace Script

/-- The next integer after the one kept under a key, in 64-bit words with sign. -/
def incremented (key : String) (data : Members) : Members :=
  let value := ((Members.get? key data).bind Value.asSigned?).getD 0
  Members.insert key (.ofInt ((value + 1).bmod (Nat.pow 2 64))) data

/-- The return for a run, of those in a sequence. -/
def choose (run : Nat) (returns : List ScriptReturn) : ScriptReturn :=
  (returns[run]?).getD (returns.getLast?.getD .unit)

/-- Ends a run; `run` says how many runs of the instance came before. -/
def finish : Nat → Nat → PointBody → ScriptReturn → Behaviour
  | 0, _, body, _ => .finish body (.ok .null)
  | fuel + 1, run, body, result =>
    match result with
    | .unit => .finish body (.ok .null)
    | .value value => .finish body (.ok value)
    | .data key => .finish body (.ok ((Members.get? key body.data).getD .null))
    | .log => .finish body (.ok (.array (body.log.map .string)))
    | .failure failure => .finish body (.error failure)
    | .panic message => .panic message
    | .sequence returns => finish fuel run body (choose run returns)
    | .propagate kind strict =>
      .propagate kind strict fun
        | .ok result => .finish body (.ok (.string result.text))
        | .error error => .finish body (.error (.dispatch error))

/-- Sequences nest no deeper than this. -/
def sequenceDepth : Nat := 64

/-- Takes the actions in order and then ends the run. -/
def behave (kind : PointKind) (run : Nat) (result : ScriptReturn) :
    List ScriptAction → PointBody → Behaviour
  | [], body => finish sequenceDepth run body result
  | action :: rest, body =>
    match action with
    | .log text => behave kind run result rest { body with log := body.log ++ [text] }
    | .set key value =>
      behave kind run result rest { body with data := Members.insert key value body.data }
    | .increment key => behave kind run result rest { body with data := incremented key body.data }
    | .interrupt id =>
      if kind.access = .writable then
        .announce (.interrupting body.interruption.accepts)
          (behave kind run result rest { body with interruption := body.interruption.interrupt id })
      else behave kind run result rest body
    | .restore state =>
      match state with
      | some state =>
        if kind.access = .hidden then behave kind run result rest body
        else behave kind run result rest { body with interruption := state }
      | none => behave kind run result rest body
    | .operate command =>
      .operate command fun answer =>
        .announce (.nested answer) (behave kind run result rest body)

def toHandler (script : Script) : HandlerCode Behaviour :=
  { id := script.id
    accepts := script.kind
    react := fun body =>
      .count fun run => behave script.kind run script.result script.actions body }

end Script
end Plugboard
