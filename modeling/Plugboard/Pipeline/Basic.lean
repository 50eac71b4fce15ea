/-!
# Pipelines

A payload travels through a list of pipes to a destination.  A pipe sees the payload
and either answers on its own or forwards a payload once and makes its answer from the
outcome of the rest; a failure anywhere comes back through the pipes before it.  A
failure is attributed to the pipe that raised it at the first place where it arrives
without attribution.  In forgiving pipelines a pipe that fails before forwarding is
skipped.
-/

namespace Plugboard

mutual
/-- What a pipe or a destination raises: a plain message, or a pipeline failure that
already names its place. -/
inductive Fault where
  | plain (message : String)
  | attributed (error : PipelineError)

/-- A failure with its place: the pipe with an index, or the destination. -/
inductive PipelineError where
  | pipe (index : Nat) (source : Fault)
  | destination (source : Fault)
end

mutual
def Fault.message : Fault → String
  | .plain message => message
  | .attributed error => error.message

def PipelineError.message : PipelineError → String
  | .pipe index source =>
    "pipe #" ++ toString index ++ " failed: " ++ source.message
  | .destination source => "pipeline destination failed: " ++ source.message
end

instance : Inhabited Fault := ⟨.plain ""⟩

/-- The fault that a pipeline failure wraps. -/
def PipelineError.source : PipelineError → Fault
  | .pipe _ source => source
  | .destination source => source

/-- What a pipe does with a payload. -/
inductive PipeStep (α : Type) where
  | answer (outcome : Except Fault α)
  | forward (payload : α) (resume : Except Fault α → Except Fault α)

/-- A pipe is told the position of the pipe after it. -/
abbrev Pipe (α : Type) := (position : Nat) → α → PipeStep α

/-- Something that a payload reached. -/
inductive Arrival (α : Type) where
  | pipe (index : Nat) (payload : α)
  | destination (payload : α)

/-- How far a run has come: the deepest position entered, whether the destination was
reached, and every arrival in order. -/
structure Progress (α : Type) where
  reached : Nat
  delivered : Bool
  arrivals : List (Arrival α)

namespace Progress

def start {α : Type} : Progress α := ⟨0, false, []⟩

def enter {α : Type} (progress : Progress α) (index : Nat) (payload : α) : Progress α :=
  { progress with
    reached := max progress.reached index
    arrivals := progress.arrivals ++ [.pipe index payload] }

/-- Entering the position after the last pipe. -/
def deliver {α : Type} (progress : Progress α) (index : Nat) (payload : α) : Progress α :=
  { reached := max progress.reached index
    delivered := true
    arrivals :=
      if progress.delivered then progress.arrivals
      else progress.arrivals ++ [.destination payload] }

end Progress

/-- A pipeline that is ready to run, with the hooks that are installed. -/
structure Pipeline (α : Type) where
  payload : α
  pipes : List (Pipe α)
  continueOnFailure : Bool
  successHook : Bool
  failureHook : Bool

/-- A hook that fired, and with what. -/
inductive HookCall (α : Type) where
  | succeeded (payload : α)
  | failed (error : PipelineError)

/-- What a run did. -/
structure PipelineRun (α : Type) where
  outcome : Except PipelineError α
  arrivals : List (Arrival α)
  hooks : List (HookCall α)

namespace Pipeline

variable {α : Type}

/-- The destination answers the first payload that reaches it; its failure is
attributed to it. -/
def arrive (destination : α → Except Fault α) (index : Nat) (payload : α)
    (progress : Progress α) : Except Fault α × Progress α :=
  let outcome :=
    if progress.delivered then .ok payload
    else (destination payload).mapError (fun fault => .attributed (.destination fault))
  (outcome, progress.deliver index payload)

/-- Runs the pipes from position `index` on. -/
def forward (forgiving : Bool) (destination : α → Except Fault α) :
    List (Pipe α) → Nat → α → Progress α → Except Fault α × Progress α
  | [], index, payload, progress => arrive destination index payload progress
  | pipe :: rest, index, payload, progress =>
    let entered := progress.enter index payload
    let (outcome, progress) :=
      match pipe (index + 1) payload with
      | .answer outcome => (outcome, entered)
      | .forward passed resume =>
        let (downstream, progress) :=
          forward forgiving destination rest (index + 1) passed entered
        (resume downstream, progress)
    match outcome with
    | .ok answer => (.ok answer, progress)
    | .error (.attributed error) => (.error (.attributed error), progress)
    | .error (.plain message) =>
      if forgiving && progress.reached ≤ index then
        forward forgiving destination rest (index + 1) payload progress
      else (.error (.attributed (.pipe index (.plain message))), progress)

/-- A failure that no pipe claimed belongs to the first. -/
def placed : Fault → PipelineError
  | .attributed error => error
  | .plain message => .pipe 0 (.plain message)

/-- The hook for an outcome fires if it is installed. -/
def hookCalls (pipeline : Pipeline α) : Except PipelineError α → List (HookCall α)
  | .ok payload => if pipeline.successHook then [.succeeded payload] else []
  | .error error => if pipeline.failureHook then [.failed error] else []

def run (pipeline : Pipeline α) (destination : α → Except Fault α) : PipelineRun α :=
  let (outcome, progress) :=
    forward pipeline.continueOnFailure destination pipeline.pipes 0 pipeline.payload .start
  let outcome := outcome.mapError placed
  ⟨outcome, progress.arrivals, pipeline.hookCalls outcome⟩

end Pipeline
end Plugboard
