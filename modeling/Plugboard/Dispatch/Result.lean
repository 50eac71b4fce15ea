import Plugboard.Handler
import Plugboard.Strategy
import Plugboard.LogEvent
/-!
# Results of dispatches

A dispatch visits entries one after the other.  Each visit leaves one record, and the
result of the dispatch and its timeline are two ways to look at the records.
-/

namespace Plugboard

/-- Why an entry was not run. -/
inductive SkipReason where
  | muted
  | circuitOpen
  | queued
  deriving DecidableEq, Repr

namespace SkipReason

def name : SkipReason → String
  | .muted => "muted"
  | .circuitOpen => "circuit_open"
  | .queued => "queued"

def variants : List (String × SkipReason) :=
  [("muted", .muted), ("circuit_open", .circuitOpen), ("queued", .queued)]

def read : Reader SkipReason := .variant variants
def toValue (reason : SkipReason) : Value := .string reason.name

end SkipReason

/-- What a visit came to. -/
inductive VisitOutcome where
  | success (value : Value)
  | failure (failure : Failure)
  | skipped (reason : SkipReason)

/-- The record of one visited entry. -/
structure Visit where
  handler : HandlerId
  outcome : VisitOutcome

/-- Everything a dispatch recorded. -/
structure DispatchResult where
  point : String
  visits : List Visit
  interruptedBy : Option HandlerId

namespace DispatchResult

def empty (point : String) : DispatchResult := ⟨point, [], none⟩

/-- The handlers that succeeded, in order, with their results. -/
def successes (result : DispatchResult) : List (HandlerId × Value) :=
  result.visits.filterMap fun visit =>
    match visit.outcome with
    | .success value => some (visit.handler, value)
    | _ => none

def errors (result : DispatchResult) : List (HandlerId × Failure) :=
  result.visits.filterMap fun visit =>
    match visit.outcome with
    | .failure failure => some (visit.handler, failure)
    | _ => none

/-- The handlers that were skipped, in order, and why. -/
def skipped (result : DispatchResult) : List (HandlerId × SkipReason) :=
  result.visits.filterMap fun visit =>
    match visit.outcome with
    | .skipped reason => some (visit.handler, reason)
    | _ => none

/-- The first result recorded for a handler. -/
def success? (result : DispatchResult) (handler : HandlerId) : Option Value :=
  result.successes.lookup handler

/-- The first failure recorded for a handler. -/
def error? (result : DispatchResult) (handler : HandlerId) : Option Failure :=
  result.errors.lookup handler

/-- Why a handler was skipped first. -/
def skipReason? (result : DispatchResult) (handler : HandlerId) : Option SkipReason :=
  result.skipped.lookup handler

def hasErrors (result : DispatchResult) : Bool := !result.errors.isEmpty
def isInterrupted (result : DispatchResult) : Bool := result.interruptedBy.isSome

def values (result : DispatchResult) : List Value := result.successes.map Prod.snd

def aggregate (result : DispatchResult) (strategy : Strategy) : Value :=
  strategy.aggregate result.values

/-- One line for people. -/
def text (result : DispatchResult) : String :=
  result.point ++ ": " ++ toString result.successes.length ++ " succeeded, " ++
    toString result.errors.length ++ " failed, " ++ toString result.skipped.length ++
    " skipped" ++
    (match result.interruptedBy with
     | some handler => ", interrupted by " ++ handler
     | none => "")

end DispatchResult

/-! ## Timelines -/

/-- What a timeline says of one visit. -/
inductive TimelineOutcome where
  | success (value : Value)
  | error (message : String)
  | skipped (reason : SkipReason)

namespace TimelineOutcome

def ofVisit : VisitOutcome → TimelineOutcome
  | .success value => .success value
  | .failure failure => .error failure.message
  | .skipped reason => .skipped reason

def toValue : TimelineOutcome → Value
  | .success value => .record [("status", .string "success"), ("result", value)]
  | .error message => .record [("status", .string "error"), ("error", .string message)]
  | .skipped reason => .record [("status", .string "skipped"), ("reason", reason.toValue)]

end TimelineOutcome

/-- What happened in a dispatch, visit by visit. -/
structure Timeline where
  point : String
  entries : List (HandlerId × TimelineOutcome)
  interruptedBy : Option HandlerId

namespace Timeline

def ofVisits (point : String) (visits : List Visit) (interruptedBy : Option HandlerId) :
    Timeline :=
  ⟨point, visits.map (fun visit => (visit.handler, .ofVisit visit.outcome)), interruptedBy⟩

def isInterrupted (timeline : Timeline) : Bool := timeline.interruptedBy.isSome

/-- The record handed to sinks, without the times that visits took. -/
def toValue (timeline : Timeline) : Value :=
  .record
    [("extension_point", .string timeline.point),
     ("per_handler", .array (timeline.entries.map fun (handler, outcome) =>
       .record [("handler", .string handler), ("outcome", outcome.toValue)])),
     ("interrupted", .bool timeline.isInterrupted),
     ("interrupted_by", (timeline.interruptedBy.map Value.string).getD .null)]

/-- The target of the log events that a timeline becomes. -/
def target : String := "junction_core::diagnostics"

def entryEvent (point : String) (handler : HandlerId) (outcome : TimelineOutcome) : LogEvent :=
  let named := [("point", Value.string point), ("handler", .string handler)]
  match outcome with
  | .success value =>
    ⟨.debug, target, .message "Handler succeeded", named ++ [("result", .string value.text)]⟩
  | .error message =>
    ⟨.debug, target, .message "Handler failed", named ++ [("error", .string message)]⟩
  | .skipped reason =>
    ⟨.debug, target, .message "Handler skipped", named ++ [("reason", reason.toValue)]⟩

/-- The log events that a timeline becomes: one for the dispatch, one for each visit. -/
def events (timeline : Timeline) : List LogEvent :=
  let summary : LogEvent :=
    ⟨.info, target, .message "Dispatch finished",
      [("point", .string timeline.point), ("handlers", .ofNat timeline.entries.length),
       ("interrupted", .bool timeline.isInterrupted)] ++
      (match timeline.interruptedBy with
       | some handler => [("interrupted_by", .string handler)]
       | none => [])⟩
  summary :: timeline.entries.map fun (handler, outcome) =>
    entryEvent timeline.point handler outcome

end Timeline
end Plugboard
