import Plugboard.Handler
import Plugboard.Queue.Options
/-!
# Queued calls

A queued call carries a handler, a copy of the point it was dispatched with, and the
caller's wishes.  Every run works on the copy as it was made.
-/

namespace Plugboard

/-- A handler run that was handed to a queue. -/
structure QueuedCall (ρ : Type) where
  handler : Handler ρ
  payload : Point
  copies : PointKind
  queue : String
  options : QueueOptions

namespace QueuedCall

variable {ρ : Type}

/-- The point that a run starts from, if the payload is of the kind that is copied. -/
def copy? (call : QueuedCall ρ) : Option Point :=
  if call.payload.kind = call.copies then some call.payload else none

/-- What a run fails with when there is nothing to start from. -/
def mismatch (call : QueuedCall ρ) : Failure :=
  .text ("queued payload for '" ++ call.handler.id ++ "' is not a '" ++
    call.payload.kind.name ++ "'")

def inspect (call : QueuedCall ρ) : String :=
  Text.inspectRecord "QueuedCall"
    [("handler", Text.inspectVariant "HandlerId" [Text.inspectString call.handler.id]),
     ("point", Text.inspectString call.payload.kind.name),
     ("queue", Text.inspectString call.queue),
     ("options", call.options.inspect)]

end QueuedCall

/-- A queue that only collects calls. -/
structure MemoryQueue (ρ : Type) where
  calls : List (QueuedCall ρ)

namespace MemoryQueue

variable {ρ : Type}

def empty : MemoryQueue ρ := ⟨[]⟩

/-- Takes a call, behind the calls before it. -/
def enqueue (queue : MemoryQueue ρ) (call : QueuedCall ρ) : MemoryQueue ρ :=
  ⟨queue.calls ++ [call]⟩

/-- Takes all calls out, in order of arrival. -/
def drain (queue : MemoryQueue ρ) : List (QueuedCall ρ) × MemoryQueue ρ := (queue.calls, empty)

def inspect (queue : MemoryQueue ρ) : String :=
  Text.inspectRecord "MemoryQueue"
    [("calls", Text.inspectRecord "Mutex"
      [("data", Text.inspectList (queue.calls.map QueuedCall.inspect))])]

end MemoryQueue
end Plugboard
