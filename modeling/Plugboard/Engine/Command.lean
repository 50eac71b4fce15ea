import Plugboard.Registry.Report
import Plugboard.Dispatch.Result
import Plugboard.Dispatch.Settings
import Plugboard.Circuit.Breaker
import Plugboard.Queue.Timed
/-!
# Commands, answers and behaviours

A command is one use of the engine.  A behaviour is what a handler does while it runs:
it may give commands, see their answers, and in the end leaves the point changed and
gives a result.  Behaviours are data, so handlers can be stored in the engine that they
use.
-/

namespace Plugboard

/-! ## Commands -/

/-- Uses of the circuit breaker. -/
inductive BreakerCommand where
  | isEnabled
  | settings
  | isAvailable (id : HandlerId)
  | state (id : HandlerId)
  | effective (id : HandlerId)
  | stored (id : HandlerId)
  | storedSize
  | preset (id : HandlerId) (record : Option CircuitRecord)
  | failure (id : HandlerId) (times : Nat)
  | success (id : HandlerId) (times : Nat)
  | trip (id : HandlerId)
  | close (id : HandlerId)
  | reset (id : HandlerId)

/-- Uses of the registry. -/
inductive RegistryCommand (ρ : Type) where
  | register (code : HandlerCode ρ) (priority : Int)
  | registerQueued (code : HandlerCode ρ) (priority : Int) (options : QueueOptions)
  | registerDeferred (kind : PointKind) (id : HandlerId) (priority : Int)
  | registerFor (kind : PointKind) (code : HandlerCode ρ) (priority : Int)
  | registerNamed (name : String) (code : HandlerCode ρ) (priority : Int)
  | registerInScope (scope : String) (code : HandlerCode ρ) (priority : Int)
  | registerInGroup (group : String) (code : HandlerCode ρ) (priority : Int)
      (options : Option QueueOptions)
  | registerDeferredInGroup (group : String) (kind : PointKind) (id : HandlerId) (priority : Int)
  | declare (kind : PointKind)
  | declared (name : String)
  | view (kind : PointKind) (full : Bool)
  | hasHandlers (kind : PointKind)
  | entry (handle : Nat)
  | handleText (handle : Nat)
  | size
  | stats
  | hasTag (handle : Nat) (tag : String)
  | tag (handle : Nat) (tags : List String)
  | untag (handle : Nat) (tag : String)
  | tagged (tag : String)
  | disableTag (tag : String)
  | enableTag (tag : String)
  | isTagDisabled (tag : String)
  | groupMembers (group : String)
  | disableGroup (group : String)
  | enableGroup (group : String)
  | isGroupDisabled (group : String)
  | removeGroup (group : String)
  | clearScope (scope : String)
  | remove (handle : Nat)
  | removeHandler (kind : PointKind) (id : HandlerId)
  | forget (kind : PointKind)
  | clear

/-- The ways to dispatch: how the caller is answered, and whether listeners are told. -/
inductive DispatchMode where
  | plain
  | silent
  | interruptible
  | interruptibleSilent
  | results
  | aggregate
  deriving DecidableEq, Repr

namespace DispatchMode

def notifies : DispatchMode → Bool
  | .silent | .interruptibleSilent => false
  | _ => true

/-- The point is given away and comes back only with an answer. -/
def consumesPoint : DispatchMode → Bool
  | .plain | .silent => true
  | _ => false

end DispatchMode

/-- One dispatch.  A point kept under a slot is used before the body given here. -/
structure DispatchRequest where
  kind : PointKind
  mode : DispatchMode
  flags : Option FlagChoice
  slot : Option String
  body : PointBody
  strategy : Option Strategy
  lookup : Option (List HandlerId)

/-- What can be inspected. -/
inductive Inspection (ρ : Type) where
  | registry
  | dispatcher
  | call (choice : FlagChoice)
  | breaker
  | bus
  | resolver
  | queue
  | timedQueue
  | handler (code : HandlerCode ρ)
  | entry (handle : Nat)

/-- One use of the engine. -/
inductive Command (ρ : Type) where
  | registry (command : RegistryCommand ρ)
  | breaker (command : BreakerCommand)
  | advanceClock (elapsed : Duration)
  | setClock (time : UInt64)
  | mute (id : HandlerId)
  | unmute (id : HandlerId)
  | isMuted (id : HandlerId)
  | muted (ids : List HandlerId) (commands : List (Command ρ))
  | silence (commands : List (Command ρ))
  | silenceOn
  | resume
  | isSilenced
  | subscribe (kind : PointKind) (name : String) (reaction : Option (Command ρ))
  | listenerCount (kind : PointKind)
  | unsubscribeAll (kind : PointKind)
  | notify (key : PointKind) (point : Point)
  | addFactory (id : HandlerId) (code : HandlerCode ρ)
  | addInstance (id : HandlerId) (code : HandlerCode ρ)
  | canResolve (id : HandlerId)
  | resolve (id : HandlerId)
  | refuseCalls (error : Option QueueError)
  | queueSize
  | drainQueue (times : Nat)
  | queuePayloads (kind : PointKind)
  | runPending
  | dispatch (request : DispatchRequest)
  | peek (kind : PointKind) (slot : String)
  | settings
  | call (code : HandlerCode ρ) (point : Point)
  | checkSignature (code : HandlerCode ρ) (kind : PointKind)
  | inspect (what : Inspection ρ)

/-! ## Answers -/

/-- A call taken out of the memory queue, with what running it gave. -/
structure DrainedCall where
  handler : HandlerId
  point : String
  queue : String
  options : QueueOptions
  runs : List HandlerResult

/-- What a result says about one handler. -/
structure HandlerLookup where
  success : Option Value
  error : Option Failure
  skipped : Option SkipReason

/-- What a command answers. -/
inductive Answer where
  | done
  | nothing
  | flag (flag : Bool)
  | count (count : Nat)
  | text (text : String)
  | size (size : Nat)
  | registered (handle : Nat)
  | registeredInGroup (handle : Nat) (group : String)
  | refused (error : RegistryError)
  | malformed
  | declared (kind : PointKind)
  | view (entries : List EntryView)
  | entries (entries : List EntryView)
  | entry (entry : EntryView)
  | stats (stats : RegistryStats)
  | circuitSettings (settings : CircuitSettings)
  | circuitState (state : CircuitState)
  | circuit (record : CircuitRecord)
  | time (time : UInt64)
  | list (answers : List Answer)
  | resolved (id : HandlerId) (accepts : PointKind) (shared : Bool)
  | drained (calls : List DrainedCall)
  | payloads (points : List (Option Point))
  | outcomes (outcomes : List (HandlerId × HandlerResult))
  | completed (point : Point)
  | verdict (passed : Bool) (point : Point)
  | aggregated (value : Value) (point : Point)
  | results (result : DispatchResult) (lookup : Option (List HandlerLookup))
      (aggregate : Option Value) (point : Point)
  | failed (error : DispatchError) (point : Option Point)
  | point (point : Point)
  | settings (settings : DispatchSettings)
  | called (outcome : HandlerResult) (point : Point)
  | tooDeep
  | unsupported

/-! ## Events -/

/-- Something that was noticed while commands ran. -/
inductive Event where
  | heard (name : String) (point : Point)
  | timeline (timeline : Timeline)
  | interrupting (accepted : Bool)
  | nested (answer : Answer)
  | log (event : LogEvent)

/-! ## Behaviours -/

/-- What a handler does while it runs. -/
inductive Behaviour where
  /-- The run is over: the point is left like this, and this is the result. -/
  | finish (body : PointBody) (result : HandlerResult)
  | panic (message : String)
  /-- Asks how often this instance has asked before. -/
  | count (resume : Nat → Behaviour)
  | announce (event : Event) (resume : Behaviour)
  | operate (command : Command Behaviour) (resume : Answer → Behaviour)
  /-- Dispatches a blank point of another kind in the middle of the run. -/
  | propagate (kind : PointKind) (strict : Bool)
      (resume : Except DispatchError DispatchResult → Behaviour)

end Plugboard
