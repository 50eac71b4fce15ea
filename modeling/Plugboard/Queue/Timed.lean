import Plugboard.Queue.Call
import Plugboard.Data.Table
import Plugboard.LogEvent
/-!
# The timed queue

A timed queue accepts calls up to a capacity, refuses calls whose unique key is taken,
and has a worker that runs each call after its delay and, after a failure, again after
a backoff that doubles.  Here it is a state machine: accepting a call, the worker
reading the calls accepted so far, and the end of one attempt are its steps, and time
is a number that the caller moves.  A step that several threads can take at once is put
together from single accesses to the keys, the counts and the channel, in their order.
-/

namespace Plugboard

/-! ## Unique keys -/

/-- The keys that are taken, each until a time or until its call is over. -/
abbrev UniqueKeys := Table String (Option Nat)

namespace UniqueKeys

/-- A key without a time does not expire. -/
def isLive (now : Nat) (expiry : Option Nat) : Bool :=
  match expiry with
  | none => true
  | some time => decide (now < time)

def live (now : Nat) (keys : UniqueKeys) : UniqueKeys :=
  keys.filter (fun entry => isLive now entry.2)

/-- The system's clock tells no time from this one on: it counts seconds in a signed word of
64 bits. -/
def timeBound : Nat := Nat.pow 2 63 * Duration.perSecond

/-- The clock can tell when a key expires that is taken now. -/
def canExpire (now : Nat) (ttl : Option Duration) : Bool :=
  ttl.all (fun ttl => decide (now + ttl.nanoseconds < timeBound))

/-- How the claim to a key comes out. -/
inductive Claim where
  | granted
  | taken (key : String)
  /-- The clock cannot tell when the key would expire. -/
  | overflow
  deriving DecidableEq, Repr

/-- Takes a key unless it is taken. -/
def claim (keys : UniqueKeys) (now : Nat) (key : String) (ttl : Option Duration) :
    UniqueKeys × Claim :=
  let keys := keys.live now
  if keys.has key then (keys, .taken key)
  else if canExpire now ttl then
    (keys.set key (ttl.map (fun ttl => now + ttl.nanoseconds)), .granted)
  else (keys, .overflow)

/-- Gives a key back, whoever has it. -/
def release (keys : UniqueKeys) (key : String) : UniqueKeys := keys.remove key

/-- The call that took a key is over; a key with a time stays until then. -/
def finish (keys : UniqueKeys) (key : String) : UniqueKeys :=
  match keys.get? key with
  | some none => keys.remove key
  | _ => keys

/-- The keys once a call has given its own back. -/
def released (keys : UniqueKeys) (options : QueueOptions) : UniqueKeys :=
  match options.uniqueKey with
  | none => keys
  | some key => keys.release key

/-- The keys once a call is over. -/
def finished (keys : UniqueKeys) (options : QueueOptions) : UniqueKeys :=
  match options.uniqueKey with
  | none => keys
  | some key => keys.finish key

end UniqueKeys

/-! ## Backoff -/

/-- No backoff is longer than 300 seconds. -/
def Duration.longestBackoff : Duration := .ofSeconds 300

/-- The wait before retry `attempt`: the base, doubled with each retry. -/
def Duration.backoff (base : Duration) (attempt : Nat) : Duration :=
  (base.saturatingMul (Nat.min (Nat.pow 2 (attempt - 1)) (Nat.pow 2 32 - 1))).min longestBackoff

theorem Duration.backoff_le (base : Duration) (attempt : Nat) :
    (base.backoff attempt).nanoseconds ≤ longestBackoff.nanoseconds := by
  simp only [backoff, Duration.min]
  split
  · assumption
  · exact Nat.le_refl _

/-! ## The queue -/

/-- How an accepted call comes to its end. -/
inductive CallEnd where
  | completed
  | failed
  | abandoned
  deriving DecidableEq

/-- Counts since the queue started. -/
structure QueueStats where
  accepted : Nat
  completed : Nat
  failed : Nat
  retried : Nat
  deduplicated : Nat
  deriving DecidableEq, Repr

namespace QueueStats

def none : QueueStats := ⟨0, 0, 0, 0, 0⟩

/-- The counts once one more call has come to its end. -/
def counting (stats : QueueStats) : CallEnd → QueueStats
  | .completed => { stats with completed := stats.completed + 1 }
  | .failed => { stats with failed := stats.failed + 1 }
  | .abandoned => stats

def fields (stats : QueueStats) : List (String × Nat) :=
  [("accepted", stats.accepted), ("completed", stats.completed), ("failed", stats.failed),
   ("retried", stats.retried), ("deduplicated", stats.deduplicated)]

def inspect (stats : QueueStats) : String :=
  Text.inspectRecord "QueueStats"
    (stats.fields.map fun (field, count) => (field, toString count))

end QueueStats

/-- A call that waits for its next attempt; `retries` counts the retries so far. -/
structure Waiting (ρ : Type) where
  call : QueuedCall ρ
  retries : Nat
  due : Nat
  /-- The worker has read other calls since this wait began. -/
  overtaken : Bool

/-- Why the channel to the worker does not take a call. -/
inductive SendError where
  | full
  | closed
  deriving DecidableEq, Repr

/-- What the caller is told then. -/
def SendError.refusal (name : String) : SendError → QueueError
  | .full => .full name
  | .closed => .closed name

/-- A queue with its worker. -/
structure TimedQueue (ρ : Type) where
  name : String
  capacity : Nat
  /-- The worker has been told to stop. -/
  closed : Bool
  /-- The worker has closed its end of the channel. -/
  hungUp : Bool
  keys : UniqueKeys
  stats : QueueStats
  /-- Accepted calls that are not over. -/
  pending : Nat
  /-- Accepted calls that the worker has not read. -/
  unread : List (QueuedCall ρ)
  /-- Calls that wait for an attempt, in the order in which they began to wait. -/
  waiting : List (Waiting ρ)
  /-- Time in nanoseconds since the queue started. -/
  time : Nat

/-- How an attempt ended. -/
inductive AttemptOutcome where
  | value (value : Value)
  | failure (failure : Failure)
  | panic (message : String)

namespace TimedQueue

variable {ρ : Type}

def start (name : String) (capacity : Nat) : TimedQueue ρ :=
  { name, capacity, closed := false, hungUp := false, keys := [], stats := .none, pending := 0
    unread := [], waiting := [], time := 0 }

/-- The worker holds at least one call unread. -/
def room (queue : TimedQueue ρ) : Nat := Nat.max queue.capacity 1

/-! ### Single accesses -/

/-- The call's key is taken, which expires keys whose time is over. -/
def claimKey (queue : TimedQueue ρ) (now : Nat) (options : QueueOptions) :
    TimedQueue ρ × UniqueKeys.Claim :=
  match options.uniqueKey with
  | none => (queue, .granted)
  | some key =>
    let (keys, claim) := queue.keys.claim now key options.uniqueTtl
    ({ queue with keys }, claim)

def releaseKey (queue : TimedQueue ρ) (options : QueueOptions) : TimedQueue ρ :=
  { queue with keys := queue.keys.released options }

def finishKey (queue : TimedQueue ρ) (options : QueueOptions) : TimedQueue ρ :=
  { queue with keys := queue.keys.finished options }

def raisePending (queue : TimedQueue ρ) : TimedQueue ρ :=
  { queue with pending := queue.pending + 1 }

def lowerPending (queue : TimedQueue ρ) : TimedQueue ρ :=
  { queue with pending := queue.pending - 1 }

def countAccepted (queue : TimedQueue ρ) : TimedQueue ρ :=
  { queue with stats := { queue.stats with accepted := queue.stats.accepted + 1 } }

def countDuplicate (queue : TimedQueue ρ) : TimedQueue ρ :=
  { queue with stats := { queue.stats with deduplicated := queue.stats.deduplicated + 1 } }

def countRetry (queue : TimedQueue ρ) : TimedQueue ρ :=
  { queue with stats := { queue.stats with retried := queue.stats.retried + 1 } }

def countEnd (queue : TimedQueue ρ) (how : CallEnd) : TimedQueue ρ :=
  { queue with stats := queue.stats.counting how }

/-- The channel to the worker takes a call, unless it is closed or full. -/
def send (queue : TimedQueue ρ) (call : QueuedCall ρ) : TimedQueue ρ × Except SendError Unit :=
  if queue.hungUp then (queue, .error .closed)
  else if queue.unread.length < queue.room then
    ({ queue with unread := queue.unread ++ [call] }, .ok ())
  else (queue, .error .full)

/-! ### Steps -/

/-- Offers a call.  There is no answer when the caller panics, because the clock cannot tell
when the call's key would expire. -/
def enqueue (queue : TimedQueue ρ) (now : Nat) (call : QueuedCall ρ) :
    TimedQueue ρ × Option (Except QueueError Unit) :=
  if queue.closed then (queue, some (.error (.closed queue.name)))
  else
    match queue.claimKey now call.options with
    | (queue, .overflow) => (queue, none)
    | (queue, .taken key) => (queue.countDuplicate, some (.error (.duplicate key)))
    | (queue, .granted) =>
      match queue.raisePending.send call with
      | (queue, .ok ()) => (queue.countAccepted, some (.ok ()))
      | (queue, .error error) =>
        (queue.lowerPending.releaseKey call.options, some (.error (error.refusal queue.name)))

/-- A call that the worker has read waits for its delay. -/
def waitFor (queue : TimedQueue ρ) (call : QueuedCall ρ) : Waiting ρ :=
  { call, retries := 0
    due := queue.time + (call.options.delay.map Duration.nanoseconds).getD 0
    overtaken := false }

/-- The worker reads the calls accepted so far, if there are any. -/
def receive (queue : TimedQueue ρ) : TimedQueue ρ :=
  if queue.unread.isEmpty then queue
  else
    { queue with
      unread := []
      waiting :=
        queue.waiting.map (fun waiting => { waiting with overtaken := true }) ++
        queue.unread.map queue.waitFor }

/-- The first of those that are due earliest. -/
def earliest? : List (Waiting ρ) → Option (Waiting ρ)
  | [] => none
  | first :: rest =>
    match earliest? rest with
    | none => some first
    | some other => if first.due ≤ other.due then some first else some other

/-- Takes out the first that is due at a time. -/
def takeDue (due : Nat) : List (Waiting ρ) → List (Waiting ρ)
  | [] => []
  | first :: rest => if first.due = due then rest else first :: takeDue due rest

/-- Taking out the earliest leaves the others. -/
theorem takeDue_perm {first : Waiting ρ} {waiting : List (Waiting ρ)}
    (hfirst : earliest? waiting = some first) :
    waiting.Perm (first :: takeDue first.due waiting) := by
  induction waiting generalizing first with
  | nil => simp [earliest?] at hfirst
  | cons head rest ih =>
    simp only [earliest?] at hfirst
    split at hfirst
    · cases hfirst
      simp [takeDue]
    · rename_i least hleast
      split at hfirst <;> cases hfirst
      · simp [takeDue]
      · rename_i hlt
        have hne : head.due ≠ first.due := by omega
        simp only [takeDue, hne, if_false]
        exact ((ih hleast).cons head).trans (List.Perm.swap first head _)

/-- The next attempt: the call that is due first, out of the queue, whose time has
moved to that moment. -/
def next? (queue : TimedQueue ρ) : Option (Waiting ρ × TimedQueue ρ) :=
  (earliest? queue.waiting).map fun first =>
    (first, { queue with
      waiting := takeDue first.due queue.waiting
      time := Nat.max queue.time first.due })

/-- A call is over, one way or the other. -/
def leave (queue : TimedQueue ρ) (call : QueuedCall ρ) : TimedQueue ρ :=
  (queue.finishKey call.options).lowerPending

def wait (attempted : Waiting ρ) : Duration :=
  (attempted.call.options.backoff.getD .zero).backoff (attempted.retries + 1)

def mayRetry (attempted : Waiting ρ) : Bool :=
  decide (attempted.retries < attempted.call.options.retries.toNat)

/-- How a call ends with an attempt that came out like this, unless it is tried again. -/
def endOf? (attempted : Waiting ρ) : AttemptOutcome → Option CallEnd
  | .value _ => some .completed
  | .failure _ => if mayRetry attempted then none else some .failed
  | .panic _ => some .failed

/-- A call that waits for its next attempt. -/
def again (queue : TimedQueue ρ) (attempted : Waiting ρ) : Waiting ρ :=
  { attempted with
    retries := attempted.retries + 1
    due := queue.time + (wait attempted).nanoseconds
    overtaken := false }

def settle (queue : TimedQueue ρ) (attempted : Waiting ρ) (outcome : AttemptOutcome) :
    TimedQueue ρ :=
  match endOf? attempted outcome with
  | none => { queue.countRetry with waiting := queue.waiting ++ [queue.again attempted] }
  | some how => (queue.countEnd how).leave attempted.call

/-- Closes the queue: calls that wait are abandoned, calls not read are lost. -/
def shutdown (queue : TimedQueue ρ) : TimedQueue ρ :=
  let queue := queue.waiting.foldl (fun queue waiting => queue.leave waiting.call) queue
  { queue with closed := true, hungUp := true, waiting := [], unread := [] }

/-- A caller that waits for the queue to be empty goes on. -/
def isDrained (queue : TimedQueue ρ) : Bool := queue.pending == 0 || queue.closed

def advanceTo (queue : TimedQueue ρ) (time : Nat) : TimedQueue ρ :=
  { queue with time := Nat.max queue.time time }

/-- How often a caller that waits for the queue to be empty looks again. -/
def pollInterval : Nat := 5 * Duration.perMillisecond

/-- The first moment, counted from `start` in poll intervals, that is not before `time`. -/
def nextPoll (start time : Nat) : Nat :=
  start + (time - start + pollInterval - 1) / pollInterval * pollInterval

/-! ## What the queue reports -/

/-- The target of the queue's log events. -/
def target : String := "junction_runtime::queue"

def event (level : Level) (message : String) (fields : List (String × Value)) : LogEvent :=
  ⟨level, target, .message message, fields⟩

def named (name : String) : String × Value := ("queue", .string name)
def about (handler : HandlerId) : String × Value := ("handler", .string handler)

def startEvent (queue : TimedQueue ρ) : LogEvent :=
  event .info "Queue worker started" [named queue.name, ("capacity", .ofNat queue.capacity)]

/-- What a caller panics with when its key would expire beyond all time. -/
def overflowMessage : String := "overflow when adding duration to instant"

def enqueueEvents (queue : TimedQueue ρ) (call : QueuedCall ρ) :
    Except QueueError Unit → List LogEvent
  | .ok () => [event .debug "Call queued" [named queue.name, about call.handler.id]]
  | .error (.duplicate key) =>
    [event .debug "Duplicate call rejected" [named queue.name, ("key", .string key)]]
  | .error _ => []

def settleEvent (attempted : Waiting ρ) (outcome : AttemptOutcome) : LogEvent :=
  let call := attempted.call
  let subject := [named call.queue, about call.handler.id]
  let attempts := ("attempts", Value.ofNat (attempted.retries + 1))
  match outcome with
  | .value value =>
    event .debug "Queued call completed" (subject ++ [attempts, ("result", .string value.text)])
  | .failure failure =>
    let error := ("error", Value.string failure.message)
    if mayRetry attempted then
      event .warn "Queued call failed, retrying"
        (subject ++ [("attempt", .ofNat (attempted.retries + 1)),
          ("retry_in_ms", .ofNat (wait attempted).milliseconds), error])
    else event .warn "Queued call failed" (subject ++ [attempts, error])
  | .panic message =>
    event .warn "Queued call panicked" (subject ++ [("error", .string message)])

def abandonEvent (waiting : Waiting ρ) : LogEvent :=
  event .debug
    (if waiting.retries = 0 then "Delayed call abandoned on shutdown"
     else "Retry abandoned on shutdown")
    [about waiting.call.handler.id]

/-- The waits and the worker end in the order in which they began to wait. -/
def shutdownEvents (queue : TimedQueue ρ) : List LogEvent :=
  (queue.waiting.filter Waiting.overtaken).map abandonEvent ++
  (if queue.closed then [] else [event .debug "Queue worker loop exited" [named queue.name]]) ++
  (queue.waiting.filter (fun waiting => !waiting.overtaken)).map abandonEvent ++
  [event .info "Queue worker stopped" [named queue.name]]

def inspect (queue : TimedQueue ρ) : String :=
  Text.inspectRecord "TokioQueue"
    [("name", Text.inspectString queue.name), ("closed", Text.inspectBool queue.closed),
     ("stats", queue.stats.inspect)]

end TimedQueue
end Plugboard
