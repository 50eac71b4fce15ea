import Plugboard.Data.Duration
import Plugboard.Text.Inspected
/-!
# Queue options

What a registration asks of the queue that its calls are handed to.
-/

namespace Plugboard

/-- The wishes of a queued registration. -/
structure QueueOptions where
  queue : Option String
  delay : Option Duration
  retries : UInt32
  backoff : Option Duration
  uniqueKey : Option String
  uniqueTtl : Option Duration
  deriving DecidableEq, Repr

namespace QueueOptions

def standard : QueueOptions := ⟨none, none, 0, none, none, none⟩

instance : Inhabited QueueOptions := ⟨standard⟩

def optional {α : Type} (toValue : α → Value) (value : Option α) : Value :=
  (value.map toValue).getD .null

def toValue (options : QueueOptions) : Value :=
  .record
    [("queue", optional .string options.queue),
     ("delay", optional Duration.toValue options.delay),
     ("retries", .ofNat options.retries.toNat),
     ("backoff", optional Duration.toValue options.backoff),
     ("unique_key", optional .string options.uniqueKey),
     ("unique_ttl", optional Duration.toValue options.uniqueTtl)]

def read : Reader QueueOptions := fun dialect document =>
  match Reader.slots ["queue", "delay", "retries", "backoff", "unique_key", "unique_ttl"]
      dialect document with
  | some [queue, delay, retries, backoff, uniqueKey, uniqueTtl] => do
    let queue ← queue.orElse (.option .string) none dialect
    let delay ← delay.orElse (.option Duration.read) none dialect
    let retries ← retries.orElse .word32 0 dialect
    let backoff ← backoff.orElse (.option Duration.read) none dialect
    let uniqueKey ← uniqueKey.orElse (.option .string) none dialect
    let uniqueTtl ← uniqueTtl.orElse (.option Duration.read) none dialect
    return ⟨queue, delay, retries, backoff, uniqueKey, uniqueTtl⟩
  | _ => none

def inspect (options : QueueOptions) : String :=
  let text := fun (value : Option String) => Text.inspectOption (value.map Text.inspectString)
  let time := fun (value : Option Duration) => Text.inspectOption (value.map Duration.inspect)
  Text.inspectRecord "QueueOptions"
    [("queue", text options.queue), ("delay", time options.delay),
     ("retries", toString options.retries.toNat), ("backoff", time options.backoff),
     ("unique_key", text options.uniqueKey), ("unique_ttl", time options.uniqueTtl)]

end QueueOptions
end Plugboard
