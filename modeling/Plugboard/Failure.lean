import Plugboard.Point
/-!
# Failures

Why registering, queueing and dispatching can fail, and how each cause reads.  A
handler fails with a text of its own or with one of these errors, which it may have met
while it used the library itself.
-/

namespace Plugboard

/-- Why the registry refuses. -/
inductive RegistryError where
  /-- Nothing of that name was declared. -/
  | undeclared (name : String)
  /-- The handler is for another kind of point. -/
  | mismatch (handler : HandlerId) (accepts point : String)
  /-- No registration has that handle. -/
  | unknownEntry (handle : Nat)
  deriving DecidableEq, Repr

def RegistryError.message : RegistryError → String
  | .undeclared name => "'" ++ name ++ "' is not a declared extension point"
  | .mismatch handler accepts point =>
    "handler '" ++ handler ++ "' accepts '" ++ accepts ++ "' but was registered for '" ++
      point ++ "'"
  | .unknownEntry handle => "no handler entry with handle " ++ toString handle

/-- Why a queue does not take a call. -/
inductive QueueError where
  | notConfigured (handler : HandlerId)
  | closed (queue : String)
  | full (queue : String)
  | duplicate (key : String)
  /-- The point could not be copied. -/
  | payload (point : String)
  deriving DecidableEq, Repr

def QueueError.message : QueueError → String
  | .notConfigured handler => "no queue configured for queued handler '" ++ handler ++ "'"
  | .closed queue => "queue '" ++ queue ++ "' is closed"
  | .full queue => "queue '" ++ queue ++ "' is full"
  | .duplicate key => "duplicate job for unique key '" ++ key ++ "'"
  | .payload point => "could not capture a '" ++ point ++ "' payload"

mutual
/-- Why a dispatch fails. -/
inductive DispatchError where
  /-- A strict dispatch found no handlers. -/
  | unhandled (point : String)
  | handler (handler : HandlerId) (source : Failure)
  | unresolved (handler : HandlerId)
  | registry (error : RegistryError)
  | queue (error : QueueError)

/-- What a handler fails with. -/
inductive Failure where
  | text (message : String)
  | registry (error : RegistryError)
  | dispatch (error : DispatchError)
end

mutual
def DispatchError.message : DispatchError → String
  | .unhandled point => "strict mode: no handlers registered for '" ++ point ++ "'"
  | .handler _ source => source.message
  | .unresolved id => "handler '" ++ id ++ "' could not be resolved"
  | .registry error => error.message
  | .queue error => error.message

def Failure.message : Failure → String
  | .text message => message
  | .registry error => error.message
  | .dispatch error => error.message
end

@[simp]
theorem DispatchError.message_handler (id : HandlerId) (source : Failure) :
    (DispatchError.handler id source).message = source.message := rfl

@[simp]
theorem Failure.message_dispatch (error : DispatchError) :
    (Failure.dispatch error).message = error.message := rfl

/-- The handler that an error is about. -/
def DispatchError.handlerId? : DispatchError → Option HandlerId
  | .handler id _ => some id
  | .unresolved id => some id
  | .registry (.mismatch id _ _) => some id
  | .queue (.notConfigured id) => some id
  | _ => none

instance : Inhabited DispatchError := ⟨.unhandled ""⟩
instance : Inhabited Failure := ⟨.text ""⟩

end Plugboard
