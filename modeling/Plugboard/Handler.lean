import Plugboard.Failure
/-!
# Handlers

A handler has an id, accepts one kind of point, and reacts to a point of that kind.
What a reaction is, is left open here: it may use the engine that runs it.
-/

namespace Plugboard

/-- What a handler does, before it is made an instance. -/
structure HandlerCode (ρ : Type) where
  id : HandlerId
  accepts : PointKind
  react : PointBody → ρ

/-- A handler instance.  Two handlers with the same serial number are one instance. -/
structure Handler (ρ : Type) extends HandlerCode ρ where
  serial : Nat

/-- What running a handler gives. -/
abbrev HandlerResult := Except Failure Value

/-- How a mismatch calls a point whose kind is not known. -/
def foreignPoint : String := "<foreign point type>"

/-- A handler fits the points of one kind only, whatever their name. -/
def checkSignature {ρ : Type} (point : PointKind) (handler : HandlerCode ρ) :
    Except RegistryError Unit :=
  if handler.accepts = point then .ok ()
  else .error (.mismatch handler.id handler.accepts.name point.name)

end Plugboard
