import Plugboard.Data.Reader
/-!
# Extension points

An extension point is a value that handlers of its kind may inspect and change.  Two
kinds can share a name and are different kinds all the same.  A point that can be
interrupted carries an interruption: who stopped its dispatch first.
-/

namespace Plugboard

/-- Names a handler. -/
abbrev HandlerId := String

/-- Whether a dispatch was stopped, and by whom. -/
structure Interruption where
  interrupted : Bool
  interruptedBy : Option HandlerId
  deriving DecidableEq, Repr, Inhabited

namespace Interruption

def fresh : Interruption := ⟨false, none⟩

/-- The first to interrupt is kept. -/
def interrupt (state : Interruption) (handler : HandlerId) : Interruption :=
  if state.interrupted then state else ⟨true, some handler⟩

/-- Interrupting has an effect. -/
def accepts (state : Interruption) : Bool := !state.interrupted

@[simp]
theorem interrupt_interrupt (state : Interruption) (first second : HandlerId) :
    (state.interrupt first).interrupt second = state.interrupt first := by
  by_cases h : state.interrupted <;> simp [interrupt, h]

@[simp]
theorem interrupted_interrupt (state : Interruption) (handler : HandlerId) :
    (state.interrupt handler).interrupted = true := by
  by_cases h : state.interrupted <;> simp [interrupt, h]

def toValue (state : Interruption) : Value :=
  .record [("interrupted", .bool state.interrupted),
    ("interrupted_by", (state.interruptedBy.map Value.string).getD .null)]

def read : Reader Interruption := fun dialect document =>
  match Reader.slots ["interrupted", "interrupted_by"] dialect document with
  | some [interrupted, interruptedBy] => do
    let interrupted ← interrupted.required .bool dialect
    let interruptedBy ← interruptedBy.omittable (.option .string) dialect
    return ⟨interrupted, interruptedBy⟩
  | _ => none

end Interruption

/-- What a kind of point shows of its interruption. -/
inductive Access where
  | hidden
  | readOnly
  | writable
  deriving DecidableEq, Repr

/-- A kind of extension point.  The tag tells kinds apart, the name is what they are
called. -/
structure PointKind where
  tag : String
  name : String
  access : Access
  deriving DecidableEq, Repr

/-- What a point holds: a log, data under keys, and its interruption. -/
structure PointBody where
  log : List String
  data : Members
  interruption : Interruption
  deriving DecidableEq, Repr

/-- An extension point. -/
structure Point where
  kind : PointKind
  body : PointBody
  deriving DecidableEq, Repr

namespace Point

def blank (kind : PointKind) : Point := ⟨kind, ⟨[], [], .fresh⟩⟩

/-- The interruption as the dispatcher sees it. -/
def interruption? (point : Point) : Option Interruption :=
  match point.kind.access with
  | .hidden => none
  | .readOnly | .writable => some point.body.interruption

/-- Changes the interruption where the kind allows it. -/
def modifyInterruption (point : Point) (change : Interruption → Interruption) : Point :=
  match point.kind.access with
  | .hidden | .readOnly => point
  | .writable => { point with body.interruption := change point.body.interruption }

/-- Who interrupted the point, if that can be seen. -/
def interrupter? (point : Point) : Option HandlerId :=
  point.interruption?.bind Interruption.interruptedBy

end Point
end Plugboard
