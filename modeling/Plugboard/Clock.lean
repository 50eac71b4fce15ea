import Plugboard.Data.Duration
/-!
# The manual clock

A clock in milliseconds that moves only when it is told to, in 64-bit words.
-/

namespace Plugboard

namespace Clock

/-- The time after a duration has passed; the fraction of a millisecond is lost. -/
def advance (now : UInt64) (elapsed : Duration) : UInt64 :=
  now + UInt64.ofNat elapsed.milliseconds

/-- A change of the clock. -/
inductive Change where
  | set (time : UInt64)
  | advance (elapsed : Duration)

def apply (now : UInt64) : Change → UInt64
  | .set time => time
  | .advance elapsed => advance now elapsed

/-- The readings before and after each change. -/
def readings (now : UInt64) : List Change → List UInt64
  | [] => [now]
  | change :: rest => now :: readings (apply now change) rest

end Clock
end Plugboard
