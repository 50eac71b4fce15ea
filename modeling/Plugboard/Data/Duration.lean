import Plugboard.Data.Reader
/-!
# Durations

A duration is a number of nanoseconds that is less than `2^64` seconds.
-/

namespace Plugboard

/-- A span of time. -/
structure Duration where
  nanoseconds : Nat
  bounded : nanoseconds < Nat.pow 2 64 * Nat.pow 10 9
  deriving DecidableEq

namespace Duration

def perSecond : Nat := Nat.pow 10 9
def perMillisecond : Nat := Nat.pow 10 6

instance : Inhabited Duration := ⟨⟨0, by decide⟩⟩
instance : Repr Duration := ⟨fun duration precedence => reprPrec duration.nanoseconds precedence⟩

def zero : Duration := ⟨0, by decide⟩

def longest : Duration := ⟨Nat.pow 2 64 * Nat.pow 10 9 - 1, by decide⟩

/-- The duration of so many nanoseconds, or the longest one. -/
def ofNanoseconds (nanoseconds : Nat) : Duration :=
  if h : nanoseconds < Nat.pow 2 64 * Nat.pow 10 9 then ⟨nanoseconds, h⟩ else longest

theorem nanoseconds_ofNanoseconds (nanoseconds : Nat) :
    (ofNanoseconds nanoseconds).nanoseconds = Nat.min nanoseconds longest.nanoseconds := by
  by_cases h : nanoseconds < Nat.pow 2 64 * Nat.pow 10 9
  · rw [ofNanoseconds, dif_pos h]
    exact (Nat.min_eq_left (Nat.le_pred_of_lt h)).symm
  · rw [ofNanoseconds, dif_neg h]
    exact (Nat.min_eq_right (Nat.le_trans (Nat.pred_le _) (Nat.le_of_not_lt h))).symm

def ofMilliseconds (milliseconds : Nat) : Duration := ofNanoseconds (milliseconds * perMillisecond)
def ofSeconds (seconds : Nat) : Duration := ofNanoseconds (seconds * perSecond)

def seconds (duration : Duration) : Nat := duration.nanoseconds / perSecond

/-- The nanoseconds beyond whole seconds. -/
def fraction (duration : Duration) : Nat := duration.nanoseconds % perSecond

theorem seconds_lt (duration : Duration) : duration.seconds < Nat.pow 2 64 :=
  (Nat.div_lt_iff_lt_mul (by decide)).mpr duration.bounded

theorem fraction_lt (duration : Duration) : duration.fraction < perSecond :=
  Nat.mod_lt _ (by decide)

theorem seconds_mul_add_fraction (duration : Duration) :
    duration.seconds * perSecond + duration.fraction = duration.nanoseconds :=
  Nat.div_add_mod' duration.nanoseconds perSecond

def milliseconds (duration : Duration) : Nat := duration.nanoseconds / perMillisecond

/-- The product, or the longest duration where that is longer. -/
def saturatingMul (duration : Duration) (factor : Nat) : Duration :=
  ofNanoseconds (duration.nanoseconds * factor)

def min (left right : Duration) : Duration :=
  if left.nanoseconds ≤ right.nanoseconds then left else right

theorem nanoseconds_min (left right : Duration) :
    (left.min right).nanoseconds = Nat.min left.nanoseconds right.nanoseconds := by
  by_cases h : left.nanoseconds ≤ right.nanoseconds
  · simp [min, h]
  · simp [min, h, Nat.le_of_not_le h]

/-- Seconds and the nanoseconds beyond them. -/
def toValue (duration : Duration) : Value :=
  .record [("secs", .ofNat duration.seconds), ("nanos", .ofNat duration.fraction)]

/-- Nanoseconds beyond a whole second are carried, and the sum has to be a duration. -/
def ofParts? (seconds nanoseconds : Nat) : Option Duration :=
  let total := seconds * perSecond + nanoseconds
  if h : total < Nat.pow 2 64 * Nat.pow 10 9 then some ⟨total, h⟩ else none

/-- Both parts have to be given, and an object has no other members. -/
def read : Reader Duration := fun dialect document =>
  let known :=
    match document with
    | .object members =>
      members.all fun member => member.1 == some "secs" || member.1 == some "nanos"
    | _ => true
  if known then
    match Reader.slots ["secs", "nanos"] dialect document with
    | some [seconds, nanoseconds] =>
      match seconds.required (.natural (Nat.pow 2 64)) dialect,
          nanoseconds.required (.natural (Nat.pow 2 32)) dialect with
      | some seconds, some nanoseconds => ofParts? seconds nanoseconds
      | _, _ => none
    | _ => none
  else none

/-- Digits after the point, `places` of them, without zeros at the end. -/
def fractionText (fraction places : Nat) : String :=
  let digits := Nat.toDigits 10 fraction
  let padded := List.replicate (places - digits.length) '0' ++ digits
  let kept := (padded.reverse.dropWhile (· == '0')).reverse
  if kept.isEmpty then "" else "." ++ String.ofList kept

/-- The inspected form, in the largest unit that leaves a whole part. -/
def inspect (duration : Duration) : String :=
  let n := duration.nanoseconds
  if perSecond ≤ n then toString (n / perSecond) ++ fractionText (n % perSecond) 9 ++ "s"
  else if perMillisecond ≤ n then
    toString (n / perMillisecond) ++ fractionText (n % perMillisecond) 6 ++ "ms"
  else if 1000 ≤ n then toString (n / 1000) ++ fractionText (n % 1000) 3 ++ "µs"
  else toString n ++ "ns"

end Duration
end Plugboard
