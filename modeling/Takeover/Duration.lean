/-
# Takeover.Duration -- spans of time and their text

A duration is a whole number of nanoseconds.  Its text uses the largest unit
among seconds, milliseconds, microseconds and nanoseconds in which it is at
least one, with as many decimals as it needs and no trailing zero; no time at
all is `0ns`.
-/
namespace Takeover

set_option autoImplicit false

/-- A span of time, in nanoseconds. -/
structure Duration where
  nanos : Nat
deriving DecidableEq, Repr, Inhabited

namespace Duration

/-- A second, a millisecond and a microsecond, in nanoseconds. -/
def second : Nat := 1000000000

@[inherit_doc second] def millisecond : Nat := 1000000

@[inherit_doc second] def microsecond : Nat := 1000

/-- A duration of whole seconds and further nanoseconds. -/
def ofSeconds (seconds : Nat) (nanos : Nat) : Duration := ⟨seconds * second + nanos⟩

/-- A duration of whole milliseconds. -/
def ofMillis (millis : Nat) : Duration := ⟨millis * millisecond⟩

/-- The first `width` decimals of `part / unit`, without trailing zeros, by long
division. -/
def decimals (unit : Nat) : (width part : Nat) → List Char
  | 0, _ => []
  | width + 1, part =>
      if part = 0 then []
      else Nat.digitChar (part * 10 / unit) :: decimals unit width (part * 10 % unit)

/-- The duration `nanos`, counted in a unit of which `width` decimals say all. -/
def inUnit (nanos unit width : Nat) (symbol : String) : String :=
  match decimals unit width (nanos % unit) with
  | [] => toString (nanos / unit) ++ symbol
  | fraction => toString (nanos / unit) ++ "." ++ String.ofList fraction ++ symbol

/-- The duration in the largest unit in which it is at least one. -/
def text (d : Duration) : String :=
  if second ≤ d.nanos then inUnit d.nanos second 9 "s"
  else if millisecond ≤ d.nanos then inUnit d.nanos millisecond 6 "ms"
  else if microsecond ≤ d.nanos then inUnit d.nanos microsecond 3 "µs"
  else inUnit d.nanos 1 0 "ns"

end Duration

end Takeover
