/-! Lengths of time. -/
namespace FormScript

structure Duration where
  secs : UInt64
  nanos : Fin 1000000000
  deriving DecidableEq, Repr

namespace Duration

def zero : Duration := ⟨0, 0⟩

/-- Carries full seconds over; there is none that takes more seconds than 64 bits hold. -/
def ofParts? (secs nanos : Nat) : Option Duration :=
  let total := secs + nanos / 1000000000
  if total < UInt64.size then
    some ⟨UInt64.ofNat total, ⟨nanos % 1000000000, Nat.mod_lt _ (by decide)⟩⟩
  else none

end Duration

end FormScript
