/-!
# Backoff

Delays between attempts, in seconds. Each is the sum of the two before it, and none exceeds a
greatest one.
-/

namespace PoolOperator

/-- The sum of two words, or the greatest word if the sum exceeds it. -/
def saturatingAdd (a b : UInt64) : UInt64 := UInt64.ofNat (min (a.toNat + b.toNat) (UInt64.size - 1))

theorem toNat_saturatingAdd (a b : UInt64) :
    (saturatingAdd a b).toNat = min (a.toNat + b.toNat) (UInt64.size - 1) := by
  unfold saturatingAdd
  rw [UInt64.toNat_ofNat']
  have : UInt64.size = 18446744073709551616 := rfl
  omega

/-- A sequence of delays and the place reached in it. -/
structure Backoff where
  least : UInt64
  greatest : UInt64
  /-- The delay given last; zero at the start. -/
  previous : UInt64
  /-- The delay to be given next. -/
  current : UInt64
deriving DecidableEq, Repr, Inhabited

namespace Backoff

/-- The start of the sequence between two bounds. The lower one gives way if it is above the
upper one. -/
def start (least greatest : UInt64) : Backoff := ⟨least, greatest, 0, min least greatest⟩

/-- The next delay, and the place behind it. -/
def next (b : Backoff) : UInt64 × Backoff :=
  (b.current,
    { b with
      previous := b.current
      current := min (saturatingAdd b.previous b.current) b.greatest })

/-- Back to the start. -/
def reset (b : Backoff) : Backoff := start b.least b.greatest

end Backoff

end PoolOperator
