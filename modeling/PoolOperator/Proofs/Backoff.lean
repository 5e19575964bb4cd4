import Mathlib.Data.List.Induction
import Mathlib.Data.Nat.Fib.Basic
import Mathlib.Tactic.NormNum.NatFib
import PoolOperator.Backoff

/-!
# Delays in a row

The delays between two bounds are the Fibonacci numbers, times the lower bound and capped by the
upper one. That sums are cut off at the greatest word makes no difference to this, and neither does
what was asked for before the last reset.
-/

namespace PoolOperator.Backoff

/-- The place in a sequence of delays behind a number of them. -/
def after (least greatest : UInt64) : Nat → Backoff
  | 0 => start least greatest
  | n + 1 => (after least greatest n).next.2

variable (least greatest : UInt64)

theorem toNat_min (a b : UInt64) : (min a b).toNat = min a.toNat b.toNat := by
  rw [UInt64.min_def, Nat.min_def]
  simp only [UInt64.le_iff_toNat_le]
  split <;> rfl

theorem greatest_after (n : Nat) : (after least greatest n).greatest = greatest := by
  induction n with
  | zero => rfl
  | succ n ih => exact ih

/-- Two delays of the sequence sum up to the third one. The cap of the sum is that of the whole. -/
theorem toNat_current_next (b : Backoff) :
    b.next.2.current.toNat = min (b.previous.toNat + b.current.toNat) b.greatest.toNat := by
  have hgreatest : b.greatest.toNat < UInt64.size := b.greatest.toNat_lt
  show (min (saturatingAdd b.previous b.current) b.greatest).toNat = _
  rw [toNat_min, toNat_saturatingAdd]
  -- the cap is a word, so what is cut off at the greatest word is above the cap as well
  omega

theorem toNat_after (n : Nat) :
    (after least greatest n).previous.toNat = min (least.toNat * Nat.fib n) greatest.toNat ∧
      (after least greatest n).current.toNat =
        min (least.toNat * Nat.fib (n + 1)) greatest.toNat := by
  induction n with
  | zero =>
    refine ⟨by simp [after, start], ?_⟩
    show (min least greatest).toNat = _
    rw [toNat_min, Nat.fib_one, Nat.mul_one]
  | succ n ih =>
    obtain ⟨hprevious, hcurrent⟩ := ih
    refine ⟨hcurrent, ?_⟩
    rw [after, toNat_current_next, greatest_after, hprevious, hcurrent, Nat.fib_add_two,
      Nat.mul_add]
    -- behind the cap the pair is no pair of Fibonacci numbers, but its sum is above the cap too
    omega

/-- **The delays are Fibonacci numbers**, times the lower bound and capped by the upper one. -/
theorem toNat_delay (n : Nat) :
    (after least greatest n).next.1.toNat =
      min (least.toNat * Nat.fib (n + 1)) greatest.toNat := (toNat_after least greatest n).2

/-! ## Any calls -/

/-- What may be asked of a sequence of delays: the next one, or to go back to the start. -/
inductive Call where
  | next
  | reset
deriving DecidableEq, Repr

/-- The place in the sequence behind one call. -/
def step (b : Backoff) : Call → Backoff
  | .next => b.next.2
  | .reset => b.reset

/-- The place in the sequence behind some calls. -/
def afterCalls (b : Backoff) (calls : List Call) : Backoff := calls.foldl step b

/-- The delay that follows a number of others, if nothing else is asked for. -/
def nth (b : Backoff) : Nat → UInt64
  | 0 => b.next.1
  | n + 1 => b.next.2.nth n

theorem afterCalls_concat (b : Backoff) (calls : List Call) (c : Call) :
    b.afterCalls (calls ++ [c]) = (b.afterCalls calls).step c := List.foldl_concat ..

theorem nth_after (m n : Nat) :
    (after least greatest m).nth n = (after least greatest (m + n)).next.1 := by
  induction n generalizing m with
  | zero => rfl
  | succ n ih =>
    show (after least greatest (m + 1)).nth n = _
    rw [ih, Nat.add_assoc, Nat.add_comm 1 n]

/-- No call moves the bounds, so a sequence that starts again is the one that was started. -/
theorem reset_afterCalls (calls : List Call) :
    ((start least greatest).afterCalls calls).reset = start least greatest := by
  induction calls using List.reverseRecOn with
  | nil => rfl
  | append_singleton calls c ih =>
    rw [afterCalls_concat]
    cases c with
    | next => exact ih
    | reset =>
      rw [step, ih]
      rfl

theorem toNat_nth (n : Nat) : ((start least greatest).nth n).toNat =
    min (least.toNat * Nat.fib (n + 1)) greatest.toNat := by
  have hnth := nth_after least greatest 0 n
  rw [Nat.zero_add] at hnth
  change (start least greatest).nth n = _ at hnth
  rw [hnth, toNat_delay]

/-- The 94th Fibonacci number is above all words, so that the cap is reached by then. -/
theorem size_le_fib {n : Nat} (h : 93 ≤ n) : UInt64.size ≤ Nat.fib (n + 1) :=
  calc UInt64.size
    _ ≤ Nat.fib 94 := by norm_num [UInt64.size]
    _ ≤ Nat.fib (n + 1) := Nat.fib_mono (by omega)

/-- **The delays in closed form.** From the start, and from a reset on, whatever has been asked for
before, the delays are the Fibonacci numbers 1, 1, 2, 3 and so on, times the lower bound and capped
by the upper one, as numbers without a limit. So they never fall, none is above the upper bound, and
none below the lower one unless this is above the upper one. If the lower bound is not zero, the
upper one is reached with the 94th delay at the latest, and is never left again. -/
theorem delays_closed_form (earlier : List Call) :
    let delay := (start least greatest).nth
    (∀ n, (delay n).toNat = min (least.toNat * Nat.fib (n + 1)) greatest.toNat) ∧
      ((start least greatest).afterCalls earlier).reset.nth = delay ∧
      (∀ m n, m ≤ n → delay m ≤ delay n) ∧ (∀ n, delay n ≤ greatest) ∧
      (least ≤ greatest → ∀ n, least ≤ delay n) ∧
      (0 < least → ∀ n, 93 ≤ n → delay n = greatest) := by
  intro delay
  have hdelay (n : Nat) : (delay n).toNat = min (least.toNat * Nat.fib (n + 1)) greatest.toNat :=
    toNat_nth least greatest n
  refine ⟨hdelay, by rw [reset_afterCalls], ?_, ?_, ?_, ?_⟩
  · intro m n hle
    rw [UInt64.le_iff_toNat_le, hdelay, hdelay]
    have hfib : least.toNat * Nat.fib (m + 1) ≤ least.toNat * Nat.fib (n + 1) :=
      Nat.mul_le_mul_left _ (Nat.fib_mono (by omega))
    omega
  · intro n
    rw [UInt64.le_iff_toNat_le, hdelay]
    exact Nat.min_le_right _ _
  · intro hbounds n
    rw [UInt64.le_iff_toNat_le] at hbounds ⊢
    rw [hdelay]
    have hfib : 0 < Nat.fib (n + 1) := Nat.fib_pos.mpr n.succ_pos
    exact Nat.le_min.mpr ⟨Nat.le_mul_of_pos_right _ hfib, hbounds⟩
  · intro hleast n hn
    have hpos : 0 < least.toNat := UInt64.lt_iff_toNat_lt.mp hleast
    have hcap : greatest.toNat < Nat.fib (n + 1) :=
      Nat.lt_of_lt_of_le greatest.toNat_lt (size_le_fib hn)
    have hfib : Nat.fib (n + 1) ≤ least.toNat * Nat.fib (n + 1) := Nat.le_mul_of_pos_left _ hpos
    rw [← UInt64.toNat_inj, hdelay]
    omega

example : (List.range 8).map (start 1 10).nth = [1, 1, 2, 3, 5, 8, 10, 10] := by decide

/-- Near the greatest word a sum is cut off already behind the second delay. -/
theorem delays_closed_form_cut_off :
    let least : UInt64 := 9223372036854775809
    let greatest : UInt64 := 18446744073709551614
    let again := ((start least greatest).afterCalls [.next, .next, .next, .reset, .next]).reset.nth
    0 < least ∧ least ≤ greatest ∧ (again 1).toNat = least.toNat ∧
      (again 2).toNat = greatest.toNat ∧ least ≤ again 50 ∧ again 93 = greatest := by
  intro least greatest again
  have hpos : 0 < least := by decide
  have hbounds : least ≤ greatest := by decide
  obtain ⟨hdelay, hagain, -, -, hfloor, hcap⟩ :=
    delays_closed_form least greatest [.next, .next, .next, .reset, .next]
  rw [show again = _ from hagain]
  refine ⟨hpos, hbounds, (hdelay 1).trans ?_, (hdelay 2).trans ?_, hfloor hbounds 50,
    hcap hpos 93 (Nat.le_refl 93)⟩
  · decide
  · decide

end PoolOperator.Backoff
