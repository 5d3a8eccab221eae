/-
# Faults

Some operations on numbers and lists have no result for some operands: a draw from a range without
values, an element beyond the end of a list, a difference below zero, a sum that leaves the words, a
remainder by zero.  A program that carries one of them out there stops with a fault.

Whatever may fault is written once, for runs of two kinds.  A run in `Except Fault` checks every
condition and stops at the first that does not hold.  A run in `Id` checks none of them: it always
has a result, and it is that of the checked run unless the checked run stops.
-/

namespace PortfolioTerminal

/-- Why a run stops. -/
inductive Fault
  /-- A draw from a range without values. -/
  | emptyRange
  /-- A place beyond the end of a list. -/
  | outOfBounds
  /-- A sum or a difference that is not among the words. -/
  | overflow
  /-- A remainder by zero. -/
  | zeroDivisor
  /-- An assertion that does not hold. -/
  | assertion
  deriving DecidableEq, Repr

/-- A kind of run, by what it makes of a condition. -/
class Checks (m : Type → Type) where
  /-- Stops with the fault unless the condition holds, or checks nothing. -/
  require (condition : Prop) [Decidable condition] (fault : Fault) : m Unit

instance : Checks (Except Fault) where
  require condition _ fault := if condition then .ok () else .error fault

instance : Checks Id where
  require _ _ _ := ()

namespace Fault

variable {m : Type → Type} [Monad m] [Checks m]

/-! ## Operations that may fault -/

/-- The element at a place; where places are not checked, `standIn` is beyond the end. -/
def item {α : Type} (l : List α) (i : Nat) (standIn : α) : m α := do
  Checks.require (i < l.length) outOfBounds
  pure (l.getD i standIn)

/-- The difference of two unsigned words. -/
def minus (a b : Nat) : m Nat := do
  Checks.require (b ≤ a) overflow
  pure (a - b)

/-- The sum of two signed words. -/
def plus (a b : Int64) : m Int64 := do
  Checks.require ((a + b).toInt = a.toInt + b.toInt) overflow
  pure (a + b)

/-- The Euclidean remainder by a length. -/
def remainder (a : Int) (n : Nat) : m Int := do
  Checks.require (n ≠ 0) zeroDivisor
  pure (a % n)

/-! ## Where they do not fault -/

/-- What does not fault is carried on with. -/
@[simp] theorem ok_bind {α β : Type} (a : α) (f : α → Except Fault β) : .ok a >>= f = f a := rfl

/-- A checked run that does step by step what the unchecked one does comes to the same end. -/
theorem bind_eq_ok {α β : Type} {x : Except Fault α} {y : Id α} {f : α → Except Fault β}
    {g : α → Id β} (hx : x = .ok (Id.run y)) (hf : f (Id.run y) = .ok (Id.run (g (Id.run y)))) :
    x >>= f = .ok (Id.run (y >>= g)) := by
  rw [hx, ok_bind, hf, Id.run_bind]

/-- What comes to an end without a fault did so step by step. -/
theorem exists_of_bind_eq_ok {α β : Type} {x : Except Fault α} {f : α → Except Fault β} {b : β}
    (h : x >>= f = .ok b) : ∃ a, x = .ok a ∧ f a = .ok b := by
  cases x with
  | error fault => contradiction
  | ok a => exact ⟨a, rfl, h⟩

theorem require_of {condition : Prop} [Decidable condition] (h : condition) (fault : Fault) :
    (Checks.require condition fault : Except Fault Unit) = .ok () := if_pos h

theorem require_of_not {condition : Prop} [Decidable condition] (h : ¬ condition) (fault : Fault) :
    (Checks.require condition fault : Except Fault Unit) = .error fault := if_neg h

theorem item_of_lt {α : Type} {l : List α} {i : Nat} (h : i < l.length) (standIn : α) :
    (item l i standIn : Except Fault α) = .ok (l.getD i standIn) := by
  rw [item, require_of h]
  rfl

theorem minus_of_le {a b : Nat} (h : b ≤ a) : (minus a b : Except Fault Nat) = .ok (a - b) := by
  rw [minus, require_of h]
  rfl

theorem plus_of_mem {a b : Int64} (low : Int64.minValue.toInt ≤ a.toInt + b.toInt)
    (high : a.toInt + b.toInt ≤ Int64.maxValue.toInt) :
    (plus a b : Except Fault Int64) = .ok (a + b) := by
  have hsum : (a + b).toInt = a.toInt + b.toInt := by
    rw [Int64.toInt_minValue] at low
    rw [Int64.toInt_maxValue] at high
    rw [Int64.toInt_add]
    exact Int.bmod_eq_of_le (by omega) (by omega)
  rw [plus, require_of hsum]
  rfl

/-- A sum above all words. -/
theorem plus_of_lt {a b : Int64} (h : Int64.maxValue.toInt < a.toInt + b.toInt) :
    (plus a b : Except Fault Int64) = .error overflow := by
  have hsum : ¬ (a + b).toInt = a.toInt + b.toInt := by
    have hword : (a + b).toInt ≤ Int64.maxValue.toInt := (a + b).toInt_le
    omega
  rw [plus, require_of_not hsum]
  rfl

theorem remainder_of_pos (a : Int) {n : Nat} (h : 0 < n) :
    (remainder a n : Except Fault Int) = .ok (a % n) := by
  rw [remainder, require_of (Nat.ne_of_gt h)]
  rfl

end Fault

end PortfolioTerminal
