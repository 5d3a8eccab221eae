/-
# Random choices

Where random choices come from is left open.  A generator answers requests for a number between two
bounds, and what it answers may depend on everything that it was asked before.  All that is expected
of it is that it keeps to the bounds.
-/
import PortfolioTerminal.Fault

namespace PortfolioTerminal

/-- A source of random numbers. -/
structure Generator where
  /-- The answer to a request for a number from `low` to `high`, after the requests `asked`. -/
  answer (asked : List (Nat × Nat)) (low high : Nat) : Nat
  /-- The bounds of the requests so far, the last one first. -/
  asked : List (Nat × Nat) := []

/-- What the choices of a run are left to. -/
structure Chance where
  /-- The generator that starts from a seed, or from no seed. -/
  generator (seed : Option UInt64) : Generator

namespace Generator

variable {m : Type → Type} [Monad m] [Checks m]

/-- A number from `low` to `high`, and the generator for the next request. -/
def draw (g : Generator) (low high : Nat) : m (Nat × Generator) := do
  Checks.require (low ≤ high) .emptyRange
  pure (g.answer g.asked low high, { g with asked := (low, high) :: g.asked })

/-- One of the numbers below `n`, and the generator for the next request. -/
def drawBelow (g : Generator) (n : Nat) : m (Nat × Generator) := do
  Checks.require (0 < n) .emptyRange
  g.draw 0 (n - 1)

theorem draw_of_le (g : Generator) {low high : Nat} (h : low ≤ high) :
    (g.draw low high : Except Fault (Nat × Generator)) = .ok (Id.run (g.draw low high)) := by
  rw [draw, Fault.require_of h]
  rfl

theorem drawBelow_of_pos (g : Generator) {n : Nat} (h : 0 < n) :
    (g.drawBelow n : Except Fault (Nat × Generator)) = .ok (Id.run (g.drawBelow n)) := by
  rw [drawBelow, Fault.require_of h, Fault.ok_bind, draw_of_le g (Nat.zero_le _)]
  rfl

/-! ## Keeping to the bounds -/

/-- Every answer is between the bounds of its request, unless there is nothing between them. -/
def KeepsToBounds (g : Generator) : Prop :=
  ∀ asked low high, low ≤ high →
    low ≤ g.answer asked low high ∧ g.answer asked low high ≤ high

theorem KeepsToBounds.draw {g : Generator} (h : g.KeepsToBounds) (low high : Nat) :
    (Id.run (g.draw low high)).2.KeepsToBounds := h

theorem KeepsToBounds.drawBelow {g : Generator} (h : g.KeepsToBounds) (n : Nat) :
    (Id.run (g.drawBelow n)).2.KeepsToBounds := h

theorem KeepsToBounds.drawBelow_lt {g : Generator} (h : g.KeepsToBounds) {n : Nat} (hn : 0 < n) :
    (Id.run (g.drawBelow n)).1 < n :=
  Nat.lt_of_le_of_lt (h g.asked 0 (n - 1) (Nat.zero_le _)).2 (Nat.sub_lt hn Nat.one_pos)

end Generator

namespace Chance

/-- Every generator keeps to the bounds. -/
def KeepsToBounds (chance : Chance) : Prop := ∀ seed, (chance.generator seed).KeepsToBounds

/-- The least of the numbers, every time. -/
def least : Chance := ⟨fun _ => { answer := fun _ low _ => low }⟩

theorem keepsToBounds_least : least.KeepsToBounds :=
  fun _ _ low _ h => ⟨Nat.le_refl low, h⟩

end Chance

end PortfolioTerminal
