/-
# Timelines

The timers of a site, in the order in which they fire: earlier ones first, and of those due at the
same time the one made first.
-/
import PortfolioTerminal.Shell

namespace PortfolioTerminal

/-- What a timer does when it fires. -/
inductive Task
  /-- Complete a pending command. -/
  | complete (pending : Pending)
  /-- End the loading of what the editor shows. -/
  | finishLoading
  /-- Visit the next section of the tour that the interval drives. -/
  | tourStop (interval : Nat)
  deriving DecidableEq, Repr

/-- A task and the time in milliseconds at which it is due. -/
structure Timer where
  due : Nat
  task : Task
  deriving DecidableEq, Repr

/-- Timers in the order in which they fire. -/
abbrev Timeline := List Timer

namespace Timeline

/-- The timeline with one more timer, which fires after all that are due no later. -/
def add (line : Timeline) (t : Timer) : Timeline :=
  line.takeWhile (·.due ≤ t.due) ++ t :: line.dropWhile (·.due ≤ t.due)

/-- The timeline without the timers of an interval. -/
def cancel (line : Timeline) (interval : Nat) : Timeline :=
  line.filter fun t => t.task != .tourStop interval

/-- Adding a timer puts it between two parts of the timeline. -/
theorem exists_add_eq (line : Timeline) (t : Timer) :
    ∃ before after, line = before ++ after ∧ line.add t = before ++ t :: after :=
  ⟨_, _, List.takeWhile_append_dropWhile.symm, rfl⟩

@[simp] theorem mem_add {line : Timeline} {t u : Timer} : u ∈ line.add t ↔ u = t ∨ u ∈ line := by
  obtain ⟨before, after, rfl, h⟩ := exists_add_eq line t
  rw [h]
  simp only [List.mem_append, List.mem_cons]
  exact or_left_comm

theorem mem_cancel {line : Timeline} {interval : Nat} {t : Timer} :
    t ∈ line.cancel interval ↔ t ∈ line ∧ t.task ≠ .tourStop interval := by
  simp [cancel]

/-! ## Totals -/

/-- The sum of a weight over all timers. -/
def total (weight : Task → Nat) : Timeline → Nat
  | [] => 0
  | t :: line => weight t.task + total weight line

@[simp] theorem total_nil (weight : Task → Nat) : total weight [] = 0 := rfl

@[simp] theorem total_cons (weight : Task → Nat) (t : Timer) (line : Timeline) :
    total weight (t :: line) = weight t.task + total weight line := rfl

theorem total_append (weight : Task → Nat) (a b : Timeline) :
    total weight (a ++ b) = total weight a + total weight b := by
  induction a with
  | nil => simp
  | cons t a ih =>
    rw [List.cons_append, total_cons, total_cons, ih]
    omega

@[simp] theorem total_add (weight : Task → Nat) (line : Timeline) (t : Timer) :
    total weight (line.add t) = weight t.task + total weight line := by
  obtain ⟨before, after, rfl, h⟩ := exists_add_eq line t
  rw [h, total_append, total_append, total_cons]
  omega

theorem total_cancel_le (weight : Task → Nat) (line : Timeline) (interval : Nat) :
    total weight (line.cancel interval) ≤ total weight line := by
  induction line with
  | nil => simp [cancel]
  | cons t line ih =>
    unfold cancel at ih ⊢
    rw [List.filter_cons]
    split
    · rw [total_cons, total_cons]
      omega
    · rw [total_cons]
      omega

theorem total_le_total {weight weight' : Task → Nat} (h : ∀ task, weight task ≤ weight' task)
    (line : Timeline) : total weight line ≤ total weight' line := by
  induction line with
  | nil => simp [total]
  | cons t line ih =>
    have := h t.task
    rw [total_cons, total_cons]
    omega

end Timeline

end PortfolioTerminal
