/-
# Runs of a shell

A run is a sequence of operations, and what every operation keeps, every run keeps.  What a run
leaves in the history is told by the commands that it completes.
-/
import Mathlib.Data.List.DropRight
import Mathlib.Data.List.Forall2
import Mathlib.Data.List.Induction
import PortfolioTerminal.Proofs.Visit.Outstanding

namespace PortfolioTerminal.Visit

variable {v : Visit} {op : Operation} {c : Completion}

/-! ## Runs -/

theorem performAll_concat (v : Visit) (ops : List Operation) (op : Operation) :
    v.performAll (ops ++ [op]) = ((v.performAll ops).perform op).visit := by
  rw [performAll_append]
  rfl

/-- What every operation keeps, every run keeps. -/
theorem invariant_performAll {P : Visit → Prop} (hstep : ∀ v op, P v → P (v.perform op).visit)
    {v : Visit} (h : P v) (ops : List Operation) : P (v.performAll ops) := by
  induction ops using List.reverseRecOn with
  | nil => exact h
  | append_singleton ops op ih =>
    rw [performAll_concat]
    exact hstep _ op ih

/-! ## What a run yields -/

/-- What the operations of a run yield, in their order. -/
def yields {α : Type} (f : Visit → Operation → Option α) (v : Visit) : List Operation → List α
  | [] => []
  | op :: ops => (f v op).toList ++ yields f (v.perform op).visit ops

theorem yields_append {α : Type} (f : Visit → Operation → Option α) (v : Visit)
    (before after : List Operation) :
    v.yields f (before ++ after) = v.yields f before ++ (v.performAll before).yields f after := by
  induction before generalizing v with
  | nil => rfl
  | cons op before ih => simp [yields, ih]

theorem yields_concat {α : Type} (f : Visit → Operation → Option α) (v : Visit)
    (ops : List Operation) (op : Operation) :
    v.yields f (ops ++ [op]) = v.yields f ops ++ (f (v.performAll ops) op).toList := by
  simp [yields_append, yields]

/-- What a run yields, one of its operations yields. -/
theorem exists_of_mem_yields {α : Type} {f : Visit → Operation → Option α} {ops : List Operation}
    {a : α} (h : a ∈ v.yields f ops) : ∃ before op, f (v.performAll before) op = some a := by
  induction ops generalizing v with
  | nil => cases h
  | cons op ops ih =>
    rw [yields, List.mem_append, Option.mem_toList] at h
    obtain h | h := h
    · exact ⟨[], op, h⟩
    · obtain ⟨before, later, hlater⟩ := ih h
      exact ⟨op :: before, later, hlater⟩

/-! ## Completed commands -/

/-- The commands that a run completes, in the order in which it completes them. -/
def completed (v : Visit) : List Operation → List Completion
  | [] => []
  | op :: ops => (v.completion? op).toList ++ (v.perform op).visit.completed ops

theorem completed_eq_yields (v : Visit) (ops : List Operation) :
    v.completed ops = v.yields completion? ops := by
  induction ops generalizing v with
  | nil => rfl
  | cons op ops ih => rw [completed, yields, ih]

theorem completed_concat (v : Visit) (ops : List Operation) (op : Operation) :
    v.completed (ops ++ [op]) =
      v.completed ops ++ ((v.performAll ops).completion? op).toList := by
  simp only [completed_eq_yields, yields_concat]

/-- The commands that a run has completed since it last completed `clear`. -/
def completedSinceClear (v : Visit) (ops : List Operation) : List Completion :=
  (v.completed ops).rtakeWhile fun c => c.pending.command ≠ .clear

theorem completedSinceClear_concat (v : Visit) (ops : List Operation) (op : Operation) :
    v.completedSinceClear (ops ++ [op]) =
      ((v.performAll ops).completion? op).elim (v.completedSinceClear ops) fun c =>
        if c.pending.command = .clear then [] else v.completedSinceClear ops ++ [c] := by
  rw [completedSinceClear, completed_concat]
  cases (v.performAll ops).completion? op with
  | none => simp [completedSinceClear]
  | some c =>
    by_cases hc : c.pending.command = .clear <;> simp [completedSinceClear, hc]

/-- In a run from empty logs, the rows are those of the commands completed since the last `clear`,
one by one. -/
theorem forall₂_rows_performAll (hv : v.shell.history.rows = []) (ops : List Operation) :
    List.Forall₂ (fun c row => c.row? = some row) (v.completedSinceClear ops)
      (v.performAll ops).shell.history.rows := by
  induction ops using List.reverseRecOn with
  | nil => simp [completedSinceClear, completed, hv]
  | append_singleton ops op ih =>
    rw [performAll_concat, rows_perform, completedSinceClear_concat]
    cases (v.performAll ops).completion? op with
    | none => exact ih
    | some c =>
      by_cases hclear : c.pending.command = .clear
      · simp [hclear]
      · obtain ⟨row, hrow⟩ := Completion.exists_row? hclear
        simp only [Option.elim_some, hclear, if_false, hrow, Option.toList_some]
        exact List.rel_append ih (.cons hrow .nil)

/-- The history has one line for each command completed since the last `clear`. -/
theorem length_history_performAll (h : v.shell.history.length = 0) (ops : List Operation) :
    (v.performAll ops).shell.history.length = (v.completedSinceClear ops).length := by
  have hnone : v.shell.history.rows = [] := by
    rwa [← List.length_eq_zero_iff, History.length_rows]
  rw [← History.length_rows]
  exact (forall₂_rows_performAll hnone ops).length_eq.symm

/-- A row is recorded under the number of lines in the log. -/
theorem index_of_row? (hc : v.completion? op = some c) {row : HistoryRow}
    (hrow : c.row? = some row) : row.index = v.shell.history.length := by
  obtain ⟨output, -, rfl⟩ := Option.map_eq_some_iff.mp hrow
  exact (sameWork_of_completion? hc).length_eq

/-- In a run from empty logs, the rows are counted from zero. -/
theorem map_index_rows_performAll (hv : v.shell.history.rows = []) (ops : List Operation) :
    (v.performAll ops).shell.history.rows.map (·.index) =
      List.range (v.performAll ops).shell.history.length := by
  induction ops using List.reverseRecOn with
  | nil =>
    rw [performAll_nil, ← History.length_rows, hv]
    rfl
  | append_singleton ops op ih =>
    rw [performAll_concat, rows_perform, length_history_perform]
    cases hc : (v.performAll ops).completion? op with
    | none => exact ih
    | some c =>
      by_cases hclear : c.pending.command = .clear
      · simp [hclear]
      · obtain ⟨row, hrow⟩ := Completion.exists_row? hclear
        simp only [Option.elim_some, hclear, if_false, hrow, Option.toList_some, List.map_append,
          List.map_singleton, ih, index_of_row? hc hrow, List.range_succ]

/-! ## Commands and their lines -/

/-- Every outstanding command is what its line reads as. -/
def Parsed (v : Visit) : Prop := ∀ p ∈ v.outstanding, p.command = Command.parse p.raw

theorem Parsed.perform (h : v.Parsed) (op : Operation) : (v.perform op).visit.Parsed := by
  intro p hp
  rw [outstanding_perform, List.mem_append, Option.mem_toList] at hp
  rcases hp with hp | hp
  · exact h p ((v.kept_sublist op).subset hp)
  · obtain ⟨s, line, -, -, rfl⟩ := exists_pendingOf_of_handedOut? hp
    exact s.command_pendingOf line

theorem parsed_performAll (settings : Settings) (chance : Chance) (ops : List Operation) :
    ((start settings chance).performAll ops).Parsed :=
  invariant_performAll (fun _ op h => h.perform op) (by simp [Parsed, outstanding_start]) ops

/-- The command that an operation completes is what its line reads as. -/
theorem Parsed.of_completion? (h : v.Parsed) (hc : v.completion? op = some c) :
    c.pending.command = Command.parse c.pending.raw := by
  cases op with
  | complete which now =>
    obtain ⟨p, hp, rfl⟩ := Option.map_eq_some_iff.mp hc
    exact h p (List.mem_of_getElem? hp)
  | run line now =>
    obtain ⟨-, rfl⟩ := completion?_run_eq_some_iff.mp hc
    exact v.shell.command_pendingOf line
  | _ => simp [completion?] at hc

end PortfolioTerminal.Visit
