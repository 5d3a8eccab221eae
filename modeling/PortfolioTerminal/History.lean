/-
# History

Two logs: the lines that were completed and the outputs that they produced.  Both grow in the same
call, so the two always correspond; only clearing removes anything.
-/
import PortfolioTerminal.Fault
import PortfolioTerminal.Output

namespace PortfolioTerminal

/-! ## Records -/

/-- A completed line, as it was submitted. -/
structure RecordedCommand where
  /-- The place in the log at which it was recorded. -/
  index : Nat
  raw : String
  deriving DecidableEq, Repr

/-- A completed line and its output. -/
structure HistoryRow where
  index : Nat
  raw : String
  output : RecordedOutput
  deriving DecidableEq, Repr

/-- The rows on screen, and how many older ones are left out. -/
structure HistoryView where
  hidden : Nat
  rows : List HistoryRow
  deriving DecidableEq, Repr

/-- The completed lines and their outputs, oldest first. -/
structure History where
  commands : List RecordedCommand := []
  outputs : List RecordedOutput := []
  /-- The identity of the next output; clearing does not reset it. -/
  nextId : Nat := 0
  /-- Whether only the newest rows are on screen. -/
  compact : Bool := false
  /-- Each line has its output. -/
  aligned : commands.length = outputs.length := by rfl
  deriving DecidableEq, Repr

namespace History

/-! ## The logs -/

/-- The history in which nothing was completed yet. -/
def empty : History := {}

/-- The number of completed lines. -/
def length (h : History) : Nat := h.commands.length

/-- Whether nothing was completed yet. -/
def isEmpty (h : History) : Bool := h.commands.isEmpty

/-- The completed lines. -/
def lines (h : History) : List String := h.commands.map (·.raw)

/-- The rows of both logs. -/
def rows (h : History) : List HistoryRow :=
  (h.commands.zip h.outputs).map fun (command, output) => ⟨command.index, command.raw, output⟩

/-- The row that the next completed line would get. -/
def nextRow (h : History) (raw : String) (output : Output) : HistoryRow :=
  ⟨h.length, raw, h.nextId, output⟩

/-! ## Changes -/

/-- The history after one more completed line. -/
def record (h : History) (raw : String) (output : Output) : History :=
  { h with
    commands := h.commands ++ [⟨h.length, raw⟩]
    outputs := h.outputs ++ [⟨h.nextId, output⟩]
    nextId := h.nextId + 1
    aligned := by simp [h.aligned] }

/-- The history with both logs emptied. -/
def clear (h : History) : History := { h with commands := [], outputs := [], aligned := rfl }

/-- The history with its compact view switched over. -/
def toggleCompact (h : History) : History := { h with compact := !h.compact }

variable {m : Type → Type} [Monad m] [Checks m]

/-- Records a completed line, and reads its output back at the place of the line. -/
def recordM (h : History) (raw : String) (output : Output) : m (History × RecordedOutput) := do
  let recorded := h.record raw output
  Checks.require (recorded.commands.length = recorded.outputs.length) .assertion
  let entry ← Fault.item recorded.outputs h.length ⟨h.nextId, output⟩
  pure (recorded, entry)

/-! ## Reading the logs -/

/-- The line `offset` places before the newest one. -/
def recalledM (h : History) (offset : Nat) : m (Option String) :=
  if h.length ≤ offset then pure none
  else do
    let newest ← Fault.minus h.length 1
    let place ← Fault.minus newest offset
    let command ← Fault.item h.commands place ⟨place, ""⟩
    pure (some command.raw)

/-- The line `offset` places before the newest one. -/
def recalled? (h : History) (offset : Nat) : Option String := Id.run (h.recalledM offset)

/-- The lines with their ordinals, counted from one. -/
def numbered (h : History) : List (String × String) :=
  h.lines.zipIdx.map fun (raw, i) => (toString (i + 1), raw)

/-- How many of the newest rows the compact view keeps. -/
def compactLength : Nat := 3

/-- How many of the oldest rows are left out. -/
def hidden (h : History) : Nat := if h.compact then h.length - compactLength else 0

/-- What is on screen. -/
def view (h : History) : HistoryView := ⟨h.hidden, h.rows.drop h.hidden⟩

/-! ## Small laws -/

@[simp] theorem commands_record (h : History) (raw : String) (output : Output) :
    (h.record raw output).commands = h.commands ++ [⟨h.length, raw⟩] := rfl

@[simp] theorem outputs_record (h : History) (raw : String) (output : Output) :
    (h.record raw output).outputs = h.outputs ++ [⟨h.nextId, output⟩] := rfl

@[simp] theorem rows_record (h : History) (raw : String) (output : Output) :
    (h.record raw output).rows = h.rows ++ [h.nextRow raw output] := by
  rw [rows, commands_record, outputs_record, List.zip_append h.aligned, List.map_append]
  rfl

@[simp] theorem nextId_record (h : History) (raw : String) (output : Output) :
    (h.record raw output).nextId = h.nextId + 1 := rfl

@[simp] theorem compact_record (h : History) (raw : String) (output : Output) :
    (h.record raw output).compact = h.compact := rfl

@[simp] theorem rows_clear (h : History) : h.clear.rows = [] := rfl

@[simp] theorem nextId_clear (h : History) : h.clear.nextId = h.nextId := rfl

@[simp] theorem length_record (h : History) (raw : String) (output : Output) :
    (h.record raw output).length = h.length + 1 := by
  simp [length, record]

@[simp] theorem length_clear (h : History) : h.clear.length = 0 := rfl

@[simp] theorem length_outputs (h : History) : h.outputs.length = h.length := h.aligned.symm

@[simp] theorem length_lines (h : History) : h.lines.length = h.length := List.length_map ..

@[simp] theorem length_rows (h : History) : h.rows.length = h.length := by
  rw [rows, List.length_map, List.length_zip, length_outputs, ← length, Nat.min_self]

/-- The rows tell the log of lines. -/
theorem map_command_rows (h : History) :
    h.rows.map (fun row => ⟨row.index, row.raw⟩) = h.commands := by
  rw [rows, List.map_map]
  exact List.map_fst_zip (Nat.le_of_eq h.aligned)

/-- The rows tell the log of outputs. -/
theorem map_output_rows (h : History) : h.rows.map (·.output) = h.outputs := by
  rw [rows, List.map_map]
  exact List.map_snd_zip (Nat.le_of_eq h.aligned.symm)

theorem map_raw_rows (h : History) : h.rows.map (·.raw) = h.lines := by
  rw [lines, ← map_command_rows, List.map_map]
  rfl

/-- The output of a line stands at the place of the line. -/
theorem getElem?_outputs_record (h : History) (raw : String) (output : Output) :
    (h.record raw output).outputs[h.length]? = some ⟨h.nextId, output⟩ := by
  rw [outputs_record, ← length_outputs, List.getElem?_concat_length]

/-- Recording answers with the output, under the next identity. -/
theorem run_recordM (h : History) (raw : String) (output : Output) :
    Id.run (h.recordM raw output) = (h.record raw output, ⟨h.nextId, output⟩) := by
  have hentry : (h.record raw output).outputs.getD h.length ⟨h.nextId, output⟩ =
      ⟨h.nextId, output⟩ := by
    rw [List.getD_eq_getElem?_getD, getElem?_outputs_record, Option.getD_some]
  exact congrArg (Prod.mk _) hentry

/-- Recalling reads the log of lines from its end. -/
theorem recalled?_eq (h : History) (offset : Nat) :
    h.recalled? offset = h.lines.reverse[offset]? := by
  by_cases hle : h.length ≤ offset
  · have hnone : h.lines.reverse[offset]? = none :=
      List.getElem?_eq_none (by simpa using hle)
    rw [recalled?, recalledM, if_pos hle, hnone]
    rfl
  · have hlt : offset < h.lines.length := by simpa using hle
    have hplace : h.length - 1 - offset < h.commands.length := by
      rw [← length]
      omega
    rw [recalled?, recalledM, if_neg hle, List.getElem?_reverse hlt, length_lines, lines,
      List.getElem?_map, List.getElem?_eq_getElem hplace, Option.map_some]
    exact congrArg (fun command => some (RecordedCommand.raw command))
      (List.getElem_eq_getD (h := hplace) _).symm

end History

end PortfolioTerminal
