/-
# The recalled line

Recalling loads a line of the history into the prompt and keeps its distance from the newest line as
a cursor.  Completing `clear` empties the history and does not touch the prompt: a `clear` that the
prompt gave up has reset the cursor before, but one that was submitted past the prompt leaves the
cursor on a line that is gone.

The theorem says that this is the only way.  In every state of every run, the cursor names a line of
the history unless a `clear` was completed under it, it has stayed where it was since, and too few
commands have been completed since to fill the history up to it again.
-/
import PortfolioTerminal.Proofs.Since
import PortfolioTerminal.Proofs.Visit.Run

namespace PortfolioTerminal

/-! ## The property -/

/-- The cursor of the prompt, if there is one, names a line of the history. -/
def Shell.CursorNamesLine (s : Shell) : Prop :=
  ∀ i, s.prompt.cursor = some i → i < s.history.length

/-! ## The cursor of the prompt -/

namespace Prompt

variable (p : Prompt) (h : History)

theorem cursor_load_cases (offset : Nat) :
    (p.load h offset).cursor = p.cursor ∨
      (offset < h.length ∧ (p.load h offset).cursor = some offset) := by
  rw [load_eq]
  cases hr : h.recalled? offset with
  | none => exact .inl rfl
  | some raw =>
    rw [History.recalled?_eq] at hr
    obtain ⟨hlt, -⟩ := List.getElem?_eq_some_iff.mp hr
    exact .inr ⟨by simpa using hlt, rfl⟩

/-- A key leaves the cursor where it is, drops it, or sets it on a line of the history. -/
theorem cursor_press_cases (k : Key) :
    (p.press h k).1.cursor = p.cursor ∨ (p.press h k).1.cursor = none ∨
      ∃ i < h.length, (p.press h k).1.cursor = some i := by
  cases k with
  | enter =>
    simp only [press, pressM, Id.run_pure, takeLine]
    split
    · exact .inl rfl
    · exact .inr (.inl rfl)
  | arrowUp =>
    simp only [press_arrowUp, recallOlder_eq]
    split
    · exact .inl rfl
    · obtain hkept | ⟨hlt, hset⟩ :=
        p.cursor_load_cases h (min (p.cursor.elim 0 (· + 1)) (h.length - 1))
      · exact .inl hkept
      · exact .inr (.inr ⟨_, hlt, hset⟩)
  | arrowDown =>
    simp only [press_arrowDown, recallNewer_eq]
    split
    · exact .inl rfl
    · exact .inr (.inl rfl)
    · rename_i i _
      obtain hkept | ⟨hlt, hset⟩ := p.cursor_load_cases h i
      · exact .inl hkept
      · exact .inr (.inr ⟨i, hlt, hset⟩)
  | tab =>
    refine .inl ?_
    simp only [press, pressM, Id.run_pure, complete]
    split
    · cases p.pane.highlighted? <;> rfl
    · rfl
  | escape =>
    refine .inl ?_
    simp only [press, pressM]
    split <;> rfl
  | ctrlC => exact .inr (.inl rfl)
  | ctrlL => exact .inr (.inl rfl)
  | _ => exact .inl rfl

end Prompt

namespace Visit

variable {v : Visit} {op : Operation} {i : Nat}

/-! ## Ways to a cursor without a line -/

/-- The operation completes `clear`. -/
def CompletesClear (v : Visit) (op : Operation) : Prop :=
  ∃ c, v.completion? op = some c ∧ c.pending.command = .clear

/-- In the run, `clear` was completed while the cursor was on a line, and since then the cursor has
been left there and no other `clear` was completed. -/
def ClearedUnder (v : Visit) (i : Nat) : List Operation → Prop :=
  Since (fun before op => (v.performAll before).shell.prompt.cursor = some i ∧
      (v.performAll before).CompletesClear op)
    (fun before op => ((v.performAll before).perform op).visit.shell.prompt.cursor = some i ∧
      ¬ (v.performAll before).CompletesClear op)

/-! ## One operation -/

/-- Completing a command leaves the cursor where it is. -/
theorem cursor_perform_of_completion? {c : Completion} (h : v.completion? op = some c) :
    (v.perform op).visit.shell.prompt.cursor = v.shell.prompt.cursor := by
  rw [prompt_perform_of_completion? h]

theorem Quiet.cursor_cases {s : Shell} (h : v.Quiet op s) :
    s.prompt.cursor = v.shell.prompt.cursor ∨ s.prompt.cursor = none ∨
      ∃ i < v.shell.history.length, s.prompt.cursor = some i := by
  cases h with
  | press k => exact v.shell.prompt.cursor_press_cases v.shell.history k
  | leave k => exact v.shell.prompt.cursor_press_cases v.shell.history k
  | giveUp k => exact v.shell.prompt.cursor_press_cases v.shell.history k
  | _ => exact .inl rfl

/-- An operation leaves the cursor where it is, drops it, or sets it on a line of the history. -/
theorem cursor_perform_cases (v : Visit) (op : Operation) :
    (v.perform op).visit.shell.prompt.cursor = v.shell.prompt.cursor ∨
      (v.perform op).visit.shell.prompt.cursor = none ∨
      ∃ i < v.shell.history.length, (v.perform op).visit.shell.prompt.cursor = some i := by
  cases hc : v.completion? op with
  | some c => exact .inl (cursor_perform_of_completion? hc)
  | none => exact (quiet_perform hc).cursor_cases

/-- Only a completed `clear` makes the history shorter. -/
theorem length_history_le_of_not_completesClear (h : ¬ v.CompletesClear op) :
    v.shell.history.length ≤ (v.perform op).visit.shell.history.length := by
  rw [length_history_perform]
  cases hc : v.completion? op with
  | none => exact le_rfl
  | some c =>
    have hcommand : c.pending.command ≠ .clear := fun hclear => h ⟨c, hc, hclear⟩
    simp [hcommand]

/-! ## Runs -/

theorem cursor_of_clearedUnder {ops : List Operation} (h : v.ClearedUnder i ops) :
    (v.performAll ops).shell.prompt.cursor = some i := by
  rcases List.eq_nil_or_concat ops with rfl | ⟨ops, op, rfl⟩
  · exact absurd h Since.not_nil
  · rw [List.concat_eq_append] at h ⊢
    rw [performAll_concat]
    obtain ⟨hcursor, c, hc, -⟩ | ⟨-, hcursor, -⟩ := Since.concat_iff.mp h
    · rw [cursor_perform_of_completion? hc]
      exact hcursor
    · exact hcursor

/-- In a run from a prompt without a cursor, a cursor without a line has had a `clear` completed
under it. -/
theorem clearedUnder_of_length_le (hv : v.shell.prompt.cursor = none) {ops : List Operation}
    (hcursor : (v.performAll ops).shell.prompt.cursor = some i)
    (hlength : (v.performAll ops).shell.history.length ≤ i) : v.ClearedUnder i ops := by
  induction ops using List.reverseRecOn with
  | nil =>
    rw [performAll_nil, hv] at hcursor
    contradiction
  | append_singleton ops op ih =>
    rw [performAll_concat] at hcursor hlength
    refine Since.concat_iff.mpr ?_
    by_cases hclear : (v.performAll ops).CompletesClear op
    · have ⟨c, hc, _⟩ := hclear
      refine .inl ⟨?_, hclear⟩
      rw [← cursor_perform_of_completion? hc]
      exact hcursor
    · -- the cursor was not set just now, since then it would be on a line
      have hgrows := length_history_le_of_not_completesClear hclear
      obtain hkept | hdropped | ⟨j, hj, hset⟩ := (v.performAll ops).cursor_perform_cases op
      · exact .inr ⟨ih (hkept ▸ hcursor) (hgrows.trans hlength), hcursor, hclear⟩
      · rw [hdropped] at hcursor
        contradiction
      · obtain rfl : j = i := by
          rw [hset] at hcursor
          exact Option.some.inj hcursor
        omega

variable (settings : Settings) (chance : Chance)

/-- **The cursor names a line of the history**, except where a `clear` was completed under it, it
has stayed there since, and no more commands have been completed since than the cursor counts. -/
theorem cursorNamesLine_iff_not_clearedUnder (ops : List Operation) :
    ((start settings chance).performAll ops).shell.CursorNamesLine ↔
      ¬ ∃ i, (start settings chance).ClearedUnder i ops ∧
        ((start settings chance).completedSinceClear ops).length ≤ i := by
  rw [← length_history_performAll (v := start settings chance) rfl]
  constructor
  · rintro hnames ⟨i, hcleared, hlength⟩
    exact absurd (hnames i (cursor_of_clearedUnder hcleared)) (Nat.not_lt.mpr hlength)
  · intro hnot i hcursor
    by_contra hlength
    rw [Nat.not_lt] at hlength
    exact hnot ⟨i, clearedUnder_of_length_le (v := start settings chance) rfl hcursor hlength,
      hlength⟩

/-- A `clear` that is run past the prompt leaves the cursor on a line that is gone. -/
theorem not_cursorNamesLine_of_recall_and_clear :
    ¬ ((start {} .least).performAll
      [.run "pwd" ⟨2024, 3, 9, 14, 5, 0⟩, .key .arrowUp,
        .run "clear" ⟨2024, 3, 9, 14, 5, 0⟩]).shell.CursorNamesLine := by
  intro h
  have hlt : 0 < 0 := h 0 rfl
  contradiction

end Visit

end PortfolioTerminal
