/-
# What the operations of the shell do

One equation for each way in which an operation of the shell can go.  Whatever is proved about runs
of a shell rests on these equations and not on the definitions of the operations.

Submitting has three ways: the shell is busy, the line is blank, or the line is accepted.  A key has
three ways in an idle shell, one for each thing that the prompt can ask for; a line that the prompt
gives up is never blank, so an idle shell always accepts it.  Completing a command is described one
part of the shell at a time, in terms of the outcome of the command.
-/
import PortfolioTerminal.Proofs.Evaluation
import PortfolioTerminal.Proofs.Session.Layout
import PortfolioTerminal.Shell

namespace PortfolioTerminal

/-! ## What the prompt asks for -/

namespace Prompt

/-- A prompt gives up the line that was typed, unless it is blank, or `clear`. -/
theorem press_eq_submit_iff {p : Prompt} {h : History} {k : Key} {line : String} :
    (p.press h k).2 = some (.submit line) ↔
      (k = .enter ∧ line = p.buffer ∧ Text.isAllBlank line = false) ∨
        (k = .ctrlL ∧ line = "clear") := by
  cases k with
  | enter =>
    simp only [press, pressM, Id.run_pure, takeLine, true_and, reduceCtorEq, false_and, or_false]
    split
    · rename_i hblank
      simp only [reduceCtorEq, false_iff, not_and]
      rintro rfl
      simp [hblank]
    · rename_i hblank
      simp only [Option.some.injEq, PromptAction.submit.injEq]
      constructor
      · rintro rfl
        exact ⟨rfl, by simpa using hblank⟩
      · rintro ⟨rfl, -⟩
        rfl
  | ctrlL =>
    simp only [press, pressM, Id.run_pure, Option.some.injEq, PromptAction.submit.injEq,
      reduceCtorEq, false_and, true_and, false_or]
    exact eq_comm
  | escape =>
    simp only [press, pressM]
    split <;> simp
  | _ => simp [press, pressM]

/-- A line that a key gives up for submission is not blank. -/
theorem isAllBlank_of_press_submit {p : Prompt} {h : History} {k : Key} {line : String}
    (hs : (p.press h k).2 = some (.submit line)) : Text.isAllBlank line = false := by
  obtain ⟨-, -, hblank⟩ | ⟨-, rfl⟩ := press_eq_submit_iff.mp hs
  · exact hblank
  · decide

/-- Only the escape key asks to close the editor, and only while no suggestions are shown. -/
theorem press_eq_closeOverlay_iff {p : Prompt} {h : History} {k : Key} :
    (p.press h k).2 = some .closeOverlay ↔ k = .escape ∧ p.pane.visible = false := by
  cases k with
  | enter =>
    simp only [press, pressM, Id.run_pure, takeLine, reduceCtorEq, false_and, iff_false]
    split <;> simp
  | escape =>
    cases hv : p.pane.visible <;> simp [press, pressM, hv]
  | _ => simp [press, pressM]

end Prompt

namespace Shell

/-! ## Submitting -/

/-- The shell that has accepted a line and waits for the command. -/
def accepting (s : Shell) : Shell :=
  { s with session := s.session.setProcessing true, generator := s.chooseDelay.2 }

/-- The command that an accepted line becomes. -/
def pendingOf (s : Shell) (raw : String) : Pending := ⟨raw, Command.parse raw, s.chooseDelay.1⟩

/-- An accepted line becomes the command that it reads as. -/
theorem command_pendingOf (s : Shell) (raw : String) :
    (s.pendingOf raw).command = Command.parse (s.pendingOf raw).raw := by
  simp only [pendingOf]

theorem submit_of_processing {s : Shell} (h : s.session.processing = true) (raw : String) :
    s.submit raw = ⟨s, .error .busy, [.rejectedBusy raw]⟩ := by
  rw [submit, submitM, if_pos h]
  rfl

theorem submit_of_blank {s : Shell} (h : s.session.processing = false) {raw : String}
    (hb : Text.isAllBlank raw = true) : s.submit raw = ⟨s, .error .emptyInput, []⟩ := by
  rw [submit, submitM, if_neg (by simp [h]), if_pos hb]
  rfl

theorem submit_of_idle {s : Shell} (h : s.session.processing = false) {raw : String}
    (hb : Text.isAllBlank raw = false) :
    s.submit raw = ⟨s.accepting, .ok (s.pendingOf raw), []⟩ := by
  rw [submit, submitM, if_neg (by simp [h]), if_neg (by simp [hb])]
  rfl

/-- A submission is rejected and changes nothing, or the shell is idle and accepts the line. -/
theorem submit_cases (s : Shell) (raw : String) :
    ((s.submit raw).shell = s ∧ ∃ f, (s.submit raw).answer = .error f) ∨
      (s.session.processing = false ∧ (s.submit raw).shell = s.accepting ∧
        (s.submit raw).answer = .ok (s.pendingOf raw)) := by
  cases h : s.session.processing with
  | true => exact .inl (by simp [submit_of_processing h])
  | false =>
    cases hb : Text.isAllBlank raw with
    | true => exact .inl (by simp [submit_of_blank h hb])
    | false => exact .inr (by simp [submit_of_idle h hb])

/-! ## Keys -/

/-- The shell with the prompt as a key leaves it. -/
def pressed (s : Shell) (k : Key) : Shell := { s with prompt := (s.prompt.press s.history k).1 }

theorem key_of_processing {s : Shell} (h : s.session.processing = true) (k : Key) :
    s.key k = ⟨s, none, []⟩ := by
  rw [key, keyM, if_pos h]
  rfl

/-- An idle shell does what its prompt asks for. -/
theorem key_of_idle {s : Shell} (h : s.session.processing = false) (k : Key) :
    s.key k = Id.run ((s.pressed k).actM (s.prompt.press s.history k).2) := by
  rw [key, keyM, if_neg (by simp [h])]
  rfl

/-- A key that asks for nothing only changes the prompt. -/
theorem key_of_press_none {s : Shell} (h : s.session.processing = false) {k : Key}
    (ha : (s.prompt.press s.history k).2 = none) : s.key k = ⟨s.pressed k, none, []⟩ := by
  rw [key_of_idle h, ha]
  rfl

/-- A key that asks to close the editor closes it. -/
theorem key_of_press_closeOverlay {s : Shell} (h : s.session.processing = false) {k : Key}
    (ha : (s.prompt.press s.history k).2 = some .closeOverlay) :
    s.key k = ⟨(s.pressed k).closeEditor.shell, none, (s.pressed k).closeEditor.notices⟩ := by
  rw [key_of_idle h, ha]
  rfl

/-- The line that an idle prompt gives up at a key is accepted. -/
theorem submit_pressed {s : Shell} (h : s.session.processing = false) {k : Key} {line : String}
    (ha : (s.prompt.press s.history k).2 = some (.submit line)) :
    (s.pressed k).submit line =
      ⟨(s.pressed k).accepting, .ok ((s.pressed k).pendingOf line), []⟩ :=
  submit_of_idle (s := s.pressed k) h (Prompt.isAllBlank_of_press_submit ha)

/-- A key that gives up a line submits it. -/
theorem key_of_press_submit {s : Shell} (h : s.session.processing = false) {k : Key}
    {line : String} (ha : (s.prompt.press s.history k).2 = some (.submit line)) :
    s.key k = ⟨(s.pressed k).accepting, some ((s.pressed k).pendingOf line), []⟩ := by
  have hs : Id.run ((s.pressed k).submitM line) =
      ⟨(s.pressed k).accepting, .ok ((s.pressed k).pendingOf line), []⟩ := submit_pressed h ha
  rw [key_of_idle h, ha, actM, Id.run_bind, hs]
  rfl

/-! ## Running -/

theorem run_of_error {s : Shell} {raw : String} {f : Failure}
    (h : (s.submit raw).answer = .error f) (now : CivilTime) :
    s.run raw now = ⟨(s.submit raw).shell, .error f, (s.submit raw).notices⟩ := by
  rw [submit] at h
  rw [run, runM, Id.run_bind, h]
  rfl

theorem run_of_ok {s : Shell} {raw : String} {p : Pending} (h : (s.submit raw).answer = .ok p)
    (now : CivilTime) :
    s.run raw now =
      let done := (s.submit raw).shell.complete p now
      ⟨done.shell, .ok done.answer, (s.submit raw).notices ++ done.notices⟩ := by
  rw [submit] at h
  rw [run, runM, Id.run_bind, h]
  rfl

/-- What a key can do: a busy shell drops it, and an idle one does what the prompt asks for. -/
theorem key_cases (s : Shell) (k : Key) :
    (s.session.processing = true ∧ (s.key k).shell = s) ∨
      (s.session.processing = false ∧
        (((s.prompt.press s.history k).2 = none ∧ (s.key k).shell = s.pressed k) ∨
          ((s.prompt.press s.history k).2 = some .closeOverlay ∧
            (s.key k).shell = (s.pressed k).closeEditor.shell) ∨
          ((∃ line, (s.prompt.press s.history k).2 = some (.submit line)) ∧
            (s.key k).shell = (s.pressed k).accepting))) := by
  cases h : s.session.processing with
  | true => exact .inl ⟨rfl, by rw [key_of_processing h]⟩
  | false =>
    refine .inr ⟨rfl, ?_⟩
    match ha : (s.prompt.press s.history k).2 with
    | none => exact .inl ⟨rfl, by rw [key_of_press_none h ha]⟩
    | some .closeOverlay => exact .inr (.inl ⟨rfl, by rw [key_of_press_closeOverlay h ha]⟩)
    | some (.submit line) =>
      exact .inr (.inr ⟨⟨line, rfl⟩, by rw [key_of_press_submit h ha]⟩)

/-- A key hands out a command if an idle prompt gives up a line at it: the command that the line
becomes. -/
theorem answer_key_eq_some_iff {s : Shell} {k : Key} {p : Pending} :
    (s.key k).answer = some p ↔ s.session.processing = false ∧
      ∃ line, (s.prompt.press s.history k).2 = some (.submit line) ∧
        (s.pressed k).pendingOf line = p := by
  cases h : s.session.processing with
  | true => simp [key_of_processing h]
  | false =>
    match ha : (s.prompt.press s.history k).2 with
    | none => simp [key_of_press_none h ha]
    | some .closeOverlay => simp [key_of_press_closeOverlay h ha]
    | some (.submit line) => simp [key_of_press_submit h ha]

end Shell

/-! ## What an effect changes -/

/-- The directory that an effect moves to. -/
def Effect.directory? : Effect → Option String
  | .changeDirectory path => some path
  | _ => none

theorem Effect.directory?_eq_some_iff {e : Effect} {path : String} :
    e.directory? = some path ↔ e = .changeDirectory path := by
  cases e <;> simp [directory?]

/-- The move that an effect makes on the layout. -/
def Effect.move? : Effect → Option Move
  | .goTo target => some (.goTo target)
  | .openEditor target => some (.openEditor target)
  | _ => none

namespace Shell

theorem cwd_apply (s : Shell) (e : Effect) :
    (s.apply e).session.cwd = e.directory?.getD s.session.cwd := by
  cases e <;>
    simp [apply, applyM, Effect.directory?, Session.changeDirectory, Session.openEditor]

theorem layout_apply (s : Shell) (e : Effect) :
    (s.apply e).session.layout = e.move?.elim s.session.layout s.session.layout.move := by
  cases e with
  | goTo target => exact Session.layout_move s.session (.goTo target)
  | openEditor target => exact Session.layout_move s.session (.openEditor target)
  | _ => rfl

/-! ## Completing -/

variable (s : Shell) (p : Pending) (now : CivilTime)

/-- What evaluating a pending command gives. -/
def outcome : Outcome :=
  (p.command.evaluate s.session (s.surroundings now) s.generator).1

/-- The shell when a command has had its effect and is not recorded yet. -/
def affected : Shell :=
  let drawn :=
    { s with generator := (p.command.evaluate s.session (s.surroundings now) s.generator).2 }
  (s.outcome p now).effect.elim drawn drawn.apply

/-- Recording a line only changes the history, and answers with the recorded output. -/
theorem record_eq (raw : String) (output : Option Output) :
    s.record raw output =
      ({ s with history := output.elim s.history (s.history.record raw) },
        output.map (RecordedOutput.mk s.history.nextId)) := by
  cases output with
  | none => rfl
  | some output =>
    rw [record, recordM, Id.run_bind, History.run_recordM]
    rfl

theorem complete_eq :
    s.complete p now =
      let recorded := (s.affected p now).record p.raw (s.outcome p now).output
      ⟨recorded.1.idle, ⟨recorded.2, (s.outcome p now).effect⟩,
        (s.outcome p now).effect.elim [] s.applyNotices⟩ := rfl

theorem shell_complete :
    (s.complete p now).shell = idle { s.affected p now with
      history := (s.outcome p now).output.elim (s.affected p now).history
        ((s.affected p now).history.record p.raw) } := by
  rw [complete_eq, record_eq]

/-- Completing a command changes the prompt, the tree and the settings not at all. -/
theorem affected_frame :
    (s.affected p now).prompt = s.prompt ∧ (s.affected p now).tree = s.tree ∧
      (s.affected p now).settings = s.settings := by
  unfold affected
  cases (s.outcome p now).effect with
  | none => exact ⟨rfl, rfl, rfl⟩
  | some e => cases e <;> exact ⟨rfl, rfl, rfl⟩

@[simp] theorem prompt_complete : (s.complete p now).shell.prompt = s.prompt := by
  simp [shell_complete, idle, affected_frame]

@[simp] theorem tree_complete : (s.complete p now).shell.tree = s.tree := by
  simp [shell_complete, idle, affected_frame]

@[simp] theorem settings_complete : (s.complete p now).shell.settings = s.settings := by
  simp [shell_complete, idle, affected_frame]

@[simp] theorem processing_complete : (s.complete p now).shell.session.processing = false := rfl

/-- Completing a command moves to the directory that its effect names. -/
theorem cwd_complete :
    (s.complete p now).shell.session.cwd =
      ((s.outcome p now).effect.bind Effect.directory?).getD s.session.cwd := by
  have h : (s.affected p now).session.cwd =
      ((s.outcome p now).effect.bind Effect.directory?).getD s.session.cwd := by
    unfold affected
    cases (s.outcome p now).effect <;> simp [cwd_apply]
  simpa [shell_complete, idle, Session.setProcessing] using h

/-- Completing a command makes the move of its effect. -/
theorem layout_complete :
    (s.complete p now).shell.session.layout =
      ((s.outcome p now).effect.bind Effect.move?).elim s.session.layout s.session.layout.move := by
  have h : (s.affected p now).session.layout =
      ((s.outcome p now).effect.bind Effect.move?).elim s.session.layout s.session.layout.move := by
    unfold affected
    cases (s.outcome p now).effect <;> simp [layout_apply]
  simpa [shell_complete, idle] using h

/-- Completing a command starts the tour, if that is its effect. -/
theorem tour_complete :
    (s.complete p now).shell.tour =
      if (s.outcome p now).effect = some .startTour then some .home else s.tour := by
  have h : (s.affected p now).tour =
      if (s.outcome p now).effect = some .startTour then some .home else s.tour := by
    unfold affected
    cases (s.outcome p now).effect with
    | none => rfl
    | some e => cases e <;> rfl
  simpa [shell_complete, idle] using h

/-- Completing a command leaves the generator as its evaluation does. -/
theorem generator_complete :
    (s.complete p now).shell.generator =
      (p.command.evaluate s.session (s.surroundings now) s.generator).2 := by
  have h : (s.affected p now).generator =
      (p.command.evaluate s.session (s.surroundings now) s.generator).2 := by
    unfold affected
    cases (s.outcome p now).effect with
    | none => rfl
    | some e => cases e <;> rfl
  simpa [shell_complete, idle] using h

theorem theme_complete : (s.complete p now).shell.session.theme = s.session.theme := by
  have h : (s.affected p now).session.theme = s.session.theme := by
    unfold affected
    cases (s.outcome p now).effect with
    | none => rfl
    | some e =>
      cases e with
      | goTo target => exact (s.session.frame_move (.goTo target)).2.1
      | _ => rfl
  simpa [shell_complete, idle, Session.setProcessing] using h

/-- The answer to completing a command is its output, under the next identity, and its effect. -/
theorem answer_complete :
    (s.complete p now).answer =
      ⟨(s.outcome p now).output.map (RecordedOutput.mk s.history.nextId),
        (s.outcome p now).effect⟩ := by
  have h : (s.affected p now).history.nextId = s.history.nextId := by
    unfold affected
    cases (s.outcome p now).effect with
    | none => rfl
    | some e => cases e <;> rfl
  rw [complete_eq, record_eq, h]

/-- Completing a command first empties the history, if that is its effect, and then records its
output, if it has one. -/
theorem history_complete :
    (s.complete p now).shell.history =
      let kept := if (s.outcome p now).effect = some .clearHistory then s.history.clear
        else s.history
      (s.outcome p now).output.elim kept (kept.record p.raw) := by
  have h : (s.affected p now).history =
      if (s.outcome p now).effect = some .clearHistory then s.history.clear else s.history := by
    unfold affected
    cases (s.outcome p now).effect with
    | none => rfl
    | some e => cases e <;> rfl
  simp [shell_complete, idle, h]

/-- Completing `clear` empties the logs, and completing anything else adds its line and its output
to them. -/
theorem rows_complete :
    (s.complete p now).shell.history.rows =
      if p.command = .clear then []
      else s.history.rows ++
        ((s.outcome p now).output.map (s.history.nextRow p.raw)).toList := by
  rw [history_complete]
  -- `clear` is the one command with this effect and the one without an output
  by_cases hc : p.command = .clear
  · have he : (s.outcome p now).effect = some .clearHistory :=
      Command.effect_evaluate_eq_clearHistory_iff.mpr hc
    have ho : (s.outcome p now).output = none := Command.output_evaluate_eq_none_iff.mpr hc
    simp [hc, he, ho]
  · have he : (s.outcome p now).effect ≠ some .clearHistory :=
      fun h => hc (Command.effect_evaluate_eq_clearHistory_iff.mp h)
    cases ho : (s.outcome p now).output <;> simp [hc, he]

theorem compact_complete : (s.complete p now).shell.history.compact = s.history.compact := by
  rw [history_complete]
  cases (s.outcome p now).output <;> simp [apply_ite History.compact, History.clear]

/-- Every recorded output takes one identity. -/
theorem nextId_complete :
    (s.complete p now).shell.history.nextId =
      (s.outcome p now).output.elim s.history.nextId fun _ => s.history.nextId + 1 := by
  rw [history_complete]
  cases (s.outcome p now).output <;> simp [apply_ite History.nextId]

/-- A command other than `clear` has an output. -/
theorem exists_output (hc : p.command ≠ .clear) :
    ∃ output, (s.outcome p now).output = some output :=
  Option.ne_none_iff_exists'.mp fun h => hc (Command.output_evaluate_eq_none_iff.mp h)

end Shell

end PortfolioTerminal
