/-
# What completing a command changes

Completing a command records it, unless it is `clear`, and leaves the shell idle.  Everything else
that it changes is told by the command: where a `cd` leads, which section a command goes to, on
which one it opens the editor, whether it starts the tour, and whether it draws a joke.  A command
that answers with an error only records it.
-/
import PortfolioTerminal.Proofs.Shell.Operations

namespace PortfolioTerminal

/-! ## What a command is after -/

namespace Command

/-- The directory that a command moves to, if it is a `cd` that the tree follows. -/
def destination? (s : Shell) : Command → Option String
  | .cd path => (s.tree.changeDirectory s.session.cwd (path.map (·.text))).toOption
  | _ => none

/-- The move that a command makes on the layout. -/
def move? : Command → Option Move
  | .goTo target => some (.goTo target)
  | .edit _ (some file) => (Section.ofFileName? file).map .openEditor
  | _ => none

/-- The section that a command makes the active one: the one it names, or the one whose file an
editor is given. -/
def target? : Command → Option Section
  | .goTo target => some target
  | .edit _ (some file) => Section.ofFileName? file
  | _ => none

/-- The section on which a command opens the editor.  Going to a section does so only while the
terminal is shown. -/
def opened? (shellVisible : Bool) : Command → Option Section
  | .goTo target => if shellVisible then some target else none
  | .edit _ (some file) => Section.ofFileName? file
  | _ => none

end Command

/-! ## The frame -/

/-- The reply is all that completing the command may make of the shell. -/
structure Shell.Completes (s : Shell) (p : Pending) (r : Reply Completed) : Prop where
  idle : r.shell.session.processing = false
  /-- Only `clear` records nothing. -/
  entry_eq_none_iff : r.answer.entry = none ↔ p.command = .clear
  /-- Without an entry both logs are empty; else the line and its output are added to them. -/
  rows_eq : r.shell.history.rows =
    r.answer.entry.elim [] fun entry => s.history.rows ++ [⟨s.history.length, p.raw, entry⟩]
  cwd_eq : r.shell.session.cwd = (p.command.destination? s).getD s.session.cwd
  active_eq : r.shell.session.active = p.command.target?.getD s.session.active
  mode_eq : r.shell.session.mode =
    (p.command.opened? s.session.shellVisible).elim s.session.mode .opening
  tour_eq : r.shell.tour = if p.command = .decoration .launchPortfolio then some .home else s.tour
  generator_eq : r.shell.generator =
    if p.command = .decoration .joke then (drawJoke s.generator).2 else s.generator
  theme_eq : r.shell.session.theme = s.session.theme
  shellVisible_eq : r.shell.session.shellVisible = s.session.shellVisible
  compact_eq : r.shell.history.compact = s.history.compact
  prompt_eq : r.shell.prompt = s.prompt
  settings_eq : r.shell.settings = s.settings
  tree_eq : r.shell.tree = s.tree
  /-- An error is recorded, and nothing else changes. -/
  eq_of_error (entry : RecordedOutput) (h : r.answer.entry = some entry)
    (hk : entry.output.kind = .error) :
    r.shell = { s with
      session := s.session.setProcessing false
      history := s.history.record p.raw entry.output }

namespace Shell

variable (s : Shell) (p : Pending) (now : CivilTime)

/-! ## The effect of a command -/

theorem directory?_effect :
    (s.outcome p now).effect.bind Effect.directory? = p.command.destination? s := by
  ext path
  rw [Option.bind_eq_some_iff]
  simp only [Effect.directory?_eq_some_iff, exists_eq_right, outcome,
    Command.effect_evaluate_eq_changeDirectory_iff]
  cases p.command with
  | cd target =>
    cases h : s.tree.changeDirectory s.session.cwd (target.map (·.text)) <;>
      simp [Command.destination?, surroundings, h, Except.toOption]
  | _ => simp [Command.destination?]

theorem move?_effect : (s.outcome p now).effect.bind Effect.move? = p.command.move? := by
  ext m
  rw [Option.bind_eq_some_iff]
  constructor
  · rintro ⟨e, he, hm⟩
    obtain ⟨-, rfl⟩ | ⟨target, hc, rfl⟩ | ⟨_, _, target, hc, ht, rfl⟩ | ⟨_, _, -, -, rfl⟩ |
        ⟨-, rfl⟩ := Command.effect_evaluate_cases he
    case inr.inl => simpa [hc, Command.move?, Effect.move?] using hm
    case inr.inr.inl => simpa [hc, Command.move?, ht, Effect.move?] using hm
    all_goals simp [Effect.move?] at hm
  · intro hm
    cases hc : p.command with
    | goTo target =>
      obtain rfl : Move.goTo target = m := by simpa [hc, Command.move?] using hm
      exact ⟨_, Command.effect_evaluate_eq_goTo_iff.mpr hc, rfl⟩
    | edit editor file =>
      cases file with
      | none => simp [hc, Command.move?] at hm
      | some file =>
        obtain ⟨target, ht, rfl⟩ : ∃ target, Section.ofFileName? file = some target ∧
            Move.openEditor target = m := by simpa [hc, Command.move?] using hm
        exact ⟨_, Command.effect_evaluate_eq_openEditor_iff.mpr ⟨editor, file, hc, ht⟩, rfl⟩
    | _ => simp [hc, Command.move?] at hm

/-! ## The parts of the shell -/

/-- The layout that completing a command leaves is that after its move. -/
theorem session_complete :
    let moved := p.command.move?.elim s.session s.session.move
    let after := (s.complete p now).shell.session
    after.active = moved.active ∧ after.mode = moved.mode ∧
      after.shellVisible = moved.shellVisible := by
  have hl : (s.complete p now).shell.session.layout =
      (p.command.move?.elim s.session s.session.move).layout := by
    rw [layout_complete, move?_effect]
    cases p.command.move? <;> simp
  exact Session.layout_eq_iff.mp hl

theorem active_complete :
    (s.complete p now).shell.session.active = p.command.target?.getD s.session.active := by
  rw [(s.session_complete p now).1]
  cases p.command with
  | goTo target => simp [Command.move?, Command.target?, Session.active_move]
  | edit editor file =>
    cases file with
    | none => rfl
    | some file =>
      cases ht : Section.ofFileName? file <;>
        simp [Command.move?, Command.target?, ht, Session.active_move]
  | _ => rfl

theorem mode_complete :
    (s.complete p now).shell.session.mode =
      (p.command.opened? s.session.shellVisible).elim s.session.mode .opening := by
  rw [(s.session_complete p now).2.1]
  cases p.command with
  | goTo target =>
    cases hv : s.session.shellVisible <;>
      simp [Command.move?, Command.opened?, Session.move, Session.goTo, Session.openEditor, hv]
  | edit editor file =>
    cases file with
    | none => rfl
    | some file =>
      cases ht : Section.ofFileName? file <;>
        simp [Command.move?, Command.opened?, ht, Session.move, Session.openEditor]
  | _ => rfl

/-- No command hides the terminal or shows it. -/
theorem shellVisible_complete :
    (s.complete p now).shell.session.shellVisible = s.session.shellVisible := by
  have hmove : ∀ m ∈ p.command.move?, m ≠ .toggleShellView := by
    cases p.command with
    | edit editor file => cases file <;> simp [Command.move?]
    | _ => simp [Command.move?]
  rw [(s.session_complete p now).2.2]
  cases hm : p.command.move? with
  | none => rfl
  | some m => simp [Session.shellVisible_move, hmove m hm]

/-- A command that answers with an error is only recorded. -/
theorem complete_of_error {output : Output} (ho : (s.outcome p now).output = some output)
    (hk : output.kind = .error) :
    (s.complete p now).shell = { s with
      session := s.session.setProcessing false
      history := s.history.record p.raw output } := by
  have he : (s.outcome p now).effect = none := Command.effect_eq_none_of_error ho hk
  have hjoke : p.command ≠ .decoration .joke := by
    intro hc
    rw [outcome, hc] at ho
    obtain rfl : Output.text .special (drawJoke s.generator).1 = output := Option.some.inj ho
    simp [Output.text] at hk
  have hg : (p.command.evaluate s.session (s.surroundings now) s.generator).2 = s.generator := by
    rw [Command.generator_evaluate, if_neg hjoke]
  simp [shell_complete, affected, he, ho, hg, idle]

/-! ## The result -/

/-- **Completing a command stays within its frame**: in every state, and whatever the line and its
delay were. -/
theorem completes_complete (line : String) (delay : Nat) :
    s.Completes ⟨line, Command.parse line, delay⟩
      (s.complete ⟨line, Command.parse line, delay⟩ now) := by
  generalize (⟨line, Command.parse line, delay⟩ : Pending) = p
  have hentry : (s.complete p now).answer.entry =
      (s.outcome p now).output.map (RecordedOutput.mk s.history.nextId) := by
    rw [answer_complete]
  refine
    { idle := s.processing_complete p now
      entry_eq_none_iff := ?_
      rows_eq := ?_
      cwd_eq := by rw [cwd_complete, directory?_effect]
      active_eq := s.active_complete p now
      mode_eq := s.mode_complete p now
      tour_eq := ?_
      generator_eq := by rw [generator_complete, Command.generator_evaluate]
      theme_eq := s.theme_complete p now
      shellVisible_eq := s.shellVisible_complete p now
      compact_eq := s.compact_complete p now
      prompt_eq := s.prompt_complete p now
      settings_eq := s.settings_complete p now
      tree_eq := s.tree_complete p now
      eq_of_error := ?_ }
  · rw [hentry, Option.map_eq_none_iff]
    exact Command.output_evaluate_eq_none_iff
  · rw [hentry, rows_complete]
    by_cases hc : p.command = .clear
    · have ho : (s.outcome p now).output = none := Command.output_evaluate_eq_none_iff.mpr hc
      simp [hc, ho]
    · obtain ⟨output, ho⟩ := s.exists_output p now hc
      simp [hc, ho, History.nextRow]
  · rw [tour_complete]
    simp only [outcome, Command.effect_evaluate_eq_startTour_iff]
  · intro entry h hk
    rw [hentry] at h
    obtain ⟨output, ho, rfl⟩ := Option.map_eq_some_iff.mp h
    exact s.complete_of_error p now ho hk

/-- An editor that is given no section file leaves nothing but its error. -/
theorem complete_edit_resume :
    ((start {} .least).complete ⟨"edit resume.pdf", Command.parse "edit resume.pdf", 0⟩
        ⟨2024, 3, 9, 14, 5, 0⟩).shell =
      { start {} .least with
        history := (start {} .least).history.record "edit resume.pdf"
          (.text .error "edit: resume.pdf: No such file") } :=
  (completes_complete (start {} .least) ⟨2024, 3, 9, 14, 5, 0⟩ "edit resume.pdf" 0).eq_of_error
    ⟨0, .text .error "edit: resume.pdf: No such file"⟩ (by decide +kernel) rfl

end Shell

end PortfolioTerminal
