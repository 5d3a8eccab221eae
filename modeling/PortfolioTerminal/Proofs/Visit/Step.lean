/-
# What one operation does

Two questions are asked of an operation first: which command it completes, if any, and which move it
makes on the layout, if any.  An operation that completes a command leaves the shell as completing
the command does.  For any other operation `Quiet` lists what can become of the shell, with what
must hold for it; whatever one operation does to a part of the shell is read off this list.
-/
import PortfolioTerminal.Proofs.Shell.Operations
import PortfolioTerminal.Visit

namespace PortfolioTerminal

/-! ## Completions -/

/-- A command that is completed: the shell that evaluates it, the command, and the time it is. -/
structure Completion where
  shell : Shell
  pending : Pending
  now : CivilTime

namespace Completion

/-- What evaluating the command gives. -/
def outcome (c : Completion) : Outcome := c.shell.outcome c.pending c.now

/-- What the shell answers and becomes. -/
def reply (c : Completion) : Reply Completed := c.shell.complete c.pending c.now

/-- The row that the command leaves in the logs, if it has an output. -/
def row? (c : Completion) : Option HistoryRow :=
  c.outcome.output.map (c.shell.history.nextRow c.pending.raw)

/-- Every command other than `clear` leaves a row. -/
theorem exists_row? {c : Completion} (h : c.pending.command ≠ .clear) :
    ∃ row, c.row? = some row := by
  obtain ⟨output, ho⟩ := c.shell.exists_output c.pending c.now h
  exact ⟨_, by rw [row?, outcome, ho, Option.map_some]⟩

end Completion

/-- The completed command that an answer is about. -/
def Answer.completed? : Answer → Option Completed
  | .completed result => some result
  | .ran result => result.toOption
  | _ => none

namespace Visit

/-- The command that an operation completes. -/
def completion? (v : Visit) : Operation → Option Completion
  | .complete which now => v.outstanding[which]?.map fun p => ⟨v.shell, p, now⟩
  | .run line now =>
    (v.shell.submit line).answer.toOption.map fun p => ⟨(v.shell.submit line).shell, p, now⟩
  | _ => none

/-- The command that `run` completes is the one that the line becomes in the waiting shell. -/
theorem completion?_run_eq_some_iff {v : Visit} {line : String} {now : CivilTime}
    {c : Completion} :
    v.completion? (.run line now) = some c ↔
      (v.shell.submit line).answer = .ok (v.shell.pendingOf line) ∧
        c = ⟨v.shell.accepting, v.shell.pendingOf line, now⟩ := by
  obtain ⟨-, f, ha⟩ | ⟨-, hs, ha⟩ := v.shell.submit_cases line
  · simp [completion?, ha, Except.toOption]
  · simp [completion?, hs, ha, Except.toOption, eq_comm]

/-- The shell that evaluates a command is the one before the operation, apart from the flag and the
random choices of a submission. -/
theorem shell_of_completion? {v : Visit} {op : Operation} {c : Completion}
    (h : v.completion? op = some c) : c.shell = v.shell ∨ c.shell = v.shell.accepting := by
  cases op with
  | complete which now =>
    obtain ⟨p, -, rfl⟩ := Option.map_eq_some_iff.mp h
    exact .inl rfl
  | run line now =>
    obtain ⟨-, rfl⟩ := completion?_run_eq_some_iff.mp h
    exact .inr rfl
  | _ => simp [completion?] at h

/-- An operation that completes a command leaves the shell as completing the command does. -/
theorem shell_perform_of_completion? {v : Visit} {op : Operation} {c : Completion}
    (h : v.completion? op = some c) : (v.perform op).visit.shell = c.reply.shell := by
  cases op with
  | complete which now =>
    obtain ⟨p, hp, rfl⟩ := Option.map_eq_some_iff.mp h
    rw [perform_complete_of_some hp]
    rfl
  | run line now =>
    obtain ⟨ha, rfl⟩ := completion?_run_eq_some_iff.mp h
    obtain ⟨-, f, hf⟩ | ⟨-, hs, -⟩ := v.shell.submit_cases line
    · simp [ha] at hf
    · simp only [perform_run, Shell.run_of_ok ha, after, hs, Completion.reply]
  | _ => simp [completion?] at h

/-- Completing a command leaves the prompt alone. -/
theorem prompt_perform_of_completion? {v : Visit} {op : Operation} {c : Completion}
    (h : v.completion? op = some c) : (v.perform op).visit.shell.prompt = v.shell.prompt := by
  rw [shell_perform_of_completion? h, Completion.reply, Shell.prompt_complete]
  obtain h | h := shell_of_completion? h <;> rw [h]
  rfl

/-- An operation answers with a completed command exactly if it completes one. -/
theorem completed?_perform (v : Visit) (op : Operation) :
    (v.perform op).answer.completed? = (v.completion? op).map (·.reply.answer) := by
  cases op with
  | complete which now =>
    cases hp : v.outstanding[which]? with
    | none =>
      rw [perform_complete_of_none hp, completion?, hp]
      rfl
    | some p =>
      rw [perform_complete_of_some hp, completion?, hp]
      rfl
  | run line now =>
    obtain ⟨-, f, ha⟩ | ⟨-, hs, ha⟩ := v.shell.submit_cases line
    · rw [perform_run, Shell.run_of_error ha, completion?, ha]
      rfl
    · rw [perform_run, Shell.run_of_ok ha, completion?, hs, ha]
      rfl
  | cancel which =>
    cases hp : v.outstanding[which]? with
    | none =>
      rw [perform_cancel_of_none hp]
      rfl
    | some p =>
      rw [perform_cancel_of_some hp]
      rfl
  | _ => rfl

/-! ## Moves -/

/-- The move that an operation makes on the layout. -/
def move? (v : Visit) : Operation → Option Move
  | .key k =>
    if v.shell.session.processing = false ∧ k = .escape ∧ v.shell.prompt.pane.visible = false then
      some .closeEditor
    else none
  | .tourTick => v.shell.tour.map .goTo
  | .openFile file => (Section.ofFileName? file).map .openEditor
  | .closeEditor | .saveAndExit => some .closeEditor
  | .finishLoading => some .finishLoading
  | .toggleShellView => some .toggleShellView
  | op => (v.completion? op).bind fun c => c.outcome.effect.bind Effect.move?

/-- An operation that completes a command makes the move of its effect. -/
theorem move?_of_completion? {v : Visit} {op : Operation} {c : Completion}
    (h : v.completion? op = some c) : v.move? op = c.outcome.effect.bind Effect.move? := by
  cases op with
  | complete which now => simp only [move?, h, Option.bind_some]
  | run line now => simp only [move?, h, Option.bind_some]
  | _ => simp [completion?] at h

/-- The editor is opened by a click on the file of a section, and by a completed editor command with
such a file. -/
theorem move?_eq_openEditor_iff {v : Visit} {op : Operation} {target : Section} :
    v.move? op = some (.openEditor target) ↔
      (∃ file, op = .openFile file ∧ Section.ofFileName? file = some target) ∨
        ∃ c editor file, v.completion? op = some c ∧
          c.pending.command = .edit editor (some file) ∧
          Section.ofFileName? file = some target := by
  cases hc : v.completion? op with
  | some c =>
    have hop : ∀ file, op ≠ .openFile file := by
      rintro file rfl
      simp [completion?] at hc
    have he : ∀ e : Effect, e.move? = some (.openEditor target) ↔ e = .openEditor target := by
      intro e
      cases e <;> simp [Effect.move?]
    rw [move?_of_completion? hc, Option.bind_eq_some_iff]
    simp only [he, exists_eq_right, hop, false_and, exists_false, false_or, Option.some.injEq,
      exists_and_left, exists_eq_left']
    exact Command.effect_evaluate_eq_openEditor_iff
  | none =>
    cases op <;> simp [move?, hc]

/-- A completed command makes no move but those of the effects. -/
theorem move?_ne_of_completion? {v : Visit} {op : Operation} {c : Completion} {m : Move}
    (h : v.completion? op = some c) (hm : ∀ e : Effect, e.move? ≠ some m) :
    v.move? op ≠ some m := by
  simp [move?_of_completion? h, Option.bind_eq_some_iff, hm]

/-- No command hides the terminal or shows it. -/
theorem move?_eq_toggleShellView_iff (v : Visit) {op : Operation} :
    v.move? op = some .toggleShellView ↔ op = .toggleShellView := by
  cases hc : v.completion? op with
  | some c =>
    have hop : op ≠ .toggleShellView := by
      rintro rfl
      simp [completion?] at hc
    have he : ∀ e : Effect, e.move? ≠ some .toggleShellView := by
      intro e
      cases e <;> simp [Effect.move?]
    simp [move?_ne_of_completion? hc he, hop]
  | none =>
    cases op <;> simp [move?, hc]

/-- No command ends the loading of the editor. -/
theorem move?_eq_finishLoading_iff (v : Visit) {op : Operation} :
    v.move? op = some .finishLoading ↔ op = .finishLoading := by
  cases hc : v.completion? op with
  | some c =>
    have hop : op ≠ .finishLoading := by
      rintro rfl
      simp [completion?] at hc
    have he : ∀ e : Effect, e.move? ≠ some .finishLoading := by
      intro e
      cases e <;> simp [Effect.move?]
    simp [move?_ne_of_completion? hc he, hop]
  | none =>
    cases op <;> simp [move?, hc]

/-- A key closes the editor if the prompt of an idle shell asks for it. -/
theorem move?_key {v : Visit} (h : v.shell.session.processing = false) (k : Key) :
    v.move? (.key k) =
      if (v.shell.prompt.press v.shell.history k).2 = some .closeOverlay then some .closeEditor
      else none := by
  simp [move?, h, Prompt.press_eq_closeOverlay_iff]

variable {v : Visit} {op : Operation} {c : Completion}

/-! ## Operations that complete nothing -/

/-- What can become of the shell when an operation completes no command. -/
inductive Quiet (v : Visit) : Operation → Shell → Prop
  /-- The operation is refused, finds nothing to act on, or only drops a pending command. -/
  | idle {op : Operation} (h : v.move? op = none) : v.Quiet op v.shell
  | accept (line : String) (h : v.shell.session.processing = false) :
    v.Quiet (.submit line) v.shell.accepting
  | cancel (which : Nat) : v.Quiet (.cancel which) v.shell.idle
  | press (k : Key) (h : v.shell.session.processing = false)
    (ha : (v.shell.prompt.press v.shell.history k).2 = none) : v.Quiet (.key k) (v.shell.pressed k)
  | leave (k : Key) (h : v.shell.session.processing = false)
    (ha : (v.shell.prompt.press v.shell.history k).2 = some .closeOverlay) :
    v.Quiet (.key k) (v.shell.pressed k).closeEditor.shell
  | giveUp (k : Key) (line : String) (h : v.shell.session.processing = false)
    (ha : (v.shell.prompt.press v.shell.history k).2 = some (.submit line)) :
    v.Quiet (.key k) (v.shell.pressed k).accepting
  | type (text : String) (h : v.shell.session.processing = false) :
    v.Quiet (.setInput text) { v.shell with prompt := v.shell.prompt.setBuffer text }
  | tour (here : Section) (h : v.shell.tour = some here) :
    v.Quiet .tourTick
      { v.shell with session := v.shell.session.goTo here, tour := Shell.tourAfter here }
  | openFile (file : String) (target : Section) (h : Section.ofFileName? file = some target) :
    v.Quiet (.openFile file) { v.shell with session := v.shell.session.openEditor target }
  | close {op : Operation} (h : op = .closeEditor ∨ op = .saveAndExit) :
    v.Quiet op v.shell.closeEditor.shell
  | load : v.Quiet .finishLoading v.shell.finishLoading
  | toggle : v.Quiet .toggleShellView v.shell.toggleShellView.shell
  | theme (theme : String) : v.Quiet (.setTheme theme) (v.shell.setTheme theme)
  | compact : v.Quiet .toggleCompact v.shell.toggleCompact.shell

/-- The list is complete. -/
theorem quiet_perform (h : v.completion? op = none) :
    v.Quiet op (v.perform op).visit.shell := by
  cases op with
  | submit line =>
    obtain ⟨hs, -⟩ | ⟨hb, hs, -⟩ := v.shell.submit_cases line
    · simp only [perform_submit, handOut, hs]
      exact .idle (by simp [move?, h])
    · simp only [perform_submit, handOut, hs]
      exact .accept line hb
  | complete which now =>
    have hp : v.outstanding[which]? = none := Option.map_eq_none_iff.mp h
    rw [perform_complete_of_none hp]
    exact .idle (by simp [move?, h])
  | cancel which =>
    cases hp : v.outstanding[which]? with
    | none =>
      rw [perform_cancel_of_none hp]
      exact .idle (by simp [move?, h])
    | some p =>
      rw [perform_cancel_of_some hp]
      exact .cancel which
  | drop which => exact .idle (by simp [move?, h])
  | run line now =>
    obtain ⟨hs, f, ha⟩ | ⟨-, hs, ha⟩ := v.shell.submit_cases line
    · simp only [perform_run, Shell.run_of_error ha, after, hs]
      exact .idle (by simp [move?, h])
    · simp [completion?, ha, Except.toOption] at h
  | key k =>
    obtain ⟨hb, hs⟩ | ⟨hb, ⟨ha, hs⟩ | ⟨ha, hs⟩ | ⟨⟨line, ha⟩, hs⟩⟩ := v.shell.key_cases k
    all_goals simp only [perform_key, handOut, hs]
    · exact .idle (by simp [move?, hb])
    · exact .press k hb ha
    · exact .leave k hb ha
    · exact .giveUp k line hb ha
  | setInput text =>
    simp only [perform, performM, Id.run_pure, quietly, Shell.setInput]
    split
    · exact .idle (by simp [move?, h])
    · rename_i hb
      exact .type text (by simpa using hb)
  | tourTick =>
    cases ht : v.shell.tour with
    | none =>
      rw [perform_tourTick, Shell.tourTick_of_none ht]
      exact .idle (by simp [move?, ht])
    | some here =>
      rw [perform_tourTick, Shell.tourTick_of_some ht]
      exact .tour here ht
  | openFile file =>
    cases ht : Section.ofFileName? file with
    | none =>
      simp only [perform, performM, Id.run_pure, after, Shell.openFile, ht]
      exact .idle (by simp [move?, ht])
    | some target =>
      simp only [perform, performM, Id.run_pure, after, Shell.openFile, ht]
      exact .openFile file target ht
  | closeEditor => exact .close (.inl rfl)
  | saveAndExit => exact .close (.inr rfl)
  | finishLoading => exact .load
  | toggleShellView => exact .toggle
  | setTheme theme => exact .theme theme
  | toggleCompact => exact .compact

end Visit

/-! ## What only a completed command changes -/

/-- The shells agree in the tree, the settings, the working directory and the logs. -/
structure Shell.SameWork (s t : Shell) : Prop where
  tree : t.tree = s.tree
  settings : t.settings = s.settings
  cwd : t.session.cwd = s.session.cwd
  rows : t.history.rows = s.history.rows
  nextId : t.history.nextId = s.history.nextId

theorem Shell.SameWork.lines_eq {s t : Shell} (h : s.SameWork t) :
    t.history.lines = s.history.lines := by
  rw [← History.map_raw_rows, h.rows, History.map_raw_rows]

theorem Shell.SameWork.length_eq {s t : Shell} (h : s.SameWork t) :
    t.history.length = s.history.length := by
  rw [← History.length_lines, h.lines_eq, History.length_lines]

namespace Visit

variable {v : Visit} {op : Operation} {c : Completion}

theorem Quiet.sameWork {s : Shell} (h : v.Quiet op s) : v.shell.SameWork s := by
  cases h with
  | tour here => exact ⟨rfl, rfl, (Session.frame_move _ (.goTo here)).1, rfl, rfl⟩
  | load => exact ⟨rfl, rfl, (Session.frame_move _ .finishLoading).1, rfl, rfl⟩
  | toggle => exact ⟨rfl, rfl, (Session.frame_move _ .toggleShellView).1, rfl, rfl⟩
  | _ => exact ⟨rfl, rfl, rfl, rfl, rfl⟩

/-- An operation that completes nothing leaves the work of the shell alone. -/
theorem sameWork_perform (h : v.completion? op = none) :
    v.shell.SameWork (v.perform op).visit.shell :=
  (quiet_perform h).sameWork

/-- A completed command is evaluated in a shell with the same work. -/
theorem sameWork_of_completion? (h : v.completion? op = some c) : v.shell.SameWork c.shell := by
  obtain h | h := shell_of_completion? h <;> rw [h] <;> exact ⟨rfl, rfl, rfl, rfl, rfl⟩

/-- No operation changes the tree or the settings. -/
theorem frame_perform (v : Visit) (op : Operation) :
    (v.perform op).visit.shell.tree = v.shell.tree ∧
      (v.perform op).visit.shell.settings = v.shell.settings := by
  cases hc : v.completion? op with
  | none => exact ⟨(sameWork_perform hc).tree, (sameWork_perform hc).settings⟩
  | some c =>
    have hwork := sameWork_of_completion? hc
    rw [shell_perform_of_completion? hc, ← hwork.tree, ← hwork.settings]
    exact ⟨c.shell.tree_complete c.pending c.now, c.shell.settings_complete c.pending c.now⟩

theorem tree_perform (v : Visit) (op : Operation) :
    (v.perform op).visit.shell.tree = v.shell.tree :=
  (v.frame_perform op).1

theorem settings_perform (v : Visit) (op : Operation) :
    (v.perform op).visit.shell.settings = v.shell.settings :=
  (v.frame_perform op).2

/-- What an operation does to the logs is told by the command that it completes: `clear` empties
them, and any other one is added. -/
theorem rows_perform (v : Visit) (op : Operation) :
    (v.perform op).visit.shell.history.rows =
      (v.completion? op).elim v.shell.history.rows fun c =>
        if c.pending.command = .clear then []
        else v.shell.history.rows ++ c.row?.toList := by
  cases hc : v.completion? op with
  | none => exact (sameWork_perform hc).rows
  | some c =>
    rw [shell_perform_of_completion? hc, Option.elim_some, ← (sameWork_of_completion? hc).rows]
    exact c.shell.rows_complete c.pending c.now

/-- A completed command leaves its line as the newest of the history, unless it is `clear`. -/
theorem lines_perform (v : Visit) (op : Operation) :
    (v.perform op).visit.shell.history.lines =
      (v.completion? op).elim v.shell.history.lines fun c =>
        if c.pending.command = .clear then [] else v.shell.history.lines ++ [c.pending.raw] := by
  rw [← History.map_raw_rows, rows_perform]
  cases v.completion? op with
  | none => exact v.shell.history.map_raw_rows
  | some c =>
    by_cases hclear : c.pending.command = .clear
    · simp [hclear]
    · obtain ⟨row, hrow⟩ := Completion.exists_row? hclear
      obtain ⟨output, -, rfl⟩ := Option.map_eq_some_iff.mp hrow
      simp [hclear, hrow, History.map_raw_rows, History.nextRow]

/-- An operation changes the number of lines in the history only by completing a command. -/
theorem length_history_perform (v : Visit) (op : Operation) :
    (v.perform op).visit.shell.history.length =
      (v.completion? op).elim v.shell.history.length fun c =>
        if c.pending.command = .clear then 0 else v.shell.history.length + 1 := by
  rw [← History.length_lines, lines_perform]
  cases v.completion? op with
  | none => exact v.shell.history.length_lines
  | some c =>
    rw [Option.elim_some, Option.elim_some]
    split <;> simp

/-! ## The layout -/

theorem Quiet.layout {s : Shell} (h : v.Quiet op s) :
    s.session.layout = (v.move? op).elim v.shell.session.layout v.shell.session.layout.move := by
  cases h with
  | idle h => rw [h, Option.elim_none]
  | press k h ha =>
    rw [move?_key h, ha]
    rfl
  | leave k h ha =>
    rw [move?_key h, ha]
    rfl
  | giveUp k line h ha =>
    rw [move?_key h, ha]
    rfl
  | tour here h =>
    simp only [move?, h, Option.map_some, Option.elim_some]
    exact Session.layout_move v.shell.session (.goTo here)
  | openFile file target h =>
    simp only [move?, h, Option.map_some, Option.elim_some]
    exact Session.layout_move v.shell.session (.openEditor target)
  | close h => obtain rfl | rfl := h <;> rfl
  | load => exact Session.layout_move v.shell.session .finishLoading
  | toggle => exact Session.layout_move v.shell.session .toggleShellView
  | _ => rfl

/-- An operation makes its move on the layout and changes nothing else of it. -/
theorem layout_perform (v : Visit) (op : Operation) :
    (v.perform op).visit.shell.session.layout =
      (v.move? op).elim v.shell.session.layout v.shell.session.layout.move := by
  cases hc : v.completion? op with
  | some c =>
    -- waiting for a command does not touch the layout
    have hl : c.shell.session.layout = v.shell.session.layout := by
      obtain h | h := shell_of_completion? hc <;> rw [h]
      rfl
    rw [shell_perform_of_completion? hc, move?_of_completion? hc, ← hl]
    exact c.shell.layout_complete c.pending c.now
  | none => exact (quiet_perform hc).layout

/-- The parts of the layout after an operation are those after its move. -/
theorem session_perform (v : Visit) (op : Operation) :
    let moved := (v.move? op).elim v.shell.session v.shell.session.move
    let s := (v.perform op).visit.shell.session
    s.active = moved.active ∧ s.mode = moved.mode ∧ s.shellVisible = moved.shellVisible := by
  have hl : (v.perform op).visit.shell.session.layout =
      ((v.move? op).elim v.shell.session v.shell.session.move).layout := by
    rw [layout_perform]
    cases v.move? op <;> simp
  exact Session.layout_eq_iff.mp hl

/-- Only one operation hides the terminal or shows it. -/
theorem shellVisible_perform (v : Visit) (op : Operation) :
    (v.perform op).visit.shell.session.shellVisible =
      if op = .toggleShellView then !v.shell.session.shellVisible
      else v.shell.session.shellVisible := by
  rw [(v.session_perform op).2.2]
  simp only [← v.move?_eq_toggleShellView_iff]
  cases v.move? op with
  | none => simp
  | some m => simp [Session.shellVisible_move]

/-! ## The tour -/

/-- Of the operations that complete nothing, only a tick moves the tour on. -/
theorem Quiet.tour_eq {s : Shell} (h : v.Quiet op s) :
    s.tour = if op = .tourTick then v.shell.tour.bind Shell.tourAfter else v.shell.tour := by
  cases h with
  | idle h =>
    split
    · rename_i hop
      have hnone : v.shell.tour = none := by simpa [hop, move?] using h
      rw [hnone]
      rfl
    · rfl
  | tour here h => simp [h]
  | close h => obtain rfl | rfl := h <;> rfl
  | _ => rfl

/-- A tick moves the tour on, and a completed `launch_portfolio` starts it. -/
theorem tour_perform (v : Visit) (op : Operation) :
    (v.perform op).visit.shell.tour =
      if op = .tourTick then v.shell.tour.bind Shell.tourAfter
      else if (v.completion? op).any (·.pending.command = .decoration .launchPortfolio) then
        some .home
      else v.shell.tour := by
  cases hc : v.completion? op with
  | none => simpa using (quiet_perform hc).tour_eq
  | some c =>
    have hop : op ≠ .tourTick := by
      rintro rfl
      simp [completion?] at hc
    have htour : c.shell.tour = v.shell.tour := by
      obtain h | h := shell_of_completion? hc <;> rw [h]
      rfl
    have heffect : c.outcome.effect = some .startTour ↔
        c.pending.command = .decoration .launchPortfolio :=
      Command.effect_evaluate_eq_startTour_iff
    rw [shell_perform_of_completion? hc, if_neg hop, ← htour, Completion.reply,
      Shell.tour_complete]
    simp [← heffect, Completion.outcome]

end Visit

end PortfolioTerminal
