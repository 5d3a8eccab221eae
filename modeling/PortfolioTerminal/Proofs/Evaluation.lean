/-
# Which commands ask for which changes

Every command answers with exactly one output, except `clear`, which answers with none.  Each effect
comes from one class of commands only, and a command that fails asks for nothing: its outcome is the
message of the failure alone.

Of what is around it, a command reads the tree, the working directory, the lines of the history and
the time; only going to a section reads whether the terminal is shown, and only the joke draws.
-/
import PortfolioTerminal.Evaluation

namespace PortfolioTerminal

/-! ## Outcomes -/

namespace Outcome

@[simp] theorem effect_shows (output : Output) : (shows output).effect = none := rfl

@[simp] theorem output_shows (output : Output) : (shows output).output = some output := rfl

@[simp] theorem effect_does (output : Output) (effect : Effect) :
    (does output effect).effect = some effect := rfl

@[simp] theorem output_does (output : Output) (effect : Effect) :
    (does output effect).output = some output := rfl

/-- An effect comes from something that did not fail. -/
theorem effect_ofExcept_eq_some_iff {r : Except Failure Outcome} {e : Effect} :
    (ofExcept r).effect = some e ↔ ∃ o, r = .ok o ∧ o.effect = some e := by
  cases r <;> simp [ofExcept, ofFailure]

/-- What may fail has an output if its success has one, since a failure shows its message. -/
theorem output_ofExcept_ne_none {r : Except Failure Outcome}
    (h : ∀ o, r = .ok o → o.output ≠ none) : (ofExcept r).output ≠ none := by
  cases r with
  | error f => simp [ofExcept, ofFailure]
  | ok o => exact h o rfl

end Outcome

/-! ## The groups of commands -/

/-- An editor succeeds with the section whose file it is given, and asks to be opened on it. -/
theorem Editor.outcome_eq_ok {editor : Editor} {file : Option String} {o : Outcome}
    (h : editor.outcome file = .ok o) :
    ∃ name target output, file = some name ∧ Section.ofFileName? name = some target ∧
      o = .does output (.openEditor target) := by
  cases file with
  | none => simp [outcome] at h
  | some name =>
    simp only [outcome] at h
    cases ht : Section.ofFileName? name with
    | none => simp [ht] at h
    | some target =>
      rw [ht] at h
      exact ⟨name, target, _, rfl, ht, (Except.ok.inj h).symm⟩

theorem listOutcome_eq_ok {tree : FileTree} {cwd : String} {path : Option TypedPath} {o : Outcome}
    (h : listOutcome tree cwd path = .ok o) : ∃ output, o = .shows output := by
  unfold listOutcome at h
  cases hl : tree.list cwd (path.map (·.text)) with
  | error f => simp [hl, bind, Except.bind] at h
  | ok rows =>
    rw [hl] at h
    exact ⟨_, (Except.ok.inj h).symm⟩

/-- Changing the directory succeeds with the directory that the tree finds, shows it, and asks to
move there. -/
theorem changeOutcome_eq_ok_iff {tree : FileTree} {cwd : String} {path : Option TypedPath}
    {o : Outcome} :
    changeOutcome tree cwd path = .ok o ↔
      ∃ target, tree.changeDirectory cwd (path.map (·.text)) = .ok target ∧
        o = .does (.text .system target) (.changeDirectory target) := by
  unfold changeOutcome
  cases hc : tree.changeDirectory cwd (path.map (·.text)) with
  | error f => simp [bind, Except.bind]
  | ok target => simp [bind, Except.bind, pure, Except.pure, eq_comm]

theorem readOutcome_eq_ok {tree : FileTree} {cwd : String} {path : Option TypedPath} {o : Outcome}
    (h : readOutcome tree cwd path = .ok o) : ∃ output, o = .shows output := by
  cases path with
  | none => simp [readOutcome] at h
  | some typed =>
    simp only [readOutcome] at h
    cases hr : tree.read cwd typed.text with
    | error f => simp [hr, bind, Except.bind] at h
    | ok content =>
      rw [hr] at h
      cases content <;> exact ⟨_, (Except.ok.inj h).symm⟩

theorem manualOutcome_eq_ok {name : Option String} {o : Outcome}
    (h : manualOutcome name = .ok o) : ∃ output, o = .shows output := by
  unfold manualOutcome at h
  split at h
  · simp at h
  · split at h
    · simp at h
    · exact ⟨_, (Except.ok.inj h).symm⟩

/-- Of the decorations, only the tour asks for anything. -/
theorem Decoration.effect_outcome {g : Generator} {d : Decoration} {e : Effect}
    (h : (d.outcome g).1.effect = some e) : d = .launchPortfolio ∧ e = .startTour := by
  cases d with
  | launchPortfolio => exact ⟨rfl, by simpa [outcome, outcomeM, eq_comm] using h⟩
  | _ => simp [outcome, outcomeM] at h

/-! ## All commands -/

namespace Command

variable {s : Session} {w : Surroundings} {g : Generator} {c : Command}

/-- Which commands ask for which effect.  Everything else asks for nothing. -/
theorem effect_evaluate_cases {e : Effect} (h : (c.evaluate s w g).1.effect = some e) :
    (c = .clear ∧ e = .clearHistory) ∨
      (∃ target, c = .goTo target ∧ e = .goTo target) ∨
      (∃ editor file target, c = .edit editor (some file) ∧
        Section.ofFileName? file = some target ∧ e = .openEditor target) ∨
      (∃ path target, c = .cd path ∧
        w.tree.changeDirectory s.cwd (path.map (·.text)) = .ok target ∧
        e = .changeDirectory target) ∨
      (c = .decoration .launchPortfolio ∧ e = .startTour) := by
  cases c with
  | clear => exact .inl ⟨rfl, (Option.some.inj h).symm⟩
  | goTo target => exact .inr (.inl ⟨target, rfl, (Option.some.inj h).symm⟩)
  -- a command that may fail has an effect only if it succeeds
  | edit editor file =>
    obtain ⟨o, ho, he⟩ := Outcome.effect_ofExcept_eq_some_iff.mp h
    obtain ⟨name, target, _, rfl, ht, rfl⟩ := Editor.outcome_eq_ok ho
    exact .inr (.inr (.inl ⟨editor, name, target, rfl, ht, (Option.some.inj he).symm⟩))
  | cd path =>
    obtain ⟨o, ho, he⟩ := Outcome.effect_ofExcept_eq_some_iff.mp h
    obtain ⟨target, hc, rfl⟩ := changeOutcome_eq_ok_iff.mp ho
    exact .inr (.inr (.inr (.inl ⟨path, target, rfl, hc, (Option.some.inj he).symm⟩)))
  | decoration d =>
    obtain ⟨rfl, rfl⟩ := Decoration.effect_outcome h
    exact .inr (.inr (.inr (.inr ⟨rfl, rfl⟩)))
  | ls path =>
    obtain ⟨o, ho, he⟩ := Outcome.effect_ofExcept_eq_some_iff.mp h
    obtain ⟨_, rfl⟩ := listOutcome_eq_ok ho
    simp at he
  | cat path =>
    obtain ⟨o, ho, he⟩ := Outcome.effect_ofExcept_eq_some_iff.mp h
    obtain ⟨_, rfl⟩ := readOutcome_eq_ok ho
    simp at he
  | man name =>
    obtain ⟨o, ho, he⟩ := Outcome.effect_ofExcept_eq_some_iff.mp h
    obtain ⟨_, rfl⟩ := manualOutcome_eq_ok ho
    simp at he
  | info topic => simp [evaluate, evaluateM] at h
  | echo text => simp [evaluate, evaluateM] at h
  | unknown verb => simp [evaluate, evaluateM, Outcome.ofFailure] at h

/-- Only `clear` answers with nothing. -/
theorem output_evaluate_eq_none_iff : (c.evaluate s w g).1.output = none ↔ c = .clear := by
  constructor
  · intro h
    cases c with
    | clear => rfl
    | edit editor file =>
      refine absurd h (Outcome.output_ofExcept_ne_none fun o ho => ?_)
      obtain ⟨_, _, _, -, -, rfl⟩ := Editor.outcome_eq_ok ho
      simp
    | cd path =>
      refine absurd h (Outcome.output_ofExcept_ne_none fun o ho => ?_)
      obtain ⟨_, -, rfl⟩ := changeOutcome_eq_ok_iff.mp ho
      simp
    | ls path =>
      refine absurd h (Outcome.output_ofExcept_ne_none fun o ho => ?_)
      obtain ⟨_, rfl⟩ := listOutcome_eq_ok ho
      simp
    | cat path =>
      refine absurd h (Outcome.output_ofExcept_ne_none fun o ho => ?_)
      obtain ⟨_, rfl⟩ := readOutcome_eq_ok ho
      simp
    | man name =>
      refine absurd h (Outcome.output_ofExcept_ne_none fun o ho => ?_)
      obtain ⟨_, rfl⟩ := manualOutcome_eq_ok ho
      simp
    | decoration d => cases d <;> simp [evaluate, evaluateM, Decoration.outcomeM] at h
    | goTo target => simp [evaluate, evaluateM, Section.outcome] at h
    | unknown verb => simp [evaluate, evaluateM, Outcome.ofFailure] at h
    | _ => simp [evaluate, evaluateM] at h
  · rintro rfl
    rfl

/-- Only `clear` asks to empty the history. -/
theorem effect_evaluate_eq_clearHistory_iff :
    (c.evaluate s w g).1.effect = some .clearHistory ↔ c = .clear := by
  constructor
  · intro h
    obtain ⟨hc, -⟩ | ⟨_, -, he⟩ | ⟨_, _, _, -, -, he⟩ | ⟨_, _, -, -, he⟩ | ⟨-, he⟩ :=
      effect_evaluate_cases h
    · exact hc
    all_goals cases he
  · rintro rfl
    rfl

/-- A command that asks to open the editor is one of the editors, with the file of a section. -/
theorem effect_evaluate_eq_openEditor_iff {target : Section} :
    (c.evaluate s w g).1.effect = some (.openEditor target) ↔
      ∃ editor file, c = .edit editor (some file) ∧ Section.ofFileName? file = some target := by
  constructor
  · intro h
    obtain ⟨-, he⟩ | ⟨_, -, he⟩ | ⟨editor, file, _, hc, ht, he⟩ | ⟨_, _, -, -, he⟩ | ⟨-, he⟩ :=
      effect_evaluate_cases h
    case inr.inr.inl =>
      cases he
      exact ⟨editor, file, hc, ht⟩
    all_goals cases he
  · rintro ⟨editor, file, rfl, ht⟩
    simp [evaluate, evaluateM, Editor.outcome, ht, Outcome.ofExcept]

/-- A command that asks to go to a section is the name of that section. -/
theorem effect_evaluate_eq_goTo_iff {target : Section} :
    (c.evaluate s w g).1.effect = some (.goTo target) ↔ c = .goTo target := by
  constructor
  · intro h
    obtain ⟨-, he⟩ | ⟨_, hc, he⟩ | ⟨_, _, _, -, -, he⟩ | ⟨_, _, -, -, he⟩ | ⟨-, he⟩ :=
      effect_evaluate_cases h
    case inr.inl =>
      cases he
      exact hc
    all_goals cases he
  · rintro rfl
    rfl

/-- Only `launch_portfolio` asks to start the tour. -/
theorem effect_evaluate_eq_startTour_iff :
    (c.evaluate s w g).1.effect = some .startTour ↔ c = .decoration .launchPortfolio := by
  constructor
  · intro h
    obtain ⟨-, he⟩ | ⟨_, -, he⟩ | ⟨_, _, _, -, -, he⟩ | ⟨_, _, -, -, he⟩ | ⟨hc, -⟩ :=
      effect_evaluate_cases h
    case inr.inr.inr.inr => exact hc
    all_goals cases he
  · rintro rfl
    rfl

/-- A command that asks to move to a directory is a `cd` that the tree follows. -/
theorem effect_evaluate_eq_changeDirectory_iff {target : String} :
    (c.evaluate s w g).1.effect = some (.changeDirectory target) ↔
      ∃ path, c = .cd path ∧
        w.tree.changeDirectory s.cwd (path.map (·.text)) = .ok target := by
  constructor
  · intro h
    obtain ⟨-, he⟩ | ⟨_, -, he⟩ | ⟨_, _, _, -, -, he⟩ | ⟨path, _, hc, ht, he⟩ | ⟨-, he⟩ :=
      effect_evaluate_cases h
    case inr.inr.inr.inl =>
      cases he
      exact ⟨path, hc, ht⟩
    all_goals cases he
  · rintro ⟨path, rfl, ht⟩
    have hc := changeOutcome_eq_ok_iff.mpr ⟨target, ht, rfl⟩
    simp [evaluate, evaluateM, hc, Outcome.ofExcept]

/-- A `cd` that the tree follows shows the directory that it moves to. -/
theorem output_evaluate_cd {path : Option TypedPath} {target : String}
    (h : w.tree.changeDirectory s.cwd (path.map (·.text)) = .ok target) :
    ((Command.cd path).evaluate s w g).1.output = some (.text .system target) := by
  have hc := changeOutcome_eq_ok_iff.mpr ⟨target, h, rfl⟩
  simp [evaluate, evaluateM, hc, Outcome.ofExcept]

/-- A command whose output is an error asks for nothing. -/
theorem effect_eq_none_of_error {output : Output}
    (ho : (c.evaluate s w g).1.output = some output) (hk : output.kind = .error) :
    (c.evaluate s w g).1.effect = none := by
  refine Option.eq_none_iff_forall_ne_some.mpr fun e he => ?_
  have hkind : (c.evaluate s w g).1.output.map (·.kind) = some .error := by simp [ho, hk]
  -- whatever asks for something answers in another kind, or not at all
  obtain ⟨rfl, -⟩ | ⟨_, rfl, -⟩ | ⟨_, _, _, rfl, ht, -⟩ | ⟨_, _, rfl, ht, -⟩ | ⟨rfl, -⟩ :=
    effect_evaluate_cases he
  · simp [evaluate, evaluateM] at hkind
  · simp [evaluate, evaluateM, Section.outcome, Output.text] at hkind
  · simp [evaluate, evaluateM, Editor.outcome, ht, Outcome.ofExcept, Output.text] at hkind
  · simp [output_evaluate_cd ht, Output.text] at hkind
  · simp [evaluate, evaluateM, Decoration.outcomeM, Output.text] at hkind

/-- Only the joke draws from the generator. -/
theorem generator_evaluate :
    (c.evaluate s w g).2 = if c = .decoration .joke then (drawJoke g).2 else g := by
  cases c with
  | decoration d => cases d <;> simp [evaluate, evaluateM, Decoration.outcomeM, drawJoke]
  | _ => simp [evaluate, evaluateM]

/-- The outcome of a command depends on the session only through the working directory and, for
going to a section, through whether the terminal is shown; and on the history only through its
lines. -/
theorem evaluate_congr {t : Session} {w' : Surroundings} (hcwd : t.cwd = s.cwd)
    (hvisible : ∀ target, c = .goTo target → t.shellVisible = s.shellVisible)
    (htree : w'.tree = w.tree) (hlines : w'.history.lines = w.history.lines)
    (hnow : w'.now = w.now) : c.evaluate t w' g = c.evaluate s w g := by
  cases c with
  | goTo target => simp [evaluate, evaluateM, Section.outcome, hvisible target rfl]
  | info topic =>
    cases topic <;> simp [evaluate, evaluateM, Topic.output, History.numbered, hcwd, hlines, hnow]
  | _ => simp [evaluate, evaluateM, hcwd, htree]

end Command

end PortfolioTerminal
