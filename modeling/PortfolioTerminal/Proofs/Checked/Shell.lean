/-
# Shells that do not fault

No operation of a shell faults while two things hold: the suggestion pane is one for the text of the
prompt, and the generator keeps to the bounds that it is given.  The first is for the keys, and the
second for the one command that draws; a delay is drawn between bounds that are in order, whatever
the settings are.
-/
import PortfolioTerminal.Proofs.Checked.Prompt
import PortfolioTerminal.Proofs.Shell.Operations

namespace PortfolioTerminal

/-! ## Sections and commands -/

theorem Section.nextM_eq_ok (s : Section) : (s.nextM : Except Fault _) = .ok s.next := by
  cases s <;> rfl

section

variable {g : Generator} (hg : g.KeepsToBounds)

include hg

/-- A joke is read at a place below their number. -/
theorem drawJokeM_eq_ok : (drawJokeM g : Except Fault _) = .ok (drawJoke g) := by
  have hpos : 0 < Content.jokes.length := by decide
  refine Fault.bind_eq_ok (g.drawBelow_of_pos hpos) ?_
  exact Fault.bind_eq_ok (Fault.item_of_lt (hg.drawBelow_lt hpos) _) rfl

/-- None but the joke carries out anything that may fault. -/
theorem Command.evaluateM_eq_ok (s : Session) (w : Surroundings) (c : Command) :
    (c.evaluateM s w g : Except Fault _) = .ok (c.evaluate s w g) := by
  cases c with
  | decoration d =>
    cases d with
    | joke => exact Fault.bind_eq_ok (drawJokeM_eq_ok hg) rfl
    | _ => rfl
  | _ => rfl

theorem Command.keepsToBounds_evaluate (s : Session) (w : Surroundings) (c : Command) :
    (c.evaluate s w g).2.KeepsToBounds := by
  cases c with
  | decoration d =>
    cases d with
    | joke => exact hg.drawBelow Content.jokes.length
    | _ => exact hg
  | _ => exact hg

end

namespace Shell

variable (s : Shell)

/-! ## Submitting -/

/-- No delay bounds make the range empty. -/
theorem chooseDelayM_eq_ok : (s.chooseDelayM : Except Fault _) = .ok s.chooseDelay :=
  s.generator.draw_of_le s.settings.delayBounds_ordered

theorem submitM_eq_ok (raw : String) :
    (s.submitM raw : Except Fault _) = .ok (s.submit raw) := by
  unfold submit submitM
  split
  · rfl
  · split
    · rfl
    · exact Fault.bind_eq_ok s.chooseDelayM_eq_ok rfl

/-! ## Completing -/

theorem applyM_eq_ok (e : Effect) : (s.applyM e : Except Fault _) = .ok (s.apply e) := by
  cases e <;> rfl

/-- The effect of a command, if it has one. -/
theorem elim_applyM_eq_ok (effect : Option Effect) :
    (effect.elim (pure s) s.applyM : Except Fault Shell) =
      .ok (Id.run (effect.elim (pure s) s.applyM)) := by
  cases effect with
  | none => rfl
  | some e => exact s.applyM_eq_ok e

theorem recordM_eq_ok (raw : String) (output : Option Output) :
    (s.recordM raw output : Except Fault _) = .ok (s.record raw output) := by
  cases output with
  | none => rfl
  | some output => exact Fault.bind_eq_ok (s.history.recordM_eq_ok raw output) rfl

variable {s}

/-- Completing a command does not fault, whatever the logs hold. -/
theorem completeM_eq_ok (hg : s.generator.KeepsToBounds) (p : Pending) (now : CivilTime) :
    (s.completeM p now : Except Fault _) = .ok (s.complete p now) := by
  refine Fault.bind_eq_ok (Command.evaluateM_eq_ok hg s.session (s.surroundings now) p.command) ?_
  refine Fault.bind_eq_ok (elim_applyM_eq_ok _ _) ?_
  exact Fault.bind_eq_ok (recordM_eq_ok _ p.raw _) rfl

theorem keepsToBounds_submit (hg : s.generator.KeepsToBounds) (raw : String) :
    (s.submit raw).shell.generator.KeepsToBounds := by
  obtain ⟨hs, -⟩ | ⟨-, hs, -⟩ := s.submit_cases raw <;> rw [hs]
  · exact hg
  · exact hg.draw _ _

theorem runM_eq_ok (hg : s.generator.KeepsToBounds) (raw : String) (now : CivilTime) :
    (s.runM raw now : Except Fault _) = .ok (s.run raw now) := by
  have hkept := keepsToBounds_submit hg raw
  refine Fault.bind_eq_ok (s.submitM_eq_ok raw) ?_
  rw [submit] at hkept
  generalize Id.run (s.submitM raw) = submitted at hkept ⊢
  obtain ⟨shell, answer, notices⟩ := submitted
  cases answer with
  | error f => rfl
  | ok pending => exact Fault.bind_eq_ok (completeM_eq_ok hkept pending now) rfl

/-! ## Keys and ticks -/

theorem actM_eq_ok (s : Shell) (action : Option PromptAction) :
    (s.actM action : Except Fault _) = .ok (Id.run (s.actM action)) := by
  match action with
  | none => rfl
  | some .closeOverlay => rfl
  | some (.submit line) =>
    refine Fault.bind_eq_ok (s.submitM_eq_ok line) ?_
    cases (Id.run (s.submitM line)).answer <;> rfl

/-- A key does not fault while the pane is one for the text. -/
theorem keyM_eq_ok (hp : s.prompt.pane.Suits s.prompt.buffer) (k : Key) :
    (s.keyM k : Except Fault _) = .ok (s.key k) := by
  unfold key keyM
  split
  · rfl
  · exact Fault.bind_eq_ok (Prompt.pressM_eq_ok s.history hp k) (actM_eq_ok _ _)

theorem tourAfterM_eq_ok (here : Section) :
    (tourAfterM here : Except Fault _) = .ok (tourAfter here) :=
  Fault.bind_eq_ok here.nextM_eq_ok rfl

theorem tourTickM_eq_ok (s : Shell) : (s.tourTickM : Except Fault _) = .ok s.tourTick := by
  unfold tourTick tourTickM
  cases s.tour with
  | none => rfl
  | some here => exact Fault.bind_eq_ok (tourAfterM_eq_ok here) rfl

end Shell

end PortfolioTerminal
