/-
# The delay

Between a submission and its completion the shell still moves: sections are gone to and opened, the
terminal is hidden and shown, the tour goes on, the view of the history and the theme change.  None
of this is read by the command that waits, except that going to a section reads whether the terminal
is shown.  Completing the command late therefore gives what completing it at once would have given.

The relation that carries this is `Undisturbed`: it is kept by every operation that leaves the
outstanding command alone, and completing a command in two shells so related gives the same answer
and two shells so related.
-/
import Mathlib.Algebra.Group.Nat.Even
import PortfolioTerminal.Proofs.Visit.Flight

namespace PortfolioTerminal

/-! ## Undisturbed shells -/

/-- The shells agree in their work, in the prompt, in the random choices to come, and in whether
they are busy.  They may differ in the layout, the theme, the tour and the compact view. -/
structure Shell.Undisturbed (s t : Shell) : Prop extends s.SameWork t where
  prompt : t.prompt = s.prompt
  generator : t.generator = s.generator
  processing : t.session.processing = s.session.processing

namespace Shell

variable {s t u : Shell}

theorem Undisturbed.refl (s : Shell) : s.Undisturbed s := ⟨⟨rfl, rfl, rfl, rfl, rfl⟩, rfl, rfl, rfl⟩

theorem Undisturbed.trans (h : s.Undisturbed t) (h' : t.Undisturbed u) : s.Undisturbed u where
  tree := h'.tree.trans h.tree
  settings := h'.settings.trans h.settings
  cwd := h'.cwd.trans h.cwd
  rows := h'.rows.trans h.rows
  nextId := h'.nextId.trans h.nextId
  prompt := h'.prompt.trans h.prompt
  generator := h'.generator.trans h.generator
  processing := h'.processing.trans h.processing

/-- A command is evaluated alike in undisturbed shells. -/
theorem Undisturbed.evaluate_eq (h : s.Undisturbed t) {p : Pending} (now : CivilTime)
    (hvisible : ∀ target, p.command = .goTo target →
      t.session.shellVisible = s.session.shellVisible) :
    p.command.evaluate t.session (t.surroundings now) t.generator =
      p.command.evaluate s.session (s.surroundings now) s.generator := by
  rw [h.generator]
  exact Command.evaluate_congr h.cwd hvisible h.tree h.lines_eq rfl

/-- A command is completed alike in undisturbed shells, and leaves them so. -/
theorem Undisturbed.complete (h : s.Undisturbed t) {p : Pending} (now : CivilTime)
    (hvisible : ∀ target, p.command = .goTo target →
      t.session.shellVisible = s.session.shellVisible) :
    (t.complete p now).answer = (s.complete p now).answer ∧
      (s.complete p now).shell.Undisturbed (t.complete p now).shell := by
  have heval := h.evaluate_eq now hvisible
  have houtcome : t.outcome p now = s.outcome p now := congrArg Prod.fst heval
  have hrecord : t.history.nextRow p.raw = s.history.nextRow p.raw := by
    funext output
    simp [History.nextRow, h.nextId, h.length_eq]
  refine ⟨by rw [answer_complete, answer_complete, houtcome, h.nextId], ?_⟩
  exact
    { tree := by simp [h.tree]
      settings := by simp [h.settings]
      cwd := by rw [cwd_complete, cwd_complete, houtcome, h.cwd]
      rows := by rw [rows_complete, rows_complete, houtcome, h.rows, hrecord]
      nextId := by rw [nextId_complete, nextId_complete, houtcome, h.nextId]
      prompt := by simp [h.prompt]
      generator := by rw [generator_complete, generator_complete, heval]
      processing := rfl }

end Shell

/-! ## Waiting -/

/-- Whether the operation takes a pending command back: it completes, cancels or drops one. -/
def Operation.takesBack : Operation → Bool
  | .complete .. | .cancel _ | .drop _ => true
  | _ => false

namespace Visit

variable {v : Visit} {op : Operation} {c : Completion}

theorem completion?_eq_none_of_processing (h : v.shell.session.processing = true)
    (hop : op.takesBack = false) : v.completion? op = none := by
  cases op with
  | complete which now => simp [Operation.takesBack] at hop
  | run line now => simp [completion?, Shell.submit_of_processing h, Except.toOption]
  | _ => rfl

theorem settled?_eq_none (hop : op.takesBack = false) : v.settled? op = none := by
  cases op with
  | complete which now => simp [Operation.takesBack] at hop
  | cancel which => simp [Operation.takesBack] at hop
  | _ => rfl

theorem kept_eq_outstanding (hop : op.takesBack = false) : v.kept op = v.outstanding := by
  cases op with
  | complete which now => simp [Operation.takesBack] at hop
  | cancel which => simp [Operation.takesBack] at hop
  | drop which => simp [Operation.takesBack] at hop
  | _ => rfl

/-- A busy shell takes nothing that would change the prompt or draw from the generator. -/
theorem Quiet.prompt_generator {s : Shell} (hq : v.Quiet op s)
    (h : v.shell.session.processing = true) (hop : op.takesBack = false) :
    s.prompt = v.shell.prompt ∧ s.generator = v.shell.generator := by
  cases hq with
  | accept line hidle => simp [h] at hidle
  | cancel which => simp [Operation.takesBack] at hop
  | press k hidle => simp [h] at hidle
  | leave k hidle => simp [h] at hidle
  | giveUp k line hidle => simp [h] at hidle
  | type text hidle => simp [h] at hidle
  | _ => exact ⟨rfl, rfl⟩

/-- A busy visit is left undisturbed, with the same commands outstanding, by every operation that
takes none of them back. -/
theorem undisturbed_perform (h : v.shell.session.processing = true) (hop : op.takesBack = false) :
    v.shell.Undisturbed (v.perform op).visit.shell ∧
      (v.perform op).visit.outstanding = v.outstanding := by
  have hquiet := quiet_perform (completion?_eq_none_of_processing h hop)
  have hnothing := handedOut?_of_processing h op
  obtain ⟨hprompt, hgenerator⟩ := hquiet.prompt_generator h hop
  refine ⟨⟨hquiet.sameWork, hprompt, hgenerator, ?_⟩, ?_⟩
  · simp [processing_perform, hnothing, settled?_eq_none hop]
  · simp [outstanding_perform, hnothing, kept_eq_outstanding hop]

theorem undisturbed_performAll (h : v.shell.session.processing = true) {ops : List Operation}
    (hops : ∀ op ∈ ops, op.takesBack = false) :
    v.shell.Undisturbed (v.performAll ops).shell ∧
      (v.performAll ops).outstanding = v.outstanding := by
  induction ops generalizing v with
  | nil => exact ⟨.refl _, rfl⟩
  | cons op ops ih =>
    rw [List.forall_mem_cons] at hops
    obtain ⟨hstep, hout⟩ := undisturbed_perform h hops.1
    obtain ⟨hrest, hout'⟩ := ih (hstep.processing.trans h) hops.2
    exact ⟨hstep.trans hrest, hout'.trans hout⟩

/-- Whether the terminal is shown after a run is a matter of how often it was switched over. -/
theorem shellVisible_performAll (v : Visit) (ops : List Operation) :
    (v.performAll ops).shell.session.shellVisible =
      if Even (ops.count .toggleShellView) then v.shell.session.shellVisible
      else !v.shell.session.shellVisible := by
  induction ops using List.reverseRecOn with
  | nil => simp
  | append_singleton ops op ih =>
    rw [performAll_concat, shellVisible_perform, ih, List.count_append, List.count_singleton]
    by_cases hop : op = .toggleShellView
    · by_cases heven : Even (ops.count .toggleShellView) <;> simp [hop, heven, Nat.even_add_one]
    · simp [hop]

/-! ## Completing late -/

/-- An idle visit that accepts a line waits for its command. -/
theorem Awaits.perform_submit (h : v.Awaits none) {line : String}
    (hline : Text.isAllBlank line = false) :
    (v.perform (.submit line)).visit = ⟨v.shell.accepting, [v.shell.pendingOf line]⟩ := by
  have hnone : v.outstanding = [] := by simpa using h.outstanding_sublist
  have hidle : v.shell.session.processing = false := h.processing_eq
  simp [Visit.perform_submit, Shell.submit_of_idle hidle hline, handOut, hnone, Except.toOption]

/-- The one outstanding command is completed by the shell as it stands. -/
theorem perform_complete_of_outstanding {p : Pending} (h : v.outstanding = [p]) (now : CivilTime) :
    (v.perform (.complete 0 now)).visit.shell = (v.shell.complete p now).shell ∧
      (v.perform (.complete 0 now)).answer = .completed (v.shell.complete p now).answer := by
  have hp : v.outstanding[0]? = some p := by rw [h, List.getElem?_cons_zero]
  rw [perform_complete_of_some hp]
  exact ⟨rfl, rfl⟩

/-- A command that a visit waits for is completed after any operations that leave it alone as it is
completed at once. -/
theorem complete_performAll {p : Pending} {meanwhile : List Operation}
    (hbusy : v.shell.session.processing = true) (hout : v.outstanding = [p])
    (hmeanwhile : ∀ op ∈ meanwhile, op.takesBack = false)
    (hswitched : ∀ target, p.command = .goTo target → Even (meanwhile.count .toggleShellView))
    (now : CivilTime) :
    ∃ done, (v.perform (.complete 0 now)).answer = .completed done ∧
      ((v.performAll meanwhile).perform (.complete 0 now)).answer = .completed done ∧
      (v.perform (.complete 0 now)).visit.shell.Undisturbed
        ((v.performAll meanwhile).perform (.complete 0 now)).visit.shell := by
  obtain ⟨hsame, hout'⟩ := undisturbed_performAll hbusy hmeanwhile
  obtain ⟨hshell, hanswer⟩ := perform_complete_of_outstanding hout now
  obtain ⟨hshell', hanswer'⟩ := perform_complete_of_outstanding (hout'.trans hout) now
  have hvisible : ∀ target, p.command = .goTo target →
      (v.performAll meanwhile).shell.session.shellVisible = v.shell.session.shellVisible := by
    intro target hcommand
    rw [shellVisible_performAll, if_pos (hswitched target hcommand)]
  obtain ⟨hdone, hafter⟩ := hsame.complete now hvisible
  refine ⟨_, hanswer, hanswer'.trans (congrArg Answer.completed hdone), ?_⟩
  rw [hshell, hshell']
  exact hafter

/-- A line that an idle visit accepts is completed late as it is completed at once. -/
theorem Awaits.complete_submit (h : v.Awaits none) {line : String}
    (hline : Text.isAllBlank line = false) {meanwhile : List Operation}
    (hmeanwhile : ∀ op ∈ meanwhile, op.takesBack = false)
    (hswitched : ∀ target, Command.parse line = .goTo target →
      Even (meanwhile.count .toggleShellView)) (now : CivilTime) :
    let waiting := (v.perform (.submit line)).visit
    ∃ done, (waiting.perform (.complete 0 now)).answer = .completed done ∧
      ((waiting.performAll meanwhile).perform (.complete 0 now)).answer = .completed done ∧
      (waiting.perform (.complete 0 now)).visit.shell.Undisturbed
        ((waiting.performAll meanwhile).perform (.complete 0 now)).visit.shell := by
  intro waiting
  have hwaiting : waiting = ⟨v.shell.accepting, [v.shell.pendingOf line]⟩ := h.perform_submit hline
  have hbusy : waiting.shell.session.processing = true := by
    rw [hwaiting]
    rfl
  have hcommand : (v.shell.pendingOf line).command = Command.parse line := by
    simp only [Shell.pendingOf]
  exact complete_performAll hbusy (by rw [hwaiting]) hmeanwhile (by rwa [hcommand]) now

/-- **The delay is transparent.**  A line that an idle shell accepts is completed after any
operations that leave the outstanding command alone as it is completed at once: with the same
answer, and leaving the same directory, logs, prompt and random choices.  Only for the name of a
section it matters that the terminal was switched over an even number of times. -/
theorem complete_later (settings : Settings) (chance : Chance) (ops meanwhile : List Operation)
    (line : String) (now : CivilTime)
    (hidle : ((start settings chance).performAll ops).shell.session.processing = false)
    (hline : Text.isAllBlank line = false)
    (hmeanwhile : ∀ op ∈ meanwhile, op.takesBack = false)
    (hswitched : ∀ target, Command.parse line = .goTo target →
      Even (meanwhile.count .toggleShellView)) :
    let waiting := (((start settings chance).performAll ops).perform (.submit line)).visit
    let atOnce := waiting.perform (.complete 0 now)
    let later := (waiting.performAll meanwhile).perform (.complete 0 now)
    ∃ done, atOnce.answer = .completed done ∧ later.answer = .completed done ∧
      atOnce.visit.shell.Undisturbed later.visit.shell := by
  intro waiting atOnce later
  have hawaits := awaits_none_of_idle settings chance hidle
  exact hawaits.complete_submit hline hmeanwhile hswitched now

/-- The name of a section is completed amid some commotion as it is at once, the terminal having
been hidden and shown again. -/
theorem complete_later_home :
    let now : CivilTime := ⟨2024, 3, 9, 14, 5, 0⟩
    let waiting :=
      (((start {} .least).performAll [.run "cd blog" now]).perform (.submit "home")).visit
    let meanwhile : List Operation := [.toggleShellView, .key .enter, .openFile "about.md",
      .submit "ls", .tourTick, .toggleShellView]
    ∃ done, (waiting.perform (.complete 0 now)).answer = .completed done ∧
      ((waiting.performAll meanwhile).perform (.complete 0 now)).answer = .completed done ∧
      (waiting.perform (.complete 0 now)).visit.shell.Undisturbed
        ((waiting.performAll meanwhile).perform (.complete 0 now)).visit.shell := by
  intro now waiting meanwhile
  refine complete_later {} .least [.run "cd blog" now] meanwhile "home" now ?_ ?_ ?_ ?_
  · decide +kernel
  · decide
  · decide
  · exact fun _ _ => by decide

/-- Hiding the terminal once tells in what the name of a section answers. -/
example :
    let now : CivilTime := ⟨2024, 3, 9, 14, 5, 0⟩
    let waiting := ((start {} .least).perform (.submit "home")).visit
    (waiting.perform (.complete 0 now)).visit.shell.history.outputs ≠
      ((waiting.performAll [.toggleShellView]).perform
        (.complete 0 now)).visit.shell.history.outputs := by
  decide +kernel

end Visit

end PortfolioTerminal
