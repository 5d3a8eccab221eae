/-
# A line on its way

A typed line goes from the prompt into a pending command, waits there while other things happen, is
recorded in the history when the command is completed, and comes back into the prompt when it is
recalled.  At every station it is the same text: nothing trims it, and nothing that happens to the
prompt before or to the rest of the shell meanwhile reaches it.

The keys that the prompt handles by itself are told apart first: of an idle visit they change the
prompt and nothing else.
-/
import PortfolioTerminal.Proofs.Prompt.Walk
import PortfolioTerminal.Proofs.Shell.Keys
import PortfolioTerminal.Proofs.Visit.Delay

namespace PortfolioTerminal

/-! ## Keys that stay in the prompt -/

/-- Whether the prompt handles the key by itself, in every state. -/
def Key.staysInPrompt : Key → Bool
  | .enter | .escape | .ctrlL => false
  | _ => true

theorem Prompt.press_of_staysInPrompt {k : Key} (hk : k.staysInPrompt = true) (p : Prompt)
    (h : History) : (p.press h k).2 = none := by
  cases k <;> first | rfl | cases hk

theorem History.recalled?_zero {h : History} {older : List HistoryRow} {r : HistoryRow}
    (hrows : h.rows = older ++ [r]) : h.recalled? 0 = some r.raw := by
  simp [recalled?_eq, ← map_raw_rows, hrows]

namespace Visit

variable {v : Visit} {k : Key} {text : String}

/-- The visit with another prompt. -/
def withPrompt (v : Visit) (p : Prompt) : Visit := { v with shell := { v.shell with prompt := p } }

theorem perform_setInput (h : v.shell.session.processing = false) (text : String) :
    (v.perform (.setInput text)).visit = v.withPrompt (v.shell.prompt.setBuffer text) := by
  simp only [perform, performM, Id.run_pure, quietly, Shell.setInput, h, Bool.false_eq_true,
    if_false, withPrompt]

theorem perform_key_of_staysInPrompt (h : v.shell.session.processing = false)
    (hk : k.staysInPrompt = true) :
    (v.perform (.key k)).visit = v.withPrompt (v.shell.prompt.press v.shell.history k).1 := by
  have hkey := Shell.key_of_press_none h
    (Prompt.press_of_staysInPrompt hk v.shell.prompt v.shell.history)
  simp only [perform_key, hkey, handOut, Option.toList_none, List.append_nil]
  rfl

theorem performAll_keys (h : v.shell.session.processing = false) {keys : List Key}
    (hkeys : ∀ k ∈ keys, k.staysInPrompt = true) :
    v.performAll (keys.map .key) =
      v.withPrompt (v.shell.prompt.pressAll v.shell.history keys) := by
  -- another prompt does not make the visit busy, so the keys that follow find it idle as well
  induction keys generalizing v with
  | nil => rfl
  | cons k keys ih =>
    rw [List.forall_mem_cons] at hkeys
    have hfirst := perform_key_of_staysInPrompt h hkeys.1
    have hrest := ih (v := v.withPrompt (v.shell.prompt.press v.shell.history k).1) h hkeys.2
    rw [List.map_cons, performAll_cons, hfirst, hrest]
    rfl

/-- Enter hands out the command that the line becomes, and leaves the prompt empty. -/
theorem perform_enter (h : v.shell.session.processing = false)
    (hline : Text.isAllBlank v.shell.prompt.buffer = false) :
    let emptied := (v.withPrompt {}).shell
    (v.perform (.key .enter)).visit =
        ⟨emptied.accepting, v.outstanding ++ [emptied.pendingOf v.shell.prompt.buffer]⟩ ∧
      (v.perform (.key .enter)).answer =
        .pressed (some (emptied.pendingOf v.shell.prompt.buffer)) := by
  have hpress := Prompt.press_enter hline v.shell.history
  have hkey := Shell.key_of_press_submit h (by rw [hpress])
  have hpressed : v.shell.pressed .enter = (v.withPrompt {}).shell := by
    rw [Shell.pressed, hpress]
    rfl
  simp only [perform_key, hkey, hpressed, and_true]
  rfl

/-! ## From the prompt into the history -/

/-- A visit that waits for nothing goes on to wait for a typed line, in full. -/
theorem Awaits.performAll_typing (h : v.Awaits none) (hline : Text.isAllBlank text = false) :
    v.performAll [.setInput text, .key .enter] =
      ⟨(v.withPrompt {}).shell.accepting, [(v.withPrompt {}).shell.pendingOf text]⟩ := by
  have hidle : v.shell.session.processing = false := h.processing_eq
  have hnone : v.outstanding = [] := by simpa using h.outstanding_sublist
  have htyped := perform_setInput hidle text
  have henter := perform_enter (v := v.withPrompt (v.shell.prompt.setBuffer text)) hidle hline
  rw [performAll_cons, htyped, performAll_cons, henter.1, performAll_nil]
  simp only [withPrompt, hnone, List.nil_append, Prompt.buffer_setBuffer]

/-- A typed line that is completed at last has left the prompt empty; it is the newest line of the
history, or the history is empty if the line reads as `clear`. -/
theorem Awaits.complete_typing (h : v.Awaits none) (hline : Text.isAllBlank text = false)
    {meanwhile : List Operation} (hmeanwhile : ∀ op ∈ meanwhile, op.takesBack = false)
    (now : CivilTime) :
    let waiting := v.performAll [.setInput text, .key .enter]
    let done := (waiting.performAll meanwhile).perform (.complete 0 now)
    (∃ c, done.answer = .completed c) ∧
      done.visit.shell.session.processing = false ∧ done.visit.shell.prompt = {} ∧
      (Command.parse text ≠ .clear → done.visit.shell.history.recalled? 0 = some text) ∧
      (Command.parse text = .clear → done.visit.shell.history.length = 0) := by
  intro waiting done
  let pending := (v.withPrompt {}).shell.pendingOf text
  have hwaiting : waiting = ⟨(v.withPrompt {}).shell.accepting, [pending]⟩ :=
    h.performAll_typing hline
  have hbusy : waiting.shell.session.processing = true := by
    rw [hwaiting]
    rfl
  -- of what happens meanwhile, nothing reaches the prompt or the command that waits
  obtain ⟨hsame, hout⟩ := undisturbed_performAll hbusy hmeanwhile
  have hpending : (waiting.performAll meanwhile).outstanding = [pending] := by rw [hout, hwaiting]
  obtain ⟨hshell, hanswer⟩ := perform_complete_of_outstanding hpending now
  have hcommand : pending.command = Command.parse text := Shell.command_pendingOf _ text
  have hrows := (waiting.performAll meanwhile).shell.rows_complete pending now
  rw [hcommand] at hrows
  refine ⟨⟨_, hanswer⟩, ?_, ?_, fun hclear => ?_, fun hclear => ?_⟩
  · rw [hshell, Shell.processing_complete]
  · rw [hshell, Shell.prompt_complete, hsame.prompt, hwaiting]
    rfl
  · obtain ⟨output, houtput⟩ :=
      (waiting.performAll meanwhile).shell.exists_output pending now (hcommand ▸ hclear)
    rw [if_neg hclear, houtput] at hrows
    rw [hshell, History.recalled?_zero hrows]
    rfl
  · rw [if_pos hclear] at hrows
    rw [hshell, ← History.length_rows, hrows, List.length_nil]

/-! ## And back -/

/-- **A typed line comes back as it was typed.**  Whatever the shell did before, and whatever it
does while the command waits, the first step back through the history loads the line into the
prompt; if the line reads as `clear`, there is nothing to step back to, and the empty prompt stays
as it is. -/
theorem recalls_typed_line (settings : Settings) (chance : Chance) (ops meanwhile : List Operation)
    (text : String) (now : CivilTime)
    (hidle : ((start settings chance).performAll ops).shell.session.processing = false)
    (hline : Text.isAllBlank text = false)
    (hmeanwhile : ∀ op ∈ meanwhile, op.takesBack = false) :
    let waiting := ((start settings chance).performAll ops).performAll
      [.setInput text, .key .enter]
    let done := (waiting.performAll meanwhile).perform (.complete 0 now)
    let recalled := (done.visit.perform (.key .arrowUp)).visit
    (∃ c, done.answer = .completed c) ∧
      (Command.parse text ≠ .clear →
        recalled.shell.prompt.buffer = text ∧ recalled.shell.prompt.cursor = some 0) ∧
      (Command.parse text = .clear →
        done.visit.shell.prompt = {} ∧ recalled = done.visit) := by
  intro waiting done recalled
  have hawaits := awaits_none_of_idle settings chance hidle
  obtain ⟨hanswer, hdone, hprompt, hnewest, hnothing⟩ :=
    hawaits.complete_typing hline hmeanwhile now
  have hrecalled : recalled = done.visit.withPrompt
      (done.visit.shell.prompt.recallOlder done.visit.shell.history) :=
    perform_key_of_staysInPrompt hdone rfl
  refine ⟨hanswer, fun hclear => ?_, fun hclear => ⟨hprompt, ?_⟩⟩
  · have hcursor : done.visit.shell.prompt.cursor = none := congrArg Prompt.cursor hprompt
    have hstep := Prompt.recallOlder_newest hcursor (hnewest hclear)
    rw [hrecalled, hstep]
    exact ⟨rfl, rfl⟩
  · have hstay := Prompt.recallOlder_of_length_eq_zero (hnothing hclear) done.visit.shell.prompt
    rw [hrecalled, hstay]
    rfl

/-- A line with blanks at both ends comes back into a prompt that has walked through the history
before, and `clear` leaves nothing that could. -/
theorem recalls_typed_echo :
    let now : CivilTime := ⟨2024, 3, 9, 14, 5, 0⟩
    let ops : List Operation := [.run "pwd" now, .run "ls" now, .key .arrowUp, .key .arrowUp]
    let meanwhile : List Operation := [.toggleShellView, .key .ctrlC, .setInput "x", .submit "ls"]
    let done (text : String) :=
      ((((start {} .least).performAll ops).performAll [.setInput text, .key .enter]).performAll
        meanwhile).perform (.complete 0 now)
    ((done "  eCHo  Hi ").visit.perform (.key .arrowUp)).visit.shell.prompt.buffer =
        "  eCHo  Hi " ∧
      (done " CLEAR all").visit.shell.prompt = {} := by
  intro now ops meanwhile done
  have hidle : ((start {} .least).performAll ops).shell.session.processing = false := by
    decide +kernel
  have hecho : Command.parse "  eCHo  Hi " ≠ .clear := by decide +kernel
  have hclear : Command.parse " CLEAR all" = .clear := by decide +kernel
  have hmeanwhile : ∀ op ∈ meanwhile, op.takesBack = false := by decide
  have hback := recalls_typed_line {} .least ops meanwhile "  eCHo  Hi " now hidle (by decide)
    hmeanwhile
  have hempty := recalls_typed_line {} .least ops meanwhile " CLEAR all" now hidle (by decide)
    hmeanwhile
  dsimp only [done]
  exact ⟨(hback.2.1 hecho).1, (hempty.2.2 hclear).1⟩

end Visit

end PortfolioTerminal
