/-
# No typed line is lost

A key that submits a line empties the prompt before the shell is asked to accept the line.  Were the
line rejected then, nothing would be left of it but a notice.  Whether the prompt gives up a line,
and whether the shell accepts it, is decided in two places, each with a test of its own; in every
state of a shell the two agree.
-/
import PortfolioTerminal.Proofs.Shell.Operations

namespace PortfolioTerminal

theorem Text.isAllBlank_eq_false_iff {text : String} :
    isAllBlank text = false ↔ ∃ c ∈ text.toList, isBlank c = false := by
  simp [isAllBlank]

/-! ## Enter -/

namespace Prompt

variable {p : Prompt}

/-- The enter key gives a line that is not blank to the shell, and leaves the prompt empty. -/
theorem press_enter (hline : Text.isAllBlank p.buffer = false) (h : History) :
    p.press h .enter = ({}, some (.submit p.buffer)) := by
  simp only [press, pressM, takeLine, hline, Bool.false_eq_true, if_false]
  rfl

theorem press_enter_of_blank (hline : Text.isAllBlank p.buffer = true) (h : History) :
    p.press h .enter = (p, none) := by
  simp only [press, pressM, Id.run_pure, takeLine, hline, if_true]

end Prompt

namespace Shell

variable {s : Shell} {k : Key}

/-- The enter key that hands out no command changes nothing. -/
theorem shell_key_enter_of_answer_eq_none (hnone : (s.key .enter).answer = none) :
    (s.key .enter).shell = s := by
  cases h : s.session.processing with
  | true => rw [key_of_processing h]
  | false =>
    cases hline : Text.isAllBlank s.prompt.buffer with
    | true =>
      have hpress := Prompt.press_enter_of_blank hline s.history
      rw [key_of_press_none h (by rw [hpress]), pressed, hpress]
    | false =>
      rw [key_of_press_submit h (by rw [Prompt.press_enter hline])] at hnone
      contradiction

/-! ## Notices -/

/-- The one thing that a key ever reports is that the editor is closed. -/
theorem eq_editorClosed_of_mem_notices_key {n : Notice} (hn : n ∈ (s.key k).notices) :
    n = .editorClosed := by
  cases h : s.session.processing with
  | true => simp [key_of_processing h] at hn
  | false =>
    match ha : (s.prompt.press s.history k).2 with
    | none => simp [key_of_press_none h ha] at hn
    | some (.submit line) => simp [key_of_press_submit h ha] at hn
    | some .closeOverlay =>
      rw [key_of_press_closeOverlay h ha, closeEditor, Session.closeNotices] at hn
      split at hn
      · exact List.mem_singleton.mp hn
      · cases hn

/-! ## Submitting by key -/

/-- What a key submits is handed out, and in full. -/
structure SubmitsInFull (s : Shell) (k : Key) : Prop where
  /-- A command is handed out by an idle shell, for the key that clears the screen and for the enter
  key behind a line that is not blank. -/
  handsOut_iff : (∃ p, (s.key k).answer = some p) ↔
    s.session.processing = false ∧
      (k = .ctrlL ∨ k = .enter ∧ ∃ c ∈ s.prompt.buffer.toList, Text.isBlank c = false)
  raw_eq : ∀ p, (s.key k).answer = some p →
    p.raw = if k = .ctrlL then "clear" else s.prompt.buffer
  command_eq : ∀ p, (s.key k).answer = some p → p.command = Command.parse p.raw
  /-- The shell accepts the line that the prompt has given up. -/
  accepts : s.session.processing = false → ∀ line,
    (s.prompt.press s.history k).2 = some (.submit line) →
      ∃ p, (submit { s with prompt := (s.prompt.press s.history k).1 } line).answer = .ok p
  not_rejected : ∀ f, Notice.submissionRejected f ∉ (s.key k).notices
  /-- A line that is not handed out stays where it is. -/
  keeps : k = .enter → (s.key k).answer = none → (s.key k).shell = s

/-- **No typed line is lost**, in any state of a shell and by any key. -/
theorem submitsInFull_key (s : Shell) (k : Key) : s.SubmitsInFull k where
  handsOut_iff := by
    simp only [answer_key_eq_some_iff, Prompt.press_eq_submit_iff]
    constructor
    · rintro ⟨p, h, line, ⟨hk, rfl, hline⟩ | ⟨hk, -⟩, -⟩
      · exact ⟨h, .inr ⟨hk, Text.isAllBlank_eq_false_iff.mp hline⟩⟩
      · exact ⟨h, .inl hk⟩
    · rintro ⟨h, hk | ⟨hk, hline⟩⟩
      · exact ⟨_, h, _, .inr ⟨hk, rfl⟩, rfl⟩
      · exact ⟨_, h, _, .inl ⟨hk, rfl, Text.isAllBlank_eq_false_iff.mpr hline⟩, rfl⟩
  raw_eq p hp := by
    obtain ⟨-, line, ha, rfl⟩ := answer_key_eq_some_iff.mp hp
    obtain ⟨rfl, hline, -⟩ | ⟨rfl, hline⟩ := Prompt.press_eq_submit_iff.mp ha
    · rw [if_neg (by decide)]
      exact hline
    · rw [if_pos rfl]
      exact hline
  command_eq p hp := by
    obtain ⟨-, line, -, rfl⟩ := answer_key_eq_some_iff.mp hp
    exact command_pendingOf _ line
  accepts h line ha := by
    have hs := submit_pressed h ha
    exact ⟨_, congrArg Reply.answer hs⟩
  not_rejected f hf := by
    have hclosed := eq_editorClosed_of_mem_notices_key hf
    contradiction
  keeps hk hnone := by
    subst hk
    exact shell_key_enter_of_answer_eq_none hnone

end Shell

end PortfolioTerminal
