/-
# Prompts that do not fault

Recording reads the output back at the place of its line, and the history has two logs of one length
to show for it.  Recalling counts back from the end of the log, after comparing the offset with its
length, so that it does not matter whether the cursor of the prompt still names a line.  The
suggestion pane is another matter: it adds up words and divides by the number of its candidates, and
so it has to be a pane for some text.
-/
import PortfolioTerminal.Proofs.Prompt.Ring

namespace PortfolioTerminal

/-! ## The logs -/

namespace History

variable (h : History)

/-- Recording does not fault: the logs are of one length, and so the output is at its place. -/
theorem recordM_eq_ok (raw : String) (output : Output) :
    (h.recordM raw output : Except Fault _) = .ok (Id.run (h.recordM raw output)) := by
  have hplace : h.length < (h.record raw output).outputs.length := by simp
  refine Fault.bind_eq_ok (Fault.require_of (h.record raw output).aligned _) ?_
  exact Fault.bind_eq_ok (Fault.item_of_lt hplace _) rfl

/-- Recalling does not fault: beyond the oldest line nothing is subtracted. -/
theorem recalledM_eq_ok (offset : Nat) :
    (h.recalledM offset : Except Fault _) = .ok (h.recalled? offset) := by
  unfold recalled? recalledM
  split
  · rfl
  · have hnewest : 1 ≤ h.length := by omega
    have hback : offset ≤ h.length - 1 := by omega
    have hplace : h.length - 1 - offset < h.commands.length := by
      rw [← length]
      omega
    refine Fault.bind_eq_ok (Fault.minus_of_le hnewest) ?_
    refine Fault.bind_eq_ok (Fault.minus_of_le hback) ?_
    exact Fault.bind_eq_ok (Fault.item_of_lt hplace _) rfl

end History

/-! ## The ring of candidates -/

namespace SuggestionPane

/-- The highlight moves, and the sum that gives its new place is above all words. -/
def Overflows (p : SuggestionPane) (step : Int64) : Prop :=
  p.visible = true ∧ p.candidates ≠ [] ∧ Int64.maxValue.toInt < p.active + step.toInt

instance (p : SuggestionPane) (step : Int64) : Decidable (p.Overflows step) :=
  inferInstanceAs (Decidable (_ ∧ _ ∧ _))

variable {p : SuggestionPane} {text : String} {step : Int64}

/-- The highlight is on a candidate, and there are no more candidates than verbs. -/
theorem Suits.active_lt_names (h : p.Suits text) (hne : p.candidates ≠ []) :
    p.active < Verb.names.length := by
  have hpos := List.length_pos_iff.mpr hne
  have hactive : p.active < p.candidates.length := h.active_lt.resolve_right (by omega)
  have hlength : p.candidates.length ≤ Verb.names.length := by
    rw [h.candidates_eq]
    exact length_suggest_le text
  omega

/-- The place of the highlight is the same as a word. -/
theorem Suits.toInt_active (h : p.Suits text) (hne : p.candidates ≠ []) :
    (Int64.ofNat p.active).toInt = p.active :=
  toInt_ofNat_of_le (Nat.le_of_lt (h.active_lt_names hne))

/-- The candidates are so few that the highlight is below the last word. -/
theorem Suits.active_lt_maxValue (h : p.Suits text) (hne : p.candidates ≠ []) :
    p.active < Int64.maxValue.toInt := by
  have hnames : (Verb.names.length : Int) < Int64.maxValue.toInt := by decide
  have hactive := h.active_lt_names hne
  omega

/-- A step to a neighbour does not overflow. -/
theorem Suits.not_overflows (h : p.Suits text) (high : step.toInt ≤ 1) : ¬ p.Overflows step := by
  rintro ⟨-, hne, hsum⟩
  have hactive := h.active_lt_maxValue hne
  omega

/-- A step does not fault unless its sum overflows: there is a candidate to divide by. -/
theorem Suits.cycle_eq_ok (h : p.Suits text) (hfits : ¬ p.Overflows step) :
    (p.cycle step : Except Fault _) = .ok (p.turn step) := by
  unfold SuggestionPane.turn cycle
  split
  · rename_i hopen
    obtain ⟨hvisible, hne⟩ : p.visible = true ∧ p.candidates ≠ [] := by simpa using hopen
    have hsum : p.active + step.toInt ≤ Int64.maxValue.toInt :=
      Int.not_lt.mp fun hover => hfits ⟨hvisible, hne, hover⟩
    have hplace := h.toInt_active hne
    have hlow := step.minValue_le_toInt
    refine Fault.bind_eq_ok (Fault.plus_of_mem (by omega) (by omega)) ?_
    exact Fault.bind_eq_ok (Fault.remainder_of_pos _ (List.length_pos_iff.mpr hne)) rfl
  · rfl

/-- A step whose sum overflows faults. -/
theorem Suits.cycle_eq_error (h : p.Suits text) (hover : p.Overflows step) :
    (p.cycle step : Except Fault _) = .error .overflow := by
  obtain ⟨hvisible, hne, hsum⟩ := hover
  have hopen : (p.visible && !p.candidates.isEmpty) = true := by simpa [hvisible] using hne
  have hplus : (Fault.plus (Int64.ofNat p.active) step : Except Fault _) = .error .overflow :=
    Fault.plus_of_lt (by rwa [h.toInt_active hne])
  rw [cycle, if_pos hopen, hplus]
  rfl

theorem Suits.cycle_eq_ok_iff (h : p.Suits text) {q : SuggestionPane} :
    (p.cycle step : Except Fault _) = .ok q ↔ ¬ p.Overflows step ∧ q = p.turn step := by
  by_cases hover : p.Overflows step
  · simp [h.cycle_eq_error hover, hover]
  · simp [h.cycle_eq_ok hover, hover, eq_comm]

end SuggestionPane

/-! ## The prompt -/

namespace Prompt

variable (p : Prompt) (h : History)

theorem loadM_eq_ok (offset : Nat) :
    (p.loadM h offset : Except Fault _) = .ok (p.load h offset) := by
  refine Fault.bind_eq_ok (h.recalledM_eq_ok offset) ?_
  cases Id.run (h.recalledM offset) <;> rfl

theorem recallOlderM_eq_ok : (p.recallOlderM h : Except Fault _) = .ok (p.recallOlder h) := by
  unfold recallOlder recallOlderM
  split
  · rfl
  · rename_i hne
    have hpos : 1 ≤ h.length := by
      rw [History.isEmpty, List.isEmpty_iff] at hne
      exact List.length_pos_iff.mpr hne
    exact Fault.bind_eq_ok (Fault.minus_of_le hpos) (p.loadM_eq_ok h _)

/-- However far back the cursor is, one place nearer is not below the newest line. -/
theorem recallNewerM_eq_ok : (p.recallNewerM h : Except Fault _) = .ok (p.recallNewer h) := by
  unfold recallNewer recallNewerM
  match p.cursor with
  | none => rfl
  | some 0 => rfl
  | some (i + 1) =>
    exact Fault.bind_eq_ok (Fault.minus_of_le (Nat.le_add_left 1 i)) (p.loadM_eq_ok h i)

variable {p}

/-- No key faults while the pane is one for the text, whatever the cursor and the history are. -/
theorem pressM_eq_ok (hp : p.pane.Suits p.buffer) (k : Key) :
    (p.pressM h k : Except Fault _) = .ok (p.press h k) := by
  cases k with
  | arrowUp => exact Fault.bind_eq_ok (p.recallOlderM_eq_ok h) rfl
  | arrowDown => exact Fault.bind_eq_ok (p.recallNewerM_eq_ok h) rfl
  | arrowLeft => exact Fault.bind_eq_ok (hp.cycle_eq_ok (hp.not_overflows (by decide))) rfl
  | arrowRight => exact Fault.bind_eq_ok (hp.cycle_eq_ok (hp.not_overflows (by decide))) rfl
  | escape =>
    simp only [press, pressM]
    split <;> rfl
  | _ => rfl

end Prompt

end PortfolioTerminal
