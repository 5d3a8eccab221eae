/-
# Suggestions

While a verb is being typed, the pane can show the verbs that begin with it.  The candidates keep
the order of the vocabulary; one of them is highlighted.
-/
import PortfolioTerminal.Fault
import PortfolioTerminal.Text.Blank
import PortfolioTerminal.Text.Lowercase
import PortfolioTerminal.Verb

namespace PortfolioTerminal

/-- The verbs that begin with the text, in any case of its letters and whatever blanks precede it.
A blank text suggests nothing. -/
def suggest (text : String) : List String :=
  match Text.lowerChars (Text.trimStart text.toList) with
  | [] => []
  | typed => Verb.names.filter fun name => typed.isPrefixOf name.toList

/-- The state of the pane. -/
structure SuggestionPane where
  candidates : List String := []
  /-- The place of the highlighted candidate. -/
  active : Nat := 0
  visible : Bool := false
  deriving DecidableEq, Repr

namespace SuggestionPane

/-- The highlighted candidate, if there is one. -/
def highlighted? (p : SuggestionPane) : Option String := p.candidates[p.active]?

/-- The pane for a new text.  The first candidate is highlighted, and an open pane closes when there
is none. -/
def update (p : SuggestionPane) (text : String) : SuggestionPane :=
  ⟨suggest text, 0, p.visible && !(suggest text).isEmpty⟩

/-- The pane, open if there is anything to show. -/
def reveal (p : SuggestionPane) : SuggestionPane := { p with visible := !p.candidates.isEmpty }

/-- The pane, closed. -/
def hide (p : SuggestionPane) : SuggestionPane := { p with visible := false }

/-- The pane with the highlight moved by `step` places, around the ends; nothing moves while the
pane is closed.  The sum is taken in 64-bit words, the remainder is the Euclidean one. -/
def cycle {m : Type → Type} [Monad m] [Checks m] (p : SuggestionPane) (step : Int64) :
    m SuggestionPane :=
  if p.visible && !p.candidates.isEmpty then do
    let sum ← Fault.plus (Int64.ofNat p.active) step
    let place ← Fault.remainder sum.toInt p.candidates.length
    pure { p with active := place.toNat }
  else pure p

/-- The pane that cycling gives where nothing is checked. -/
def turn (p : SuggestionPane) (step : Int64) : SuggestionPane := Id.run (p.cycle step)

/-! ## Small laws -/

@[simp] theorem candidates_update (p : SuggestionPane) (text : String) :
    (p.update text).candidates = suggest text := rfl

@[simp] theorem active_update (p : SuggestionPane) (text : String) :
    (p.update text).active = 0 := rfl

theorem turn_of_hidden {p : SuggestionPane} (h : p.visible = false) (step : Int64) :
    p.turn step = p := by
  simp [turn, cycle, h]

theorem turn_of_visible {p : SuggestionPane} (h : p.visible = true) (hne : p.candidates ≠ [])
    (step : Int64) :
    p.turn step = { p with
      active := ((Int64.ofNat p.active + step).toInt % p.candidates.length).toNat } := by
  have hopen : (p.visible && !p.candidates.isEmpty) = true := by simpa [h] using hne
  rw [turn, cycle, if_pos hopen]
  rfl

/-- Only the highlight is moved. -/
theorem exists_turn_eq (p : SuggestionPane) (step : Int64) :
    ∃ place, p.turn step = { p with active := place } := by
  rw [turn, cycle]
  split <;> exact ⟨_, rfl⟩

@[simp] theorem candidates_turn (p : SuggestionPane) (step : Int64) :
    (p.turn step).candidates = p.candidates := by
  obtain ⟨place, h⟩ := p.exists_turn_eq step
  rw [h]

@[simp] theorem visible_turn (p : SuggestionPane) (step : Int64) :
    (p.turn step).visible = p.visible := by
  obtain ⟨place, h⟩ := p.exists_turn_eq step
  rw [h]

end SuggestionPane

end PortfolioTerminal
