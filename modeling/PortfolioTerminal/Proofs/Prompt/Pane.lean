/-
# The pane follows the text

The prompt keeps its text and its suggestion pane side by side, and every key changes the two in its
own way.  All ways taken together are few: the text stays and the pane is left, closed, turned or
opened anew, or the pane is made for a new text, or both are empty.  Each of them keeps the pane to
the text: its candidates are those of the text, and its highlight is on one of them.
-/
import PortfolioTerminal.Prompt

namespace PortfolioTerminal

/-! ## Panes and texts -/

namespace SuggestionPane

/-- The pane is one for the text. -/
structure Suits (p : SuggestionPane) (text : String) : Prop where
  candidates_eq : p.candidates = suggest text
  /-- The highlight is on a candidate, or at the start where there is none. -/
  active_lt : p.active < p.candidates.length ∨ p.active = 0 ∧ p.candidates.length = 0
  candidates_ne_nil : p.visible = true → p.candidates ≠ []

variable {p : SuggestionPane} {text : String}

theorem suits_empty : Suits {} "" where
  candidates_eq := rfl
  active_lt := .inr ⟨rfl, rfl⟩
  candidates_ne_nil hvisible := absurd hvisible (by simp)

/-- A pane is made for any text, whatever it was for before. -/
theorem suits_update (p : SuggestionPane) (text : String) : (p.update text).Suits text where
  candidates_eq := rfl
  active_lt := by
    rw [active_update, candidates_update]
    omega
  candidates_ne_nil hvisible := by
    rw [update, Bool.and_eq_true, Bool.not_eq_true', List.isEmpty_eq_false_iff] at hvisible
    exact hvisible.2

theorem Suits.hide (h : p.Suits text) : p.hide.Suits text :=
  ⟨h.candidates_eq, h.active_lt, fun hvisible => absurd hvisible (by simp [SuggestionPane.hide])⟩

theorem Suits.reveal (h : p.Suits text) : p.reveal.Suits text where
  candidates_eq := h.candidates_eq
  active_lt := h.active_lt
  candidates_ne_nil hvisible := by
    simpa [SuggestionPane.reveal] using hvisible

/-- The highlight moves among the candidates, by any step. -/
theorem Suits.turn (h : p.Suits text) (step : Int64) : (p.turn step).Suits text := by
  cases hvisible : p.visible with
  | false => rwa [turn_of_hidden hvisible]
  | true =>
    have hne := h.candidates_ne_nil hvisible
    have hpos : 0 < p.candidates.length := List.length_pos_iff.mpr hne
    have hlt := Int.emod_lt_of_pos (Int64.ofNat p.active + step).toInt (Int.natCast_pos.mpr hpos)
    rw [turn_of_visible hvisible hne]
    exact ⟨h.candidates_eq, .inl (by dsimp only; omega), fun _ => hne⟩

/-- An open pane has a candidate highlighted. -/
theorem Suits.exists_highlighted (h : p.Suits text) (hvisible : p.visible = true) :
    ∃ name, p.highlighted? = some name := by
  have hpos : 0 < p.candidates.length := List.length_pos_iff.mpr (h.candidates_ne_nil hvisible)
  have hlt : p.active < p.candidates.length := h.active_lt.resolve_right (by omega)
  exact ⟨_, List.getElem?_eq_getElem hlt⟩

end SuggestionPane

/-! ## What happens to a prompt -/

namespace Prompt

variable {p : Prompt}

/-- The prompt that holds a text, with the pane of the text closed. -/
def holding (text : String) (cursor : Option Nat) : Prompt :=
  ⟨text, cursor, ⟨suggest text, 0, false⟩⟩

/-- A pane that is closed stays so when the text changes. -/
theorem setBuffer_of_closed (hclosed : p.pane.visible = false) (text : String) :
    p.setBuffer text = holding text p.cursor := by
  simp only [setBuffer, SuggestionPane.update, hclosed, Bool.false_and, holding]

/-- What a key or a change of the text can make of the text and the pane. -/
inductive Turns (p : Prompt) : String → SuggestionPane → Prop
  | keep : p.Turns p.buffer p.pane
  | hide : p.Turns p.buffer p.pane.hide
  | turn (step : Int64) : p.Turns p.buffer (p.pane.turn step)
  | reveal : p.Turns p.buffer (p.pane.update p.buffer).reveal
  /-- A new text, while the pane stays open if there is anything to show. -/
  | type (text : String) : p.Turns text (p.pane.update text)
  /-- A new text that was recalled or accepted. -/
  | load (text : String) : p.Turns text (p.pane.update text).hide
  | reset : p.Turns "" {}

theorem turns_load (p : Prompt) (h : History) (offset : Nat) :
    p.Turns (p.load h offset).buffer (p.load h offset).pane := by
  rw [load_eq]
  cases h.recalled? offset with
  | none => exact .keep
  | some raw => exact .load raw

/-- A key turns the text and the pane, whatever the history is. -/
theorem turns_press (p : Prompt) (h : History) (k : Key) :
    p.Turns (p.press h k).1.buffer (p.press h k).1.pane := by
  cases k with
  | enter =>
    simp only [press, pressM, takeLine]
    split
    · exact .keep
    · exact .reset
  | arrowUp =>
    rw [press_arrowUp, recallOlder_eq]
    split
    · exact .keep
    · exact p.turns_load h _
  | arrowDown =>
    rw [press_arrowDown, recallNewer_eq]
    split
    · exact .keep
    · exact .type ""
    · exact p.turns_load h _
  | arrowLeft => exact .turn (-1)
  | arrowRight => exact .turn 1
  | tab =>
    simp only [press, pressM, Id.run_pure, complete]
    split
    · cases p.pane.highlighted? with
      | none => exact .hide
      | some candidate => exact .load candidate
    · exact .reveal
  | escape =>
    simp only [press, pressM]
    split
    · exact .hide
    · exact .keep
  | ctrlC => exact .reset
  | ctrlL => exact .hide
  | other => exact .keep

/-- However the text and the pane are turned, the pane stays one for the text. -/
theorem Turns.suits {text : String} {pane : SuggestionPane} (ht : p.Turns text pane)
    (h : p.pane.Suits p.buffer) : pane.Suits text := by
  cases ht with
  | keep => exact h
  | hide => exact h.hide
  | turn step => exact h.turn step
  | reveal => exact (p.pane.suits_update p.buffer).reveal
  | type => exact p.pane.suits_update text
  | load => exact (p.pane.suits_update text).hide
  | reset => exact SuggestionPane.suits_empty

/-! ## Sequences of events -/

/-- What happens to a prompt: its text is changed, or a key is pressed. -/
inductive Event
  | type (text : String)
  /-- The history is the one that there is when the key is pressed. -/
  | press (h : History) (k : Key)
  deriving DecidableEq, Repr

/-- The prompt after an event. -/
def receive (p : Prompt) : Event → Prompt
  | .type text => p.setBuffer text
  | .press h k => (p.press h k).1

/-- The prompt after a sequence of events. -/
def receiveAll (p : Prompt) (events : List Event) : Prompt := events.foldl receive p

/-- The prompt after a sequence of keys, while the history stays as it is. -/
def pressAll (p : Prompt) (h : History) (keys : List Key) : Prompt :=
  p.receiveAll (keys.map (.press h))

@[simp] theorem pressAll_nil (p : Prompt) (h : History) : p.pressAll h [] = p := rfl

@[simp] theorem pressAll_cons (p : Prompt) (h : History) (k : Key) (keys : List Key) :
    p.pressAll h (k :: keys) = (p.press h k).1.pressAll h keys := rfl

theorem pressAll_append (p : Prompt) (h : History) (before after : List Key) :
    p.pressAll h (before ++ after) = (p.pressAll h before).pressAll h after := by
  simp [pressAll, receiveAll]

theorem pressAll_concat (p : Prompt) (h : History) (keys : List Key) (k : Key) :
    p.pressAll h (keys ++ [k]) = ((p.pressAll h keys).press h k).1 := by
  rw [pressAll_append]
  rfl

/-- Keys that each leave a prompt as it is leave it so together. -/
theorem pressAll_eq_self {h : History} {keys : List Key}
    (hkeys : ∀ k ∈ keys, (p.press h k).1 = p) : p.pressAll h keys = p := by
  induction keys with
  | nil => rfl
  | cons k keys ih =>
    rw [List.forall_mem_cons] at hkeys
    rw [pressAll_cons, hkeys.1, ih hkeys.2]

theorem turns_receive (p : Prompt) (e : Event) :
    p.Turns (p.receive e).buffer (p.receive e).pane := by
  cases e with
  | type text => exact .type text
  | press h k => exact p.turns_press h k

theorem suits_receiveAll (h : p.pane.Suits p.buffer) (events : List Event) :
    (p.receiveAll events).pane.Suits (p.receiveAll events).buffer := by
  induction events generalizing p with
  | nil => exact h
  | cons e events ih => exact ih ((p.turns_receive e).suits h)

/-- The pane is derived from the text, and open only with a candidate highlighted. -/
structure PaneDerived (p : Prompt) : Prop extends p.pane.Suits p.buffer where
  exists_highlighted : p.pane.visible = true → ∃ name, p.pane.highlighted? = some name

/-- **The pane follows the text** through every sequence of events, whatever the texts are and
whatever the history is at each key. -/
theorem paneDerived_receiveAll (events : List Event) :
    (({} : Prompt).receiveAll events).PaneDerived := by
  have hsuits := suits_receiveAll (p := {}) SuggestionPane.suits_empty events
  exact ⟨hsuits, hsuits.exists_highlighted⟩

end Prompt

end PortfolioTerminal
