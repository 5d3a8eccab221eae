/-
# The prompt

The line being typed, the place in the history that was recalled, and the suggestion pane.  The
prompt handles every key by itself except the two that it reports as an action.

Recalling a line counts back from the end of the log, and moving the highlight counts around the
candidates.  An operation that does so, and may fault, has a name that ends in `M`; without the `M`
it is the same one where nothing is checked.
-/
import PortfolioTerminal.History
import PortfolioTerminal.Key
import PortfolioTerminal.SuggestionPane

namespace PortfolioTerminal

/-- What a key asks of the rest of the shell. -/
inductive PromptAction
  /-- Run this line. -/
  | submit (line : String)
  /-- Leave the editor. -/
  | closeOverlay
  deriving DecidableEq, Repr

/-- The state of the prompt. -/
structure Prompt where
  buffer : String := ""
  /-- How far the recalled line is from the newest one; a line of one's own has no such place. -/
  cursor : Option Nat := none
  pane : SuggestionPane := {}
  deriving DecidableEq, Repr

namespace Prompt

/-! ## The line -/

/-- The prompt with another text in it. -/
def setBuffer (p : Prompt) (text : String) : Prompt :=
  { p with buffer := text, pane := p.pane.update text }

/-- The empty prompt. -/
def reset (_ : Prompt) : Prompt := {}

/-- Takes the line for submission, unless it is blank. -/
def takeLine (p : Prompt) : Prompt × Option PromptAction :=
  if Text.isAllBlank p.buffer then (p, none) else (p.reset, some (.submit p.buffer))

/-! ## Recall -/

variable {m : Type → Type} [Monad m] [Checks m]

/-- The prompt with the line at `offset` loaded; nothing changes if there is no such line. -/
def loadM (p : Prompt) (h : History) (offset : Nat) : m Prompt := do
  match ← h.recalledM offset with
  | some raw =>
    let p := { p with cursor := some offset }.setBuffer raw
    pure { p with pane := p.pane.hide }
  | none => pure p

/-- The prompt with the next older line, or the oldest one again. -/
def recallOlderM (p : Prompt) (h : History) : m Prompt :=
  if h.isEmpty then pure p
  else do
    let oldest ← Fault.minus h.length 1
    p.loadM h (min (p.cursor.elim 0 (· + 1)) oldest)

/-- The prompt with the next newer line, which after the newest one is an empty line. -/
def recallNewerM (p : Prompt) (h : History) : m Prompt :=
  match p.cursor with
  | none => pure p
  | some 0 => pure ({ p with cursor := none }.setBuffer "")
  | some i => do
    let newer ← Fault.minus i 1
    p.loadM h newer

/-! ## Suggestions -/

/-- Takes the highlighted candidate from an open pane, and opens a closed one. -/
def complete (p : Prompt) : Prompt :=
  if p.pane.visible then
    let p := p.pane.highlighted?.elim p p.setBuffer
    { p with pane := p.pane.hide }
  else { p with pane := (p.pane.update p.buffer).reveal }

/-! ## Keys -/

/-- The prompt after a key, and what the key asks for. -/
def pressM (p : Prompt) (h : History) : Key → m (Prompt × Option PromptAction)
  | .enter => pure p.takeLine
  | .arrowUp => do pure (← p.recallOlderM h, none)
  | .arrowDown => do pure (← p.recallNewerM h, none)
  | .arrowLeft => do pure ({ p with pane := ← p.pane.cycle (-1) }, none)
  | .arrowRight => do pure ({ p with pane := ← p.pane.cycle 1 }, none)
  | .tab => pure (p.complete, none)
  | .escape =>
    if p.pane.visible then pure ({ p with pane := p.pane.hide }, none)
    else pure (p, some .closeOverlay)
  | .ctrlC => pure (p.reset, none)
  | .ctrlL => pure ({ p with cursor := none, pane := p.pane.hide }, some (.submit "clear"))
  | .other => pure (p, none)

/-! ## Unchecked -/

/-- The prompt with the line at `offset` loaded. -/
def load (p : Prompt) (h : History) (offset : Nat) : Prompt := Id.run (p.loadM h offset)

/-- The prompt with the next older line. -/
def recallOlder (p : Prompt) (h : History) : Prompt := Id.run (p.recallOlderM h)

/-- The prompt with the next newer line. -/
def recallNewer (p : Prompt) (h : History) : Prompt := Id.run (p.recallNewerM h)

/-- The prompt after a key, and what the key asks for. -/
def press (p : Prompt) (h : History) (k : Key) : Prompt × Option PromptAction :=
  Id.run (p.pressM h k)

/-! ## Small laws -/

/-- Loading a line is loading the line that is recalled. -/
theorem load_eq (p : Prompt) (h : History) (offset : Nat) :
    p.load h offset = (h.recalled? offset).elim p fun raw =>
      let p := { p with cursor := some offset }.setBuffer raw
      { p with pane := p.pane.hide } := by
  rw [load, loadM, Id.run_bind, ← History.recalled?]
  cases h.recalled? offset <;> rfl

theorem recallOlder_eq (p : Prompt) (h : History) :
    p.recallOlder h =
      if h.isEmpty then p else p.load h (min (p.cursor.elim 0 (· + 1)) (h.length - 1)) := rfl

theorem recallNewer_eq (p : Prompt) (h : History) :
    p.recallNewer h = match p.cursor with
      | none => p
      | some 0 => { p with cursor := none }.setBuffer ""
      | some (i + 1) => p.load h i := by
  match hc : p.cursor with
  | none => simp only [recallNewer, recallNewerM, hc, Id.run_pure]
  | some 0 => simp only [recallNewer, recallNewerM, hc, Id.run_pure]
  | some (i + 1) =>
    rw [recallNewer, recallNewerM, hc]
    rfl

theorem press_arrowUp (p : Prompt) (h : History) :
    p.press h .arrowUp = (p.recallOlder h, none) := rfl

theorem press_arrowDown (p : Prompt) (h : History) :
    p.press h .arrowDown = (p.recallNewer h, none) := rfl

theorem press_arrowLeft (p : Prompt) (h : History) :
    p.press h .arrowLeft = ({ p with pane := p.pane.turn (-1) }, none) := rfl

theorem press_arrowRight (p : Prompt) (h : History) :
    p.press h .arrowRight = ({ p with pane := p.pane.turn 1 }, none) := rfl

@[simp] theorem buffer_setBuffer (p : Prompt) (text : String) :
    (p.setBuffer text).buffer = text := rfl

@[simp] theorem cursor_setBuffer (p : Prompt) (text : String) :
    (p.setBuffer text).cursor = p.cursor := rfl

@[simp] theorem candidates_setBuffer (p : Prompt) (text : String) :
    (p.setBuffer text).pane.candidates = suggest text := rfl

end Prompt

end PortfolioTerminal
