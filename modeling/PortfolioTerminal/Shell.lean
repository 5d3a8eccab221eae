/-
# The shell

The shell holds the session, the history, the file tree, the prompt, the settings, the source of
random choices and the tour.  A command runs in two steps, so that a delay can lie between them:

* `submit` reads the line, marks the session as processing and chooses the delay;
* `complete` evaluates the command, applies its effect, records the line with its output and marks
  the session as idle.

Every operation that answers something returns a `Reply`: the shell afterwards, the answer, and the
notices in the order in which they were given.

An operation that may fault has a name that ends in `M`, and without the `M` it is the same
operation where nothing is checked.
-/
import PortfolioTerminal.Evaluation
import PortfolioTerminal.FileTree.Portfolio
import PortfolioTerminal.Prompt

namespace PortfolioTerminal

/-! ## The state -/

/-- A submitted command that waits for its delay to pass. -/
structure Pending where
  /-- The line as it was submitted. -/
  raw : String
  command : Command
  /-- The delay in milliseconds. -/
  delay : Nat
  deriving DecidableEq, Repr

/-- What completing a command gives. -/
structure Completed where
  /-- The recorded output; only clearing records nothing. -/
  entry : Option RecordedOutput
  /-- The effect that was applied. -/
  effect : Option Effect
  deriving DecidableEq, Repr

/-- The state of a shell. -/
structure Shell where
  session : Session
  history : History
  tree : FileTree
  prompt : Prompt
  settings : Settings
  generator : Generator
  /-- The section that a running tour visits next. -/
  tour : Option Section

/-- What an operation of the shell returns. -/
structure Reply (α : Type) where
  shell : Shell
  answer : α
  notices : List Notice

namespace Shell

variable {m : Type → Type} [Monad m] [Checks m]

/-- A fresh shell.  The root of its tree must be a directory. -/
def startM (settings : Settings) (chance : Chance) : m Shell := do
  let tree := FileTree.portfolio
  Checks.require tree.root.isDirectory .assertion
  pure {
    session := { theme := settings.theme }
    history := .empty
    tree
    prompt := {}
    settings
    generator := chance.generator settings.seed
    tour := none }

/-- The text of the prompt, such as `guest@portfolio:~/projects$`. -/
def promptText (s : Shell) : String :=
  Content.userName ++ "@" ++ Content.hostName ++ ":" ++ s.session.displayPath ++ "$"

/-- What the command being completed may read. -/
def surroundings (s : Shell) (now : CivilTime) : Surroundings := ⟨s.tree, s.history, now⟩

/-! ## Running commands -/

/-- A delay between the bounds of the settings. -/
def chooseDelayM (s : Shell) : m (Nat × Generator) :=
  s.generator.draw s.settings.delayBounds.1.toNat s.settings.delayBounds.2.toNat

/-- Accepts a line.  A line is rejected while another one is being processed, and if it is blank. -/
def submitM (s : Shell) (raw : String) : m (Reply (Except Failure Pending)) :=
  if s.session.processing then pure ⟨s, .error .busy, [.rejectedBusy raw]⟩
  else if Text.isAllBlank raw then pure ⟨s, .error .emptyInput, []⟩
  else do
    let (delay, generator) ← s.chooseDelayM
    pure ⟨{ s with session := s.session.setProcessing true, generator },
      .ok ⟨raw, Command.parse raw, delay⟩, []⟩

/-- Applies the effect of a command. -/
def applyM (s : Shell) : Effect → m Shell
  | .clearHistory => pure { s with history := s.history.clear }
  | .changeDirectory path => pure { s with session := s.session.changeDirectory path }
  | .goTo target => pure { s with session := s.session.goTo target }
  | .openEditor target => pure { s with session := s.session.openEditor target }
  | .startTour => do
    let first ← Fault.item Section.all 0 .home
    pure { s with tour := some first }

/-- What applying an effect reports. -/
def applyNotices (s : Shell) : Effect → List Notice
  | .clearHistory | .changeDirectory _ => []
  | .goTo target => s.session.goToNotices target
  | .openEditor target => [.editorOpened target]
  | .startTour => if s.tour.isSome then [.tourRestarted] else [.tourStarted]

/-- Records a completed line, if it has an output. -/
def recordM (s : Shell) (raw : String) : Option Output → m (Shell × Option RecordedOutput)
  | none => pure (s, none)
  | some output => do
    let (history, entry) ← s.history.recordM raw output
    pure ({ s with history }, some entry)

/-- The shell with no command being processed. -/
def idle (s : Shell) : Shell := { s with session := s.session.setProcessing false }

/-- Evaluates a pending command, applies its effect, and then records it. -/
def completeM (s : Shell) (p : Pending) (now : CivilTime) : m (Reply Completed) := do
  let (outcome, generator) ← p.command.evaluateM s.session (s.surroundings now) s.generator
  let drawn := { s with generator }
  let changed ← outcome.effect.elim (pure drawn) drawn.applyM
  let (recorded, entry) ← changed.recordM p.raw outcome.output
  pure ⟨recorded.idle, ⟨entry, outcome.effect⟩, outcome.effect.elim [] s.applyNotices⟩

/-- Gives up a pending command; nothing is recorded. -/
def cancel (s : Shell) (_ : Pending) : Shell := s.idle

/-- Submits a line and completes it at once. -/
def runM (s : Shell) (raw : String) (now : CivilTime) : m (Reply (Except Failure Completed)) := do
  let submitted ← s.submitM raw
  match submitted.answer with
  | .error f => pure ⟨submitted.shell, .error f, submitted.notices⟩
  | .ok pending =>
    let done ← submitted.shell.completeM pending now
    pure ⟨done.shell, .ok done.answer, submitted.notices ++ done.notices⟩

/-! ## The editor and the view -/

/-- Opens the editor on a file that was clicked. -/
def openFile (s : Shell) (file : String) : Reply (Except Failure Section) :=
  match Section.ofFileName? file with
  | none => ⟨s, .error (.unknownFile "open" file), []⟩
  | some target =>
    ⟨{ s with session := s.session.openEditor target }, .ok target, [.editorOpened target]⟩

/-- Closes the editor, and tells whether it was open. -/
def closeEditor (s : Shell) : Reply Bool :=
  ⟨{ s with session := s.session.closeEditor }, s.session.mode.isOverlay,
    s.session.closeNotices⟩

/-- Leaves the editor through its save button, which closes it. -/
def saveAndExit (s : Shell) : Reply Bool := s.closeEditor

/-- Ends the loading of what the editor shows. -/
def finishLoading (s : Shell) : Shell := { s with session := s.session.finishLoading }

/-- Hides the terminal or shows it again, and tells whether it is shown now. -/
def toggleShellView (s : Shell) : Reply Bool :=
  ⟨{ s with session := s.session.toggleShellView }, s.session.toggleShellView.shellVisible,
    s.session.toggleNotices⟩

/-- The shell with another theme. -/
def setTheme (s : Shell) (theme : String) : Shell :=
  { s with session := s.session.setTheme theme }

/-- Switches the compact view of the history over, and tells whether it is on now. -/
def toggleCompact (s : Shell) : Reply Bool :=
  ⟨{ s with history := s.history.toggleCompact }, s.history.toggleCompact.compact, []⟩

/-! ## Input -/

/-- Does what the prompt asks for.  The answer is the command that was submitted, if one was. -/
def actM (s : Shell) : Option PromptAction → m (Reply (Option Pending))
  | none => pure ⟨s, none, []⟩
  | some .closeOverlay => pure ⟨s.closeEditor.shell, none, s.closeEditor.notices⟩
  | some (.submit line) => do
    let submitted ← s.submitM line
    match submitted.answer with
    | .ok pending => pure ⟨submitted.shell, some pending, submitted.notices⟩
    | .error f => pure ⟨submitted.shell, none, submitted.notices ++ [.submissionRejected f]⟩

/-- Hands a key to the prompt; keys are dropped while a command is being processed. -/
def keyM (s : Shell) (k : Key) : m (Reply (Option Pending)) :=
  if s.session.processing then pure ⟨s, none, []⟩
  else do
    let (prompt, action) ← s.prompt.pressM s.history k
    { s with prompt }.actM action

/-- Takes over a changed text of the prompt, unless a command is being processed. -/
def setInput (s : Shell) (text : String) : Shell :=
  if s.session.processing then s else { s with prompt := s.prompt.setBuffer text }

/-! ## The tour -/

/-- Where a tour goes after visiting `here`; it ends after the last section. -/
def tourAfterM (here : Section) : m (Option Section) := do
  let following ← here.nextM
  let first ← Fault.item Section.all 0 .home
  pure (if following = first then none else some following)

/-- Moves a running tour on by one section, which is the answer. -/
def tourTickM (s : Shell) : m (Reply (Option Section)) :=
  match s.tour with
  | none => pure ⟨s, none, []⟩
  | some here => do
    let tour ← tourAfterM here
    pure ⟨{ s with session := s.session.goTo here, tour }, some here,
      s.session.goToNotices here ++ if tour.isNone then [.tourFinished] else []⟩

/-! ## Unchecked -/

/-- A fresh shell. -/
def start (settings : Settings) (chance : Chance) : Shell := Id.run (startM settings chance)

/-- A delay between the bounds of the settings. -/
def chooseDelay (s : Shell) : Nat × Generator := Id.run s.chooseDelayM

/-- Accepts a line. -/
def submit (s : Shell) (raw : String) : Reply (Except Failure Pending) := Id.run (s.submitM raw)

/-- Applies the effect of a command. -/
def apply (s : Shell) (e : Effect) : Shell := Id.run (s.applyM e)

/-- Records a completed line, if it has an output. -/
def record (s : Shell) (raw : String) (output : Option Output) : Shell × Option RecordedOutput :=
  Id.run (s.recordM raw output)

/-- Evaluates a pending command, applies its effect, and then records it. -/
def complete (s : Shell) (p : Pending) (now : CivilTime) : Reply Completed :=
  Id.run (s.completeM p now)

/-- Submits a line and completes it at once. -/
def run (s : Shell) (raw : String) (now : CivilTime) : Reply (Except Failure Completed) :=
  Id.run (s.runM raw now)

/-- Hands a key to the prompt. -/
def key (s : Shell) (k : Key) : Reply (Option Pending) := Id.run (s.keyM k)

/-- Where a tour goes after visiting `here`. -/
def tourAfter (here : Section) : Option Section := Id.run (tourAfterM here)

/-- Moves a running tour on by one section. -/
def tourTick (s : Shell) : Reply (Option Section) := Id.run s.tourTickM

/-! ## Small laws -/

theorem tourTick_of_none {s : Shell} (h : s.tour = none) : s.tourTick = ⟨s, none, []⟩ := by
  rw [tourTick, tourTickM, h]
  rfl

theorem tourTick_of_some {s : Shell} {here : Section} (h : s.tour = some here) :
    s.tourTick = ⟨{ s with session := s.session.goTo here, tour := tourAfter here }, some here,
      s.session.goToNotices here ++ if (tourAfter here).isNone then [.tourFinished] else []⟩ := by
  rw [tourTick, tourTickM, h]
  rfl

end Shell

end PortfolioTerminal
