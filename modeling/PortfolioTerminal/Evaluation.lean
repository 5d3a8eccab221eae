/-
# Evaluation

What a command answers, and what it asks to be changed.  Evaluation changes nothing by itself and
never fails: a failure becomes the output of the command.  It draws at most a joke, which may fault;
a name without `M` is for evaluation where nothing is checked.
-/
import PortfolioTerminal.CivilTime
import PortfolioTerminal.Command
import PortfolioTerminal.Content
import PortfolioTerminal.FileTree
import PortfolioTerminal.Generator
import PortfolioTerminal.History
import PortfolioTerminal.Manual
import PortfolioTerminal.Session

namespace PortfolioTerminal

/-! ## Outcomes -/

/-- A change that a command asks for. -/
inductive Effect
  | clearHistory
  | changeDirectory (path : String)
  | goTo (target : Section)
  | openEditor (target : Section)
  | startTour
  deriving DecidableEq, Repr

/-- What evaluating a command gives. -/
structure Outcome where
  output : Option Output := none
  effect : Option Effect := none
  deriving DecidableEq, Repr

namespace Outcome

/-- An output and nothing to change. -/
def shows (output : Output) : Outcome := ⟨output, none⟩

/-- An output and a change. -/
def does (output : Output) (effect : Effect) : Outcome := ⟨output, effect⟩

/-- A failure as the output of the command. -/
def ofFailure (f : Failure) : Outcome := shows (.text .error f.message)

/-- The outcome of something that may fail. -/
def ofExcept : Except Failure Outcome → Outcome
  | .ok outcome => outcome
  | .error f => ofFailure f

end Outcome

/-- What a command may read besides the session. -/
structure Surroundings where
  tree : FileTree
  history : History
  now : CivilTime

/-! ## Groups of commands -/

/-- Going to a section. -/
def Section.outcome (target : Section) (s : Session) : Outcome :=
  .does (.text .success <|
      if s.shellVisible then "Opening " ++ target.fileName ++ "..."
      else "Switched to " ++ target.name)
    (.goTo target)

/-- Opening a file in an editor. -/
def Editor.outcome (editor : Editor) : Option String → Except Failure Outcome
  | none => .error (.missingArgument editor.name "file operand")
  | some file =>
    match Section.ofFileName? file with
    | none => .error (.unknownFile editor.name file)
    | some target =>
      .ok (.does (.text .success ("Opening " ++ target.fileName ++ " in " ++ editor.name ++ "..."))
        (.openEditor target))

/-- Reporting on a topic. -/
def Topic.output (s : Session) (w : Surroundings) : Topic → Output
  | .help => ⟨.info, .table (Manual.pages.map fun p => (p.synopsis, p.summary))⟩
  | .social => ⟨.info, .links Content.socialLinks⟩
  | .whoami => ⟨.info, .ascii Content.profile⟩
  | .date => .text .system w.now.text
  | .history => ⟨.info, .table w.history.numbered⟩
  | .pwd => .text .system s.cwd

/-- Listing a directory. -/
def listOutcome (tree : FileTree) (cwd : String) (path : Option TypedPath) :
    Except Failure Outcome := do
  let rows ← tree.list cwd (path.map (·.text))
  return .shows ⟨.system, .list (rows.map ListingRow.label)⟩

/-- Changing the working directory. -/
def changeOutcome (tree : FileTree) (cwd : String) (path : Option TypedPath) :
    Except Failure Outcome := do
  let target ← tree.changeDirectory cwd (path.map (·.text))
  return .does (.text .system target) (.changeDirectory target)

/-- The hint that a file is for the editor. -/
def sectionFileHint (typed : TypedPath) (owner : Section) : String :=
  toString typed ++ " is a section file. Open it with 'edit " ++ owner.fileName ++
    "' (or nano, vim), or type '" ++ owner.name ++ "'."

/-- Printing a file. -/
def readOutcome (tree : FileTree) (cwd : String) :
    Option TypedPath → Except Failure Outcome
  | none => .error (.missingArgument "cat" "file operand")
  | some typed => do
    match ← tree.read cwd typed.text with
    | .text content => return .shows (.text .system content)
    | .sectionFile owner => return .shows (.text .info (sectionFileHint typed owner))

/-- Showing a page of the manual. -/
def manualOutcome : Option String → Except Failure Outcome
  | none => .error (.missingArgument "man" "command name")
  | some name =>
    match Manual.lookup? name with
    | none => .error (.noManualEntry name)
    | some p =>
      .ok (.shows ⟨.info, .table [
        ("NAME", p.name ++ " - " ++ p.summary),
        ("SYNOPSIS", p.synopsis),
        ("DESCRIPTION", p.description)
      ]⟩)

variable {m : Type → Type} [Monad m] [Checks m]

/-- A joke, drawn from all of them. -/
def drawJokeM (g : Generator) : m (String × Generator) := do
  let (place, g) ← g.drawBelow Content.jokes.length
  let joke ← Fault.item Content.jokes place ""
  pure (joke, g)

/-- A decoration; only the joke leaves anything to chance. -/
def Decoration.outcomeM (g : Generator) : Decoration → m (Outcome × Generator)
  | .coffee => pure (.shows ⟨.special, .ascii Content.coffee⟩, g)
  | .joke => do
    let (drawn, g) ← drawJokeM g
    pure (.shows (.text .special drawn), g)
  | .launchPortfolio =>
    pure (.does (.text .special <| "Launching portfolio tour: " ++ toString Section.all.length ++
      " sections, sit back.") .startTour, g)
  | .portfolio3d =>
    pure (.shows ⟨.special, .links [⟨"3D portfolio", Content.portfolio3dUrl⟩]⟩, g)
  | .exit => pure (.shows (.text .special "Nice try. There is no exit, only 'help'."), g)

/-! ## All commands -/

/-- Evaluates a command in a session. -/
def Command.evaluateM (s : Session) (w : Surroundings) (g : Generator) :
    Command → m (Outcome × Generator)
  | .clear => pure (⟨none, some .clearHistory⟩, g)
  | .goTo target => pure (target.outcome s, g)
  | .edit editor file => pure (.ofExcept (editor.outcome file), g)
  | .info topic => pure (.shows (topic.output s w), g)
  | .ls path => pure (.ofExcept (listOutcome w.tree s.cwd path), g)
  | .cd path => pure (.ofExcept (changeOutcome w.tree s.cwd path), g)
  | .cat path => pure (.ofExcept (readOutcome w.tree s.cwd path), g)
  | .echo text => pure (.shows (.text .system text), g)
  | .man name => pure (.ofExcept (manualOutcome name), g)
  | .decoration d => d.outcomeM g
  | .unknown verb => pure (.ofFailure (.unknownCommand verb), g)

/-! ## Unchecked -/

/-- A joke, drawn from all of them. -/
def drawJoke (g : Generator) : String × Generator := Id.run (drawJokeM g)

/-- A decoration; only the joke leaves anything to chance. -/
def Decoration.outcome (g : Generator) (d : Decoration) : Outcome × Generator :=
  Id.run (d.outcomeM g)

/-- Evaluates a command in a session. -/
def Command.evaluate (s : Session) (w : Surroundings) (g : Generator) (c : Command) :
    Outcome × Generator :=
  Id.run (c.evaluateM s w g)

end PortfolioTerminal
