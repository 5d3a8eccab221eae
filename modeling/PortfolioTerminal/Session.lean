/-
# Sessions

The state that commands read and that navigation changes: the working directory, the active section,
and whether the editor lies over the terminal.

Apart from the editor, the terminal itself can be hidden, and then the active section is shown
directly.  Hiding the terminal drops the editor; showing it again opens the editor on the active
section.
-/
import PortfolioTerminal.Notice
import PortfolioTerminal.Path
import PortfolioTerminal.Settings

namespace PortfolioTerminal

/-- What is in front of the user. -/
inductive Mode
  /-- The terminal alone. -/
  | terminalOnly
  /-- The editor over the terminal, on the file of a section, perhaps still loading. -/
  | editorOverlay (on : Section) (fileName : String) (loading : Bool)
  deriving DecidableEq, Repr

/-- Whether the editor is open. -/
def Mode.isOverlay : Mode → Bool
  | terminalOnly => false
  | editorOverlay .. => true

/-- The editor, just opened on a section. -/
def Mode.opening (s : Section) : Mode := .editorOverlay s s.fileName true

/-- The state of a session. -/
structure Session where
  /-- The working directory. -/
  cwd : String := Path.root
  /-- The active section. -/
  active : Section := .home
  mode : Mode := .terminalOnly
  /-- Whether the terminal is shown, and not the active section directly. -/
  shellVisible : Bool := true
  theme : String := defaultTheme
  /-- Whether a submitted command has yet to be completed. -/
  processing : Bool := false
  deriving DecidableEq, Repr

namespace Session

/-- The working directory as the prompt shows it. -/
def displayPath (s : Session) : String := Path.display s.cwd

/-! ## Transitions -/

/-- Opens the editor on a section, which becomes the active one. -/
def openEditor (s : Session) (target : Section) : Session :=
  { s with active := target, mode := .opening target }

/-- Makes a section the active one.  The editor opens on it only while the terminal is shown. -/
def goTo (s : Session) (target : Section) : Session :=
  if s.shellVisible then s.openEditor target else { s with active := target }

/-- Closes the editor. -/
def closeEditor (s : Session) : Session := { s with mode := .terminalOnly }

/-- Ends the loading of what the editor shows. -/
def finishLoading (s : Session) : Session :=
  match s.mode with
  | .terminalOnly => s
  | .editorOverlay on fileName _ => { s with mode := .editorOverlay on fileName false }

/-- Hides the terminal or shows it again. -/
def toggleShellView (s : Session) : Session :=
  if s.shellVisible then { s with shellVisible := false, mode := .terminalOnly }
  else { s with shellVisible := true }.openEditor s.active

/-- The session with another working directory. -/
def changeDirectory (s : Session) (path : String) : Session := { s with cwd := path }

/-- The session with another theme. -/
def setTheme (s : Session) (theme : String) : Session := { s with theme }

/-- The session waiting for a command, or not. -/
def setProcessing (s : Session) (processing : Bool) : Session := { s with processing }

/-! ## Notices of the transitions -/

/-- What making a section the active one reports. -/
def goToNotices (s : Session) (target : Section) : List Notice :=
  if s.shellVisible then [.editorOpened target] else []

/-- What closing the editor reports. -/
def closeNotices (s : Session) : List Notice :=
  if s.mode.isOverlay then [.editorClosed] else []

/-- What hiding or showing the terminal reports. -/
def toggleNotices (s : Session) : List Notice :=
  if s.shellVisible then [.shellVisible false]
  else [.editorOpened s.active, .shellVisible true]

/-! ## Small laws -/

@[simp] theorem active_goTo (s : Session) (target : Section) : (s.goTo target).active = target := by
  unfold goTo; split <;> rfl

@[simp] theorem shellVisible_goTo (s : Session) (target : Section) :
    (s.goTo target).shellVisible = s.shellVisible := by
  unfold goTo; split <;> rfl

@[simp] theorem cwd_goTo (s : Session) (target : Section) : (s.goTo target).cwd = s.cwd := by
  unfold goTo; split <;> rfl

@[simp] theorem shellVisible_toggleShellView (s : Session) :
    s.toggleShellView.shellVisible = !s.shellVisible := by
  unfold toggleShellView; cases h : s.shellVisible <;> simp [openEditor]

@[simp] theorem active_toggleShellView (s : Session) : s.toggleShellView.active = s.active := by
  unfold toggleShellView; split <;> rfl

@[simp] theorem active_finishLoading (s : Session) : s.finishLoading.active = s.active := by
  unfold finishLoading; split <;> rfl

end Session

end PortfolioTerminal
