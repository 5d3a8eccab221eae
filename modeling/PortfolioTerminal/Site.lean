/-
# Sites

What happens at a site: time passes, and the user acts.  Nothing fires by itself; `advance` fires
every timer that falls due.
-/
import PortfolioTerminal.Site.Progress
import PortfolioTerminal.Visit

namespace PortfolioTerminal

namespace Site

/-! ## Passing time -/

/-- Fires every timer due up to and including `deadline`, and then moves the clock there. -/
def advanceTo (s : Site) (deadline : Nat) : Site × List Notice :=
  match _h : s.timeline with
  | [] => ({ s with now := deadline }, [])
  | t :: later =>
    if t.due ≤ deadline then
      let fired := s.fire t later
      let rest := fired.1.advanceTo deadline
      (rest.1, fired.2 ++ rest.2)
    else ({ s with now := deadline }, [])
termination_by (s.completionsAhead, s.timersAhead)
decreasing_by exact ahead_fire (by assumption)

/-- Lets time pass. -/
def advance (s : Site) (milliseconds : Nat) : Site × List Notice :=
  s.advanceTo (s.now + milliseconds)

end Site

/-! ## Actions -/

/-- What the user, or a button that the user presses, asks of a site. -/
inductive SiteAction
  | key (k : Key)
  | setInput (text : String)
  | openFile (file : String)
  | toggleTheme
  | toggleShellView
  | loadEditor
  | run (line : String)
  | closeEditor
  | saveAndExit
  | toggleCompact
  deriving DecidableEq, Repr

/-- A site after an action, what the action answered, and the notices it gave. -/
structure SiteReply where
  site : Site
  answer : Answer
  notices : List Notice

namespace Site

/-- The other of the two themes of the toolbar. -/
def otherTheme (theme : String) : String :=
  if theme = lightTheme then defaultTheme else lightTheme

/-- The site after an action that only concerns the shell. -/
def directly {α : Type} (s : Site) (reply : Reply α) (answer : α → Answer) : SiteReply :=
  ⟨{ s with shell := reply.shell }, answer reply.answer, reply.notices⟩

/-- The site after an action. -/
def perform (s : Site) : SiteAction → SiteReply
  | .key k =>
    let r := s.shell.key k
    let s := { s with shell := r.shell }
    ⟨r.answer.elim s s.await, .nothing, r.notices⟩
  | .setInput text => ⟨{ s with shell := s.shell.setInput text }, .nothing, []⟩
  | .openFile file =>
    let r := s.shell.openFile file
    let s := { s with shell := r.shell }
    match r.answer with
    | .ok _ => ⟨s.loadEditor, .nothing, r.notices⟩
    | .error f => ⟨s, .nothing, r.notices ++ [.openFailed f]⟩
  | .toggleTheme =>
    ⟨{ s with shell := s.shell.setTheme (otherTheme s.shell.session.theme) }, .nothing, []⟩
  | .toggleShellView =>
    let r := s.shell.toggleShellView
    let s := { s with shell := r.shell }
    ⟨if r.answer then s.loadEditor else s, .nothing, r.notices⟩
  | .loadEditor => ⟨s.loadEditor, .nothing, []⟩
  | .run line => s.directly (s.shell.run line s.clock) .ran
  | .closeEditor => s.directly s.shell.closeEditor .flag
  | .saveAndExit => s.directly s.shell.saveAndExit .flag
  | .toggleCompact => s.directly s.shell.toggleCompact .flag

end Site

end PortfolioTerminal
