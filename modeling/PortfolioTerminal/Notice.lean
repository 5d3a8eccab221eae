/-
# Notices

What the program reports about itself while it runs.  A notice has a level, names the part of the
program that it comes from, and has a text; the console shows all three on one line.
-/
import PortfolioTerminal.Section

namespace PortfolioTerminal

/-- How serious a notice is. -/
inductive NoticeLevel
  | info
  | warning
  | error
  deriving DecidableEq, Repr

/-- The level as it is written on a console line. -/
def NoticeLevel.label : NoticeLevel → String
  | info => "INFO"
  | warning => "WARN"
  | error => "ERROR"

/-- A report on something that happened. -/
inductive Notice
  | editorOpened (on : Section)
  | editorClosed
  | shellVisible (visible : Bool)
  | tourStarted
  | tourRestarted
  | tourFinished
  /-- A line was rejected because another one was being processed. -/
  | rejectedBusy (line : String)
  /-- A line that the prompt had already given up was rejected. -/
  | submissionRejected (reason : Failure)
  /-- A click on a file could not open it. -/
  | openFailed (reason : Failure)
  /-- A component was shown without the state that it shows. -/
  | contextMissing
  deriving DecidableEq, Repr

namespace Notice

/-- The level of a notice. -/
def level : Notice → NoticeLevel
  | rejectedBusy _ | submissionRejected _ | openFailed _ => .warning
  | contextMissing => .error
  | _ => .info

/-- The part of the program that gives the notice. -/
def origin : Notice → String
  | editorOpened _ | editorClosed | shellVisible _ => "termfolio_core::mode"
  | tourStarted | tourRestarted | tourFinished | rejectedBusy _ | submissionRejected _ =>
    "termfolio_core::shell"
  | openFailed _ => "termfolio::app"
  | contextMissing => "termfolio::components::terminal::screen"

/-- The text of a notice. -/
def text : Notice → String
  | editorOpened on => "editor opened on " ++ on.fileName
  | editorClosed => "editor closed"
  | shellVisible visible => "shell visible: " ++ toString visible
  | tourStarted => "tour started"
  | tourRestarted => "tour restarted"
  | tourFinished => "tour finished"
  | rejectedBusy line => "rejected '" ++ line ++ "': " ++ Failure.busy.message
  | submissionRejected reason => "submission rejected: " ++ reason.message
  | openFailed reason => reason.message
  | contextMissing => "AppContext must be provided at root"

/-- The line that the console shows. -/
def consoleLine (n : Notice) : String :=
  "[" ++ n.level.label ++ "] " ++ n.origin ++ ": " ++ n.text

end Notice

end PortfolioTerminal
