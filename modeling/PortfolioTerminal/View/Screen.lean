/-
# Showing the screen

The toolbar, and below it the terminal with the editor over it, or the active section.
-/
import PortfolioTerminal.View.Terminal

namespace PortfolioTerminal.View

/-- The buttons at the top. -/
def toolbar (s : Session) : Markup :=
  .classed "div" "toolbar" [
    .saying "button" "toggle" (if s.shellVisible then "Direct view" else "Shell view"),
    .saying "button" "toggle" ("Theme: " ++ s.theme)
  ]

/-- What is below the toolbar. -/
def mainArea (s : Shell) : List Markup :=
  if s.session.shellVisible then
    terminal (some s) ++ if s.session.mode.isOverlay then editorOverlay (some s) else []
  else sectionView (some s)

/-- The whole screen. -/
def screen (context : Option Shell) : List Markup :=
  inContext context fun s =>
    [.element "div" [("class", "screen"), ("data-theme", s.session.theme)]
      [toolbar s.session, .classed "div" "main" (mainArea s)]]

/-- What showing the screen reports: that there is no shell to look at, if there is none. -/
def screenNotices (context : Option Shell) : List Notice :=
  if context.isNone then [.contextMissing] else []

end PortfolioTerminal.View
