/-
# Showing sections

The editor over the terminal, and the direct view that takes the terminal's place.  Both mark the
active section among all of them.
-/
import PortfolioTerminal.Shell
import PortfolioTerminal.View.Markup

namespace PortfolioTerminal.View

/-- What a component shows in a shell; without a shell to look at it shows nothing. -/
def inContext (context : Option Shell) (body : Shell → List Markup) : List Markup :=
  context.elim [] body

/-- The summary of a section in the manual. -/
def summary (s : Section) : String := (Manual.page (.goTo s)).summary

/-- The class of a tab. -/
def tabClass (isActive : Bool) : String := if isActive then "tab tabActive" else "tab"

/-- A tab for each section, with the active one marked. -/
def tabs (label : Section → String) (active : Section) : List Markup :=
  Section.all.map fun s => .saying "button" (tabClass (active == s)) (label s)

/-! ## The editor -/

/-- What the editor shows below its tabs. -/
def editorBody : Mode → List Markup
  | .terminalOnly => []
  | .editorOverlay _ fileName true => [.saying "div" "loading" ("Loading " ++ fileName ++ "...")]
  | .editorOverlay on fileName false =>
    [.classed "div" "content" [.saying "div" "fileName" fileName, .plain "div" (summary on)]]

/-- The bar with the files of all sections and the two ways out. -/
def editorHeader (active : Section) : Markup :=
  .classed "div" "header" [
    .classed "div" "tabs" (tabs Section.fileName active),
    .classed "div" "actions"
      [.saying "button" "save" "Save & Exit", .saying "button" "close" "x"]
  ]

/-- The editor. -/
def editorOverlay (context : Option Shell) : List Markup :=
  inContext context fun s =>
    [.classed "div" "overlay" (editorHeader s.session.active :: editorBody s.session.mode)]

/-! ## The direct view -/

/-- The active section, shown directly. -/
def sectionView (context : Option Shell) : List Markup :=
  inContext context fun s =>
    [.classed "div" "sectionView" [
      .classed "nav" "nav" (tabs Section.name s.session.active),
      .saying "h1" "title" s.session.active.name,
      .plain "p" (summary s.session.active)
    ]]

end PortfolioTerminal.View
