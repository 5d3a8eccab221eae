/-
# Showing outputs

The kind of an output chooses its colour and the payload its layout.  In a list, an item that ends
with a slash is shown as a directory.
-/
import PortfolioTerminal.Output
import PortfolioTerminal.View.Markup

namespace PortfolioTerminal.View

/-- The class for a kind of output. -/
def kindClass : OutputKind → String
  | .success => "textGreen"
  | .error => "textRed"
  | .info => "textYellow"
  | .special => "textGlow"
  | .system => "textFg"

/-- The class of the directories in a list. -/
def directoryClass : String := "textCyan fontBold"

/-- The class of an item in a list. -/
def itemClass (item : String) : String :=
  if item.toList.getLast? = some '/' then directoryClass else "textFg"

/-- An item of a list. -/
def listItem (item : String) : Markup := .saying "span" (itemClass item) item

/-- A row of a key and a value. -/
def tableRow (cls : String) (row : String × String) : Markup :=
  .classed "div" "row" [.saying "span" ("key " ++ cls) row.1, .saying "span" "textFg" row.2]

/-- A row of a label and its link. -/
def linkRow (cls : String) (link : Link) : Markup :=
  .classed "div" "row" [
    .saying "span" ("key " ++ cls) link.label,
    .element "a"
      [("class", "link"), ("href", link.url), ("target", "_blank"), ("rel", "noopener")]
      [.say link.url]
  ]

/-- An output as the terminal shows it. -/
def output (o : Output) : Markup :=
  let cls := kindClass o.kind
  match o.payload with
  | .text content => .saying "div" ("line " ++ cls) content
  | .ascii art => .saying "pre" ("ascii " ++ cls ++ " glow") art
  | .list items => .classed "div" ("list " ++ cls) (items.map listItem)
  | .table rows => .classed "div" "table" (rows.map (tableRow cls))
  | .links links => .classed "div" "table" (links.map (linkRow cls))

end PortfolioTerminal.View
