/-
# Markup

What a component shows: a list of nodes, each a text or an element with attributes and children.
-/

namespace PortfolioTerminal

/-- A node of a page. -/
inductive Markup
  | text (content : String)
  | element (tag : String) (attributes : List (String × String)) (children : List Markup)
  deriving Repr

namespace Markup

/-- A text node; a text that is empty shows as a space. -/
def say (content : String) : Markup := .text (if content = "" then " " else content)

/-- An element with a class. -/
def classed (tag cls : String) (children : List Markup) : Markup :=
  .element tag [("class", cls)] children

/-- An element with a class that holds one text. -/
def saying (tag cls content : String) : Markup := classed tag cls [say content]

/-- An element without attributes that holds one text. -/
def plain (tag content : String) : Markup := .element tag [] [say content]

end Markup

end PortfolioTerminal
