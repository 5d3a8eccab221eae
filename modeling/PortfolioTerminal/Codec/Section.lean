/-
# Sections in JSON

A section is written as its name, in lower case.
-/
import PortfolioTerminal.Json.Record
import PortfolioTerminal.Section

namespace PortfolioTerminal.Section

/-- The section of exactly that name. -/
def ofExactName? (name : String) : Option Section := all.find? fun s => s.name == name

/-- The JSON value of a section. -/
def toJson (s : Section) : Json := .ofText s.name

/-- The section that a JSON value stands for. -/
def ofJson? : Json → Option Section := Json.variant? ofExactName? Json.isNull

/-- The section that a buffered JSON value stands for. -/
def ofBuffered? : Json → Option Section := Json.variant? ofExactName? Json.isUnit

end PortfolioTerminal.Section
