/-
# Outputs

A command answers with one output: a kind, which decides its style, and a payload, which decides
its shape.  A recorded output also carries the identity under which it is listed.
-/

namespace PortfolioTerminal

/-! ## Kinds and payloads -/

/-- The category of an output. -/
inductive OutputKind
  /-- A command that moved to a section or opened the editor. -/
  | success
  /-- A command that failed. -/
  | error
  /-- A listing of information. -/
  | info
  /-- A decoration. -/
  | special
  /-- Output of the file tree and of plain shell commands. -/
  | system
  deriving DecidableEq, Repr

/-- A hyperlink with its label. -/
structure Link where
  label : String
  url : String
  deriving DecidableEq, Repr

/-- The body of an output. -/
inductive Payload
  /-- Plain text, which may span lines. -/
  | text (content : String)
  /-- Rows of a key and a value. -/
  | table (rows : List (String × String))
  /-- One item a row. -/
  | list (items : List String)
  /-- Preformatted art. -/
  | ascii (art : String)
  /-- Hyperlinks. -/
  | links (items : List Link)
  deriving DecidableEq, Repr

/-- The payload as text, one row a line. -/
def Payload.plainText : Payload → String
  | .text content => content
  | .ascii art => art
  | .table rows => "\n".intercalate (rows.map fun row => row.1 ++ ": " ++ row.2)
  | .list items => "\n".intercalate items
  | .links items => "\n".intercalate (items.map fun link => link.label ++ ": " ++ link.url)

/-! ## Outputs -/

/-- What a command answers. -/
structure Output where
  kind : OutputKind
  payload : Payload
  deriving DecidableEq, Repr

namespace Output

/-- A plain text of the given kind. -/
def text (kind : OutputKind) (content : String) : Output := ⟨kind, .text content⟩

end Output

/-- An output together with its identity in the history. -/
structure RecordedOutput where
  id : Nat
  output : Output
  deriving DecidableEq, Repr

/-- Whether two recorded outputs show the same; their identities do not count. -/
def RecordedOutput.sameContent (a b : RecordedOutput) : Bool := a.output == b.output

end PortfolioTerminal
