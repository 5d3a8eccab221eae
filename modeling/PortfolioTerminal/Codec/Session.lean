/-
# Sessions in JSON

A mode is an object with a tag, which may come anywhere in it; the other fields are buffered until
the tag is known.  A mode may also be an array that begins with the tag.
-/
import PortfolioTerminal.Codec.Output
import PortfolioTerminal.Codec.Section
import PortfolioTerminal.Session

namespace PortfolioTerminal

/-! ## Modes -/

namespace Mode

/-- The JSON value of a mode. -/
def toJson : Mode → Json
  | terminalOnly => .ofFields [("mode", .ofText "terminal_only")]
  | editorOverlay on fileName loading =>
    .ofFields [
      ("mode", .ofText "editor_overlay"), ("section", on.toJson), ("file_name", .ofText fileName),
      ("loading", .bool loading)
    ]

/-- The overlay that a buffered value describes. -/
def overlayOf? (content : Json) : Option Mode := do
  let r ← content.record? ["section", "file_name", "loading"]
  let on ← r.field? "section" Section.ofBuffered?
  let fileName ← r.field? "file_name" Json.text?
  let loading ← r.field? "loading" Json.bool?
  return .editorOverlay on fileName loading

/-- Whether buffered content may stand beside the tag of the terminal alone: any fields, but no
items. -/
def isIgnorable : Json → Bool
  | .object _ | .array [] => true
  | _ => false

/-- The mode with that tag and that buffered content. -/
def ofTagged? (tag : String) (content : Json) : Option Mode :=
  if tag = "terminal_only" then if isIgnorable content then some .terminalOnly else none
  else if tag = "editor_overlay" then overlayOf? content
  else none

/-- Whether a field is the tag of a mode. -/
def isTag (field : String × Json) : Bool := field.1 == "mode"

/-- The mode that a JSON value stands for, with `enclosing` containers open around its fields. -/
def ofJson? (enclosing : Nat) : Json → Option Mode
  | .object fields => do
    let fields ← Json.named? fields
    let content := Json.ofFields (fields.filter fun field => !isTag field)
    match fields.filter isTag with
    | [(_, .string (some tag))] =>
      if content.isBufferable (Json.depthLimit - enclosing + 1) then ofTagged? tag content
      else none
    | _ => none
  | .array (.string (some tag) :: items) =>
    if (Json.array items).isBufferable (Json.depthLimit - enclosing + 1) then
      ofTagged? tag (.array items)
    else none
  | _ => none

end Mode

/-! ## Sessions -/

namespace Session

/-- The names of the fields of a session, in order. -/
def fieldNames : List String :=
  ["cwd", "section", "mode", "shell_visible", "theme", "processing"]

/-- The JSON value of a session. -/
def toJson (s : Session) : Json :=
  .ofFields [
    ("cwd", .ofText s.cwd), ("section", s.active.toJson), ("mode", s.mode.toJson),
    ("shell_visible", .bool s.shellVisible), ("theme", .ofText s.theme),
    ("processing", .bool s.processing)
  ]

/-- The session that a JSON value stands for. -/
def ofJson? (j : Json) : Option Session := do
  let r ← j.record? fieldNames
  let cwd ← r.field? "cwd" Json.text?
  let active ← r.field? "section" Section.ofJson?
  let mode ← r.field? "mode" (Mode.ofJson? 2)
  let shellVisible ← r.field? "shell_visible" Json.bool?
  let theme ← r.field? "theme" Json.text?
  let processing ← r.field? "processing" Json.bool?
  return { cwd, active, mode, shellVisible, theme, processing }

end Session

end PortfolioTerminal
