/-
# Outputs in JSON

A payload is an object of its type and its data, or an array of the two.  Where the data come first
they are buffered until the type is known.
-/
import PortfolioTerminal.Json.Record
import PortfolioTerminal.Output

namespace PortfolioTerminal

/-- How deep the containers of a text may lie in each other where a value is not skipped. -/
def Json.depthLimit : Nat := 127

/-! ## Kinds and links -/

namespace OutputKind

/-- Every kind of output. -/
def all : List OutputKind := [success, error, info, special, system]

/-- The name of a kind. -/
def name : OutputKind → String
  | success => "success"
  | error => "error"
  | info => "info"
  | special => "special"
  | system => "system"

/-- The kind of exactly that name. -/
def ofName? (name : String) : Option OutputKind := all.find? fun k => k.name == name

/-- The JSON value of a kind. -/
def toJson (k : OutputKind) : Json := .ofText k.name

/-- The kind that a JSON value stands for. -/
def ofJson? : Json → Option OutputKind := Json.variant? ofName? Json.isNull

end OutputKind

namespace Link

/-- The JSON value of a link. -/
def toJson (l : Link) : Json := .ofFields [("label", .ofText l.label), ("url", .ofText l.url)]

/-- The link that a JSON value stands for. -/
def ofJson? (j : Json) : Option Link := do
  let r ← j.record? ["label", "url"]
  return ⟨← r.field? "label" Json.text?, ← r.field? "url" Json.text?⟩

end Link

/-! ## Payloads -/

/-- The shape of a payload. -/
inductive PayloadType
  | text
  | table
  | list
  | ascii
  | links
  deriving DecidableEq, Repr

namespace PayloadType

/-- Every shape of a payload. -/
def all : List PayloadType := [text, table, list, ascii, links]

/-- The name of a shape. -/
def name : PayloadType → String
  | text => "text"
  | table => "table"
  | list => "list"
  | ascii => "ascii"
  | links => "links"

/-- The shape of exactly that name. -/
def ofName? (name : String) : Option PayloadType := all.find? fun t => t.name == name

/-- The shape that a JSON value stands for. -/
def ofJson? : Json → Option PayloadType := Json.variant? ofName? Json.isNull

/-- The payload of that shape with the given data. -/
def readData? (data : Json) : PayloadType → Option Payload
  | text => data.text?.map .text
  | table => (data.list? Json.textPair?).map .table
  | list => (data.list? Json.text?).map .list
  | ascii => data.text?.map .ascii
  | links => (data.list? Link.ofJson?).map .links

end PayloadType

namespace Payload

/-- The shape of a payload. -/
def type : Payload → PayloadType
  | text _ => .text
  | table _ => .table
  | list _ => .list
  | ascii _ => .ascii
  | links _ => .links

/-- The data of a payload. -/
def data : Payload → Json
  | text content => .ofText content
  | table rows => .array (rows.map fun row => .array [.ofText row.1, .ofText row.2])
  | list items => .array (items.map .ofText)
  | ascii art => .ofText art
  | links items => .array (items.map Link.toJson)

/-- The JSON value of a payload. -/
def toJson (p : Payload) : Json := .ofFields [("type", .ofText p.type.name), ("data", p.data)]

/-- The payload of a type and its data. -/
def ofParts? (type data : Json) : Option Payload :=
  (PayloadType.ofJson? type).bind (PayloadType.readData? data)

/-- The payload that a JSON value stands for, with `enclosing` containers open around its data. -/
def ofJson? (enclosing : Nat) : Json → Option Payload
  | .array [type, data] => ofParts? type data
  | .object fields => do
    let fields ← Json.named? fields
    match fields.filter fun field => field.1 == "type" || field.1 == "data" with
    | [("type", type), ("data", data)] => ofParts? type data
    | [("data", data), ("type", type)] =>
      if data.isBufferable (Json.depthLimit - enclosing) then ofParts? type data else none
    | _ => none
  | _ => none

end Payload

/-! ## Outputs -/

namespace Output

/-- The JSON value of an output. -/
def toJson (o : Output) : Json :=
  .ofFields [("kind", o.kind.toJson), ("payload", o.payload.toJson)]

/-- The output that a JSON value stands for. -/
def ofJson? (j : Json) : Option Output := do
  let r ← j.record? ["kind", "payload"]
  return ⟨← r.field? "kind" OutputKind.ofJson?, ← r.field? "payload" (Payload.ofJson? 2)⟩

end Output

namespace RecordedOutput

/-- The JSON value of a recorded output. -/
def toJson (e : RecordedOutput) : Json :=
  .ofFields [
    ("id", .ofNat e.id), ("kind", e.output.kind.toJson), ("payload", e.output.payload.toJson)
  ]

/-- The recorded output that a JSON value stands for. -/
def ofJson? (j : Json) : Option RecordedOutput := do
  let r ← j.record? ["id", "kind", "payload"]
  let id ← r.field? "id" (Json.natBelow? UInt64.size)
  let kind ← r.field? "kind" OutputKind.ofJson?
  let payload ← r.field? "payload" (Payload.ofJson? 2)
  return ⟨id, kind, payload⟩

end RecordedOutput

end PortfolioTerminal
