/-
# Records and variants in JSON

How a structure and an enumeration are read from a JSON value.  A structure is an object, in which
known fields occur once and unknown ones are skipped, or an array of its fields in order.  An
enumeration is the name of a variant, or an object whose only field is that name.
-/
import PortfolioTerminal.Json.Value

namespace PortfolioTerminal.Json

/-! ## Plain values -/

/-- The text that a string spells. -/
def text? : Json → Option String
  | .string s => s
  | _ => none

/-- The truth value. -/
def bool? : Json → Option Bool
  | .bool b => some b
  | _ => none

/-- A natural number below the bound, written without sign, point and exponent. -/
def natBelow? (bound : Nat) : Json → Option Nat
  | .number (.natural n) => if n < bound then some n else none
  | _ => none

/-- A 64-bit word. -/
def uint64? (j : Json) : Option UInt64 := (j.natBelow? UInt64.size).map UInt64.ofNat

/-- A 32-bit word. -/
def uint32? (j : Json) : Option UInt32 := (j.natBelow? UInt32.size).map UInt32.ofNat

/-- Nothing, or what `read` makes of the value. -/
def optional? {α : Type} (read : Json → Option α) : Json → Option (Option α)
  | .null => some none
  | j => (read j).map some

/-- The items of an array, each read. -/
def list? {α : Type} (read : Json → Option α) : Json → Option (List α)
  | .array items => items.mapM read
  | _ => none

/-- Two texts in an array. -/
def textPair? : Json → Option (String × String)
  | .array [a, b] => do return (← a.text?, ← b.text?)
  | _ => none

/-! ## Records -/

/-- The known fields of a record that were given. -/
abbrev Record := List (String × Json)

/-- The fields of an object whose names spell texts. -/
def named? (fields : List (JsonText × Json)) : Option Record :=
  fields.mapM fun (name, value) => name.map fun name => (name, value)

/-- Whether no name is given twice. -/
def Record.isUnambiguous (r : Record) : Bool := decide (r.map Prod.fst).Nodup

/-- The known fields among all fields of an object, unless one of them is given twice. -/
def Record.known? (names : List String) (fields : Record) : Option Record :=
  let known : Record := fields.filter fun field => names.contains field.1
  if known.isUnambiguous then some known else none

/-- The record with those fields that a value gives. -/
def record? (names : List String) : Json → Option Record
  | .object fields => (named? fields).bind (Record.known? names)
  | .array items => if items.length ≤ names.length then some (names.zip items) else none
  | _ => none

/-- A field that must be given. -/
def Record.field? {α : Type} (r : Record) (name : String) (read : Json → Option α) : Option α :=
  (r.lookup name).bind read

/-- A field that need not be given. -/
def Record.fieldOr? {α : Type} (r : Record) (name : String) (default : α)
    (read : Json → Option α) : Option α :=
  (r.lookup name).elim (some default) read

/-! ## Variants -/

/-- Whether the value is null. -/
def isNull : Json → Bool
  | .null => true
  | _ => false

/-- Whether a buffered value stands for nothing: null, or an object without fields. -/
def isUnit : Json → Bool
  | .null | .object [] => true
  | _ => false

/-- The variant that a value names; `nothing` says what may stand beside the name in an object. -/
def variant? {α : Type} (ofName? : String → Option α) (nothing : Json → Bool) : Json → Option α
  | .string (some name) => ofName? name
  | .object [(some name, content)] => if nothing content then ofName? name else none
  | _ => none

end PortfolioTerminal.Json
