/-
# JSON texts

A value is written as the tokens of its parts without blanks between them.  A text is read by a
machine that takes one token at a time and remembers the containers that are still open.
-/
import PortfolioTerminal.Json.Token

namespace PortfolioTerminal.Json

/-! ## Writing -/

mutual

/-- The tokens of a value. -/
def tokens : Json → List Token
  | .null => [.null]
  | .bool b => [.bool b]
  | .number n => [.number n]
  | .string s => [.string s]
  | .array [] => [.openArray, .closeArray]
  | .array (item :: items) =>
    .openArray :: (tokens item ++ (moreItemTokens items ++ [.closeArray]))
  | .object [] => [.openObject, .closeObject]
  | .object ((name, value) :: fields) =>
    .openObject :: .string name :: .colon ::
      (tokens value ++ (moreFieldTokens fields ++ [.closeObject]))

/-- The tokens of further items of an array. -/
def moreItemTokens : List Json → List Token
  | [] => []
  | item :: items => .comma :: (tokens item ++ moreItemTokens items)

/-- The tokens of further fields of an object. -/
def moreFieldTokens : List (JsonText × Json) → List Token
  | [] => []
  | (name, value) :: fields =>
    .comma :: .string name :: .colon :: (tokens value ++ moreFieldTokens fields)

end

/-- The text of a value. -/
def write (j : Json) : String := String.ofList (j.tokens.flatMap Token.write)

/-! ## Reading -/

/-- A container that is still open, with what is complete in it, the last part first. -/
inductive Frame
  | array (items : List Json)
  | object (fields : List (JsonText × Json)) (name : JsonText)
  deriving Repr

/-- What the machine waits for or has just read. -/
inductive Phase
  /-- A value, or the end of an array that is empty so far. -/
  | value
  /-- The name of a field after those already complete, or the end of an object that is empty so
  far. -/
  | name (fields : List (JsonText × Json))
  /-- The colon after the name of a field. -/
  | colon (fields : List (JsonText × Json)) (name : JsonText)
  /-- A value has just ended. -/
  | after (v : Json)
  deriving Repr

/-- The state of the machine: the open containers, the innermost first, and the phase. -/
structure Machine where
  frames : List Frame := []
  phase : Phase := .value
  deriving Repr

namespace Machine

/-- Reads a token where a value is expected. -/
def stepValue (frames : List Frame) : Token → Option Machine
  | .null => some ⟨frames, .after .null⟩
  | .bool b => some ⟨frames, .after (.bool b)⟩
  | .number n => some ⟨frames, .after (.number n)⟩
  | .string s => some ⟨frames, .after (.string s)⟩
  | .openArray => some ⟨.array [] :: frames, .value⟩
  | .openObject => some ⟨frames, .name []⟩
  | .closeArray =>
    match frames with
    | .array [] :: frames => some ⟨frames, .after (.array [])⟩
    | _ => none
  | _ => none

/-- Reads a token after a value in the innermost open container. -/
def stepAfter (v : Json) : List Frame → Token → Option Machine
  | .array items :: frames, .comma => some ⟨.array (v :: items) :: frames, .value⟩
  | .array items :: frames, .closeArray =>
    some ⟨frames, .after (.array (v :: items).reverse)⟩
  | .object fields name :: frames, .comma => some ⟨frames, .name ((name, v) :: fields)⟩
  | .object fields name :: frames, .closeObject =>
    some ⟨frames, .after (.object ((name, v) :: fields).reverse)⟩
  | _, _ => none

/-- Reads a token. -/
def step (m : Machine) (token : Token) : Option Machine :=
  match m.phase, token with
  | .value, token => stepValue m.frames token
  | .after v, token => stepAfter v m.frames token
  | .name fields, .string s => some ⟨m.frames, .colon fields s⟩
  | .name [], .closeObject => some ⟨m.frames, .after (.object [])⟩
  | .colon fields name, .colon => some ⟨.object fields name :: m.frames, .value⟩
  | _, _ => none

/-- The value that the machine has read, if nothing is open any more. -/
def result? : Machine → Option Json
  | ⟨[], .after v⟩ => some v
  | _ => none

end Machine

/-- The value of a sequence of tokens. -/
def ofTokens? (tokens : List Token) : Option Json :=
  (tokens.foldlM Machine.step {}).bind Machine.result?

/-- The value of a text. -/
def read? (text : String) : Option Json := (Token.scan? text.toList).bind ofTokens?

end PortfolioTerminal.Json
