/-
# JSON values

The values that a JSON text can denote.  The fields of an object keep their order and may repeat,
because readers of records ask about both.
-/

namespace PortfolioTerminal

/-- The text of a string literal; `none` if its escapes leave a surrogate unpaired, so that the
literal is well formed but spells no text. -/
abbrev JsonText := Option String

/-- A number literal. -/
inductive JsonNumber
  /-- Digits alone. -/
  | natural (n : Nat)
  /-- Any other literal: a sign, digits, and the power of ten that they are multiplied by. -/
  | decimal (negative : Bool) (digits : Nat) (exponent : Int)
  deriving DecidableEq, Repr

/-- A JSON value. -/
inductive Json
  | null
  | bool (b : Bool)
  | number (n : JsonNumber)
  | string (s : JsonText)
  | array (items : List Json)
  | object (fields : List (JsonText × Json))
  deriving Repr, Inhabited

/-! ## Finite numbers

A number is measured as a product of two 64-bit binary fractions: the one nearest to its leading
digits, as many as a 64-bit word holds, and the one nearest to the power of ten that goes with them.
-/

/-- The number of decimal digits of `n`; zero has none. -/
def JsonNumber.digitCount (n : Nat) : Nat := if n = 0 then 0 else (Nat.toDigits 10 n).length

/-- The leading digits that a 64-bit word holds, and how many are left off after them.  Every number
of 19 digits fits in a word, and none of 21 does. -/
def JsonNumber.leadingDigits (n : Nat) : Nat × Nat :=
  let dropped := digitCount n - 20
  let leading := n / Nat.pow 10 dropped
  if leading < Nat.pow 2 64 then (leading, dropped) else (leading / 10, dropped + 1)

/-- The nearest number of 53 binary digits; a half goes to the even neighbour. -/
def JsonNumber.toBinaryPrecision (n : Nat) : Nat :=
  let unit := Nat.pow 2 (Nat.log2 n - 52)
  let units := n / unit
  let excess := 2 * (n % unit)
  if excess > unit || (excess = unit && units % 2 = 1) then (units + 1) * unit else units * unit

/-- The least number that a 64-bit binary fraction rounds to infinity. -/
def JsonNumber.overflowBound : Nat := Nat.pow 2 1024 - Nat.pow 2 970

/-- Whether `digits` times that power of ten is measured as finite.  A product below one word is,
and a positive one past the powers of ten that are finite themselves is not. -/
def JsonNumber.isFiniteProduct (digits : Nat) (exponent : Int) : Bool :=
  let (leading, dropped) := leadingDigits digits
  let power := exponent + dropped
  leading = 0 || power < 0 || (power ≤ 308 &&
    toBinaryPrecision leading * toBinaryPrecision (Nat.pow 10 power.toNat) < overflowBound)

/-- Whether a number is measured as finite. -/
def JsonNumber.isFinite : JsonNumber → Bool
  | natural n => isFiniteProduct n 0
  | decimal _ digits exponent => isFiniteProduct digits exponent

namespace Json

/-! ## Making values -/

/-- A string that spells a text. -/
def ofText (s : String) : Json := .string (some s)

/-- A natural number. -/
def ofNat (n : Nat) : Json := .number (.natural n)

/-- An object with the given fields. -/
def ofFields (fields : List (String × Json)) : Json :=
  .object (fields.map fun (name, value) => (some name, value))

/-! ## Buffering -/

mutual

/-- Whether a value can be kept until its meaning is known: its strings spell texts, its numbers are
finite, and containers lie in it no more than `room` deep. -/
def isBufferable (room : Nat) : Json → Bool
  | .null | .bool _ => true
  | .number n => n.isFinite
  | .string s => s.isSome
  | .array items => 0 < room && areBufferable (room - 1) items
  | .object fields => 0 < room && fieldsAreBufferable (room - 1) fields

/-- Whether all items can be kept. -/
def areBufferable (room : Nat) : List Json → Bool
  | [] => true
  | item :: items => isBufferable room item && areBufferable room items

/-- Whether all fields can be kept. -/
def fieldsAreBufferable (room : Nat) : List (JsonText × Json) → Bool
  | [] => true
  | (name, value) :: fields =>
    name.isSome && isBufferable room value && fieldsAreBufferable room fields

end

end Json

end PortfolioTerminal
