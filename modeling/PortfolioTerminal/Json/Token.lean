/-
# Tokens of JSON

The words that a JSON text is made of, how each is written, and how a text is cut into them.  The
scanner reads one character at a time and never goes back: a run of letters, digits, signs and
points is collected first and judged when it ends.
-/
import PortfolioTerminal.Json.Value

namespace PortfolioTerminal

/-- A token of a JSON text. -/
inductive Token
  | openObject
  | closeObject
  | openArray
  | closeArray
  | colon
  | comma
  | null
  | bool (b : Bool)
  | number (n : JsonNumber)
  | string (s : JsonText)
  deriving DecidableEq, Repr

/-- A part of a string literal: a character, or an escaped 16-bit unit. -/
inductive TextPiece
  | char (c : Char)
  | unit (u : Nat)
  deriving DecidableEq, Repr

namespace Token

/-! ## Writing -/

/-- The digits of a number in lower-case hexadecimal, four of them. -/
def hexUnit (u : Nat) : List Char :=
  [u / 4096 % 16, u / 256 % 16, u / 16 % 16, u % 16].map Nat.digitChar

/-- A character inside a string literal.  Only the quotation mark, the backslash and the control
characters below the space are escaped. -/
def writeChar (c : Char) : List Char :=
  if c = '"' then ['\\', '"']
  else if c = '\\' then ['\\', '\\']
  else if c = '\n' then ['\\', 'n']
  else if c = '\r' then ['\\', 'r']
  else if c = '\t' then ['\\', 't']
  else if c.toNat = 8 then ['\\', 'b']
  else if c.toNat = 12 then ['\\', 'f']
  else if c.toNat < 32 then '\\' :: 'u' :: hexUnit c.toNat
  else [c]

/-- A string literal; one that spells no text is written as an unpaired surrogate. -/
def writeText : JsonText → List Char
  | some s => '"' :: s.toList.flatMap writeChar ++ ['"']
  | none => '"' :: '\\' :: 'u' :: hexUnit 0xD800 ++ ['"']

/-- A natural number in decimal. -/
def writeNat (n : Nat) : List Char := Nat.toDigits 10 n

/-- A number literal. -/
def writeNumber : JsonNumber → List Char
  | .natural n => writeNat n
  | .decimal negative digits exponent =>
    (if negative then ['-'] else []) ++ writeNat digits ++ ['e'] ++
      (if exponent < 0 then ['-'] else []) ++ writeNat exponent.natAbs

/-- A token as it is written. -/
def write : Token → List Char
  | openObject => ['\x7b']
  | closeObject => ['\x7d']
  | openArray => ['[']
  | closeArray => [']']
  | colon => [':']
  | comma => [',']
  | null => ['n', 'u', 'l', 'l']
  | bool true => ['t', 'r', 'u', 'e']
  | bool false => ['f', 'a', 'l', 's', 'e']
  | number n => writeNumber n
  | string s => writeText s

/-! ## Reading words -/

/-- The number that decimal digits denote. -/
def natOfDigits (digits : List Char) : Nat := Nat.ofDigitChars 10 digits 0

/-- Cuts the digits off the front; there must be one. -/
def digits? (cs : List Char) : Option (List Char × List Char) :=
  match cs.takeWhile Char.isDigit with
  | [] => none
  | digits => some (digits, cs.dropWhile Char.isDigit)

/-- Cuts the whole part off the front: digits without a zero before others. -/
def wholePart? (cs : List Char) : Option (List Char × List Char) :=
  match digits? cs with
  | some ('0' :: _ :: _, _) => none
  | parts => parts

/-- Cuts the digits after a point off the front, if there is a point. -/
def fraction? : List Char → Option (List Char × List Char)
  | '.' :: cs => digits? cs
  | cs => some ([], cs)

/-- Reads the power of ten at the end, if there is one. -/
def exponent? : List Char → Option Int
  | [] => some 0
  | c :: cs =>
    if c = 'e' ∨ c = 'E' then
      let (negative, cs) :=
        match cs with
        | '-' :: cs => (true, cs)
        | '+' :: cs => (false, cs)
        | cs => (false, cs)
      match digits? cs with
      | some (digits, []) =>
        some (if negative then -(natOfDigits digits : Int) else natOfDigits digits)
      | _ => none
    else none

/-- Reads a number. -/
def number? (word : List Char) : Option JsonNumber := do
  let (negative, unsigned) := match word with
    | '-' :: cs => (true, cs)
    | cs => (false, cs)
  let (whole, rest) ← wholePart? unsigned
  if rest = [] ∧ negative = false then return .natural (natOfDigits whole)
  let (places, rest) ← fraction? rest
  let exponent ← exponent? rest
  return .decimal negative (natOfDigits (whole ++ places)) (exponent - places.length)

/-- Reads a word. -/
def ofWord? (word : List Char) : Option Token :=
  match word with
  | ['n', 'u', 'l', 'l'] => some .null
  | ['t', 'r', 'u', 'e'] => some (.bool true)
  | ['f', 'a', 'l', 's', 'e'] => some (.bool false)
  | word => (number? word).map .number

/-! ## Reading strings -/

/-- Whether a unit is the first half of a surrogate pair. -/
def isHighSurrogate (u : Nat) : Bool := 0xD800 ≤ u && u < 0xDC00

/-- Whether a unit is the second half of a surrogate pair. -/
def isLowSurrogate (u : Nat) : Bool := 0xDC00 ≤ u && u < 0xE000

/-- The character that a surrogate pair stands for. -/
def pairedChar (high low : Nat) : Char :=
  Char.ofNat (0x10000 + (high - 0xD800) * 0x400 + (low - 0xDC00))

/-- The text that the parts of a literal spell. -/
def spell? : List TextPiece → Option (List Char)
  | [] => some []
  | .char c :: rest => (spell? rest).map (c :: ·)
  | .unit u :: rest =>
    if isHighSurrogate u then
      match rest with
      | .unit low :: rest =>
        if isLowSurrogate low then (spell? rest).map (pairedChar u low :: ·) else none
      | _ => none
    else if isLowSurrogate u then none
    else (spell? rest).map (Char.ofNat u :: ·)

/-- The character that a backslash and `c` stand for. -/
def escaped? (c : Char) : Option Char :=
  if c = '"' ∨ c = '\\' ∨ c = '/' then some c
  else if c = 'b' then some (Char.ofNat 8)
  else if c = 'f' then some (Char.ofNat 12)
  else if c = 'n' then some '\n'
  else if c = 'r' then some '\r'
  else if c = 't' then some '\t'
  else none

/-- The value of a hexadecimal digit. -/
def hexDigit? (c : Char) : Option Nat :=
  if '0' ≤ c ∧ c ≤ '9' then some (c.toNat - '0'.toNat)
  else if 'a' ≤ c ∧ c ≤ 'f' then some (c.toNat - 'a'.toNat + 10)
  else if 'A' ≤ c ∧ c ≤ 'F' then some (c.toNat - 'A'.toNat + 10)
  else none

/-- The token that a single character is. -/
def punctuation? (c : Char) : Option Token :=
  if c = '\x7b' then some .openObject
  else if c = '\x7d' then some .closeObject
  else if c = '[' then some .openArray
  else if c = ']' then some .closeArray
  else if c = ':' then some .colon
  else if c = ',' then some .comma
  else none

end Token

/-! ## Scanning -/

/-- What the scanner is in the middle of; what it has seen is listed from the end. -/
inductive ScanState
  | between
  | word (seen : List Char)
  | quoted (seen : List TextPiece)
  /-- After a backslash. -/
  | escape (seen : List TextPiece)
  /-- After `count` digits of an escaped unit, which make `value`. -/
  | unit (seen : List TextPiece) (count value : Nat)
  deriving DecidableEq, Repr

/-- A scanner with the tokens that it has completed, the last one first. -/
structure Scanner where
  tokens : List Token := []
  state : ScanState := .between
  deriving DecidableEq, Repr

namespace Scanner

/-- Whether a character separates tokens and is nothing else. -/
def isSeparator (c : Char) : Bool := c == ' ' || c == '\t' || c == '\n' || c == '\r'

/-- Whether a character can be part of a word. -/
def isWordChar (c : Char) : Bool := c.isAlphanum || c == '+' || c == '-' || c == '.'

/-- Reads a character between tokens. -/
def stepBetween (tokens : List Token) (c : Char) : Option Scanner :=
  if isSeparator c then some ⟨tokens, .between⟩
  else if c = '"' then some ⟨tokens, .quoted []⟩
  else if isWordChar c then some ⟨tokens, .word [c]⟩
  else (Token.punctuation? c).map fun token => ⟨token :: tokens, .between⟩

/-- Ends the word that is being read, if one is. -/
def endWord? (s : Scanner) : Option (List Token) :=
  match s.state with
  | .between => some s.tokens
  | .word seen => (Token.ofWord? seen.reverse).map (· :: s.tokens)
  | _ => none

/-- Reads a character. -/
def step (s : Scanner) (c : Char) : Option Scanner :=
  match s.state with
  | .between => stepBetween s.tokens c
  | .word seen =>
    if isWordChar c then some { s with state := .word (c :: seen) }
    else s.endWord?.bind fun tokens => stepBetween tokens c
  | .quoted seen =>
    if c = '"' then
      some ⟨.string ((Token.spell? seen.reverse).map String.ofList) :: s.tokens, .between⟩
    else if c = '\\' then some { s with state := .escape seen }
    else if c.toNat < 32 then none
    else some { s with state := .quoted (.char c :: seen) }
  | .escape seen =>
    if c = 'u' then some { s with state := .unit seen 0 0 }
    else (Token.escaped? c).map fun e => { s with state := .quoted (.char e :: seen) }
  | .unit seen count value =>
    (Token.hexDigit? c).map fun digit =>
      let value := 16 * value + digit
      if count = 3 then { s with state := .quoted (.unit value :: seen) }
      else { s with state := .unit seen (count + 1) value }

/-- Reads characters one after the other. -/
def steps (s : Scanner) (cs : List Char) : Option Scanner := cs.foldlM step s

end Scanner

/-- The tokens of a text. -/
def Token.scan? (cs : List Char) : Option (List Token) :=
  ((({} : Scanner).steps cs).bind Scanner.endWord?).map List.reverse

end PortfolioTerminal
