/-
# Blanks and words

The Unicode property White_Space decides what separates words.  Trimming and word finding work on
lists of characters, where the laws about them are inductions; the definitions on strings below
only pack and unpack.
-/

namespace PortfolioTerminal.Text

/-! ## The White_Space property -/

/-- Whether `c` has the Unicode property White_Space. -/
def isBlank (c : Char) : Bool :=
  let n := c.toNat
  (9 ≤ n && n ≤ 13) || n == 0x20 || n == 0x85 || n == 0xA0 || n == 0x1680 ||
    (0x2000 ≤ n && n ≤ 0x200A) || n == 0x2028 || n == 0x2029 || n == 0x202F || n == 0x205F ||
    n == 0x3000

/-- Whether `c` can be part of a word. -/
def isWordChar (c : Char) : Bool := !isBlank c

/-! ## Trimming -/

/-- The text without its leading blanks. -/
def trimStart (cs : List Char) : List Char := cs.dropWhile isBlank

/-- The text without its trailing blanks. -/
def trimEnd (cs : List Char) : List Char := (cs.reverse.dropWhile isBlank).reverse

/-- The text without leading and trailing blanks. -/
def trim (cs : List Char) : List Char := trimEnd (trimStart cs)

/-- Whether a string holds nothing but blanks. -/
def isAllBlank (s : String) : Bool := s.toList.all isBlank

@[simp] theorem trimStart_nil : trimStart [] = [] := rfl

theorem trimStart_cons_of_wordChar {c : Char} (h : isBlank c = false) (cs : List Char) :
    trimStart (c :: cs) = c :: cs := by
  simp [trimStart, h]

/-! ## Words -/

/-- The longest run of word characters that the text begins with. -/
def leadingWord (cs : List Char) : List Char := cs.takeWhile isWordChar

/-- What follows the leading word, without the blanks in between. -/
def afterLeadingWord (cs : List Char) : List Char := trimStart (cs.dropWhile isWordChar)

/-- The first word of the text, if there is one. -/
def firstWord? (cs : List Char) : Option String :=
  match leadingWord (trimStart cs) with
  | [] => none
  | word => some (String.ofList word)

/-- A text splits into its leading word and the rest. -/
theorem leadingWord_append_dropWhile (cs : List Char) :
    leadingWord cs ++ cs.dropWhile isWordChar = cs :=
  List.takeWhile_append_dropWhile

end PortfolioTerminal.Text
