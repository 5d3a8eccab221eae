/-
# Full lower-casing

Every character is lowered by itself, with two exceptions: a dotted capital I becomes two
characters, and a capital sigma becomes the final form where it ends a word.
-/
import PortfolioTerminal.Text.CaseTable

namespace PortfolioTerminal.Text

/-! ## Single characters -/

/-- Whether the run holds the code point `n`. -/
def CaseRun.holds (r : CaseRun) (n : Nat) : Bool :=
  r.first ≤ n && n ≤ r.last && (n - r.first) % r.stride == 0

/-- The lower-case form of a character by itself, or the character if it has none. -/
def lowerChar (c : Char) : Char :=
  match caseRuns.find? (·.holds c.toNat) with
  | some r => Char.ofNat (c.toNat + r.shift).toNat
  | none => c

/-- Whether one of the closed ranges holds `c`. -/
def inRanges (ranges : List (Nat × Nat)) (c : Char) : Bool :=
  ranges.any fun r => r.1 ≤ c.toNat && c.toNat ≤ r.2

/-! ## Context -/

/-- Whether the first character that case context does not look through is cased. -/
def meetsCased (cs : List Char) : Bool :=
  match cs.dropWhile (inRanges caseIgnorableRanges) with
  | [] => false
  | c :: _ => inRanges casedRanges c

/-- The lower-case form of a capital sigma between the text `before` it, nearest character first,
and the text `after` it: the final form exactly where the sigma ends a word. -/
def lowerSigma (before after : List Char) : Char :=
  if meetsCased before && !meetsCased after then 'ς' else 'σ'

/-! ## Texts -/

/-- The lower-case form of a text that follows `before`, nearest character first. -/
def lowerFrom (before : List Char) : List Char → List Char
  | [] => []
  | c :: after =>
    let rest := lowerFrom (c :: before) after
    if c = 'Σ' then lowerSigma before after :: rest
    else if c = 'İ' then 'i' :: Char.ofNat 0x307 :: rest
    else lowerChar c :: rest

/-- The lower-case form of a text. -/
def lowerChars (cs : List Char) : List Char := lowerFrom [] cs

/-- The lower-case form of a string. -/
def lowercase (s : String) : String := String.ofList (lowerChars s.toList)

@[simp] theorem lowerChars_nil : lowerChars [] = [] := rfl

end PortfolioTerminal.Text
