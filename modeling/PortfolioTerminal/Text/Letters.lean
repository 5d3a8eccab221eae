/-
# Comparing names by their letters

Names of sections, files and manual pages are compared without regard to the case of the letters
A to Z.  Characters outside ASCII stand for themselves.
-/

namespace PortfolioTerminal.Text

/-- Whether two strings agree up to the case of ASCII letters. -/
def sameLetters (a b : String) : Bool :=
  a.toList.map Char.toLower == b.toList.map Char.toLower

@[simp] theorem sameLetters_self (a : String) : sameLetters a a = true := by
  simp [sameLetters]

end PortfolioTerminal.Text
