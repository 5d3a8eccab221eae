/-
# Settings

What the owner of a site can adjust.  Every setting has a default.
-/

namespace PortfolioTerminal

/-- The theme of a fresh session. -/
def defaultTheme : String := "dark"

/-- The other theme that the toolbar offers. -/
def lightTheme : String := "light"

/-- The adjustable settings of a shell; delays are in milliseconds. -/
structure Settings where
  /-- One bound of the delay between a submission and its completion. -/
  minDelay : UInt64 := 150
  /-- The other bound of that delay. -/
  maxDelay : UInt64 := 450
  /-- How long the editor shows its loading text. -/
  editorLoadDelay : UInt64 := 300
  /-- The time between two sections of the tour. -/
  tourInterval : UInt32 := 3000
  /-- Where the random choices start; chance decides if there is none. -/
  seed : Option UInt64 := none
  /-- The theme of a fresh session. -/
  theme : String := defaultTheme
  deriving DecidableEq, Repr

namespace Settings

/-- The two bounds of the delay, the smaller one first. -/
def delayBounds (s : Settings) : UInt64 × UInt64 :=
  if s.minDelay ≤ s.maxDelay then (s.minDelay, s.maxDelay) else (s.maxDelay, s.minDelay)

theorem delayBounds_ordered (s : Settings) : s.delayBounds.1 ≤ s.delayBounds.2 := by
  unfold delayBounds
  split
  · assumption
  · rename_i h
    exact UInt64.le_of_lt (UInt64.not_le.mp h)

theorem delayBounds_toNat (s : Settings) :
    s.delayBounds.1.toNat = min s.minDelay.toNat s.maxDelay.toNat ∧
      s.delayBounds.2.toNat = max s.minDelay.toNat s.maxDelay.toNat := by
  unfold delayBounds
  split
  · rename_i h
    have hle : s.minDelay.toNat ≤ s.maxDelay.toNat := h
    dsimp only
    omega
  · rename_i h
    have hlt : s.maxDelay.toNat < s.minDelay.toNat := UInt64.not_le.mp h
    dsimp only
    omega

end Settings

end PortfolioTerminal
