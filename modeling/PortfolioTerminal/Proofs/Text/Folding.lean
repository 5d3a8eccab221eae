/-
# Two ways to disregard case

Lines are lowered in full, and names are compared up to the case of the letters A to Z.  For a name
in printable ASCII it is nearly the same whether a word is lowered to it or compared with it: a
character that is lowered to printable ASCII is in ASCII itself, where both ways lower the same
letters.  The one exception is the Kelvin sign, which is lowered to the letter k.
-/
import PortfolioTerminal.Proofs.Text.Lowercase

namespace PortfolioTerminal.Text

/-- The sign of the Kelvin, a capital K that is not the letter. -/
def kelvinSign : Char := '\u212a'

/-- Whether the character is one of ASCII that leaves ink. -/
def isGraphic (c : Char) : Bool := 0x20 < c.toNat && c.toNat < 0x7F

variable {before cs : List Char} {c : Char}

/-! ## Single characters -/

theorem isGraphic_iff : isGraphic c = true ↔ 0x20 < c.toNat ∧ c.toNat < 0x7F := by
  simp [isGraphic]

/-- Every run of the table leads beyond ASCII, except that of the capitals and that of the Kelvin
sign. -/
theorem cases_of_mem_caseRuns : ∀ r ∈ caseRuns,
    r = ⟨0x41, 0x5A, 1, 32⟩ ∨ r = ⟨0x212A, 0x212A, 1, -8383⟩ ∨
      0x7F ≤ (r.first : Int) + r.shift := by
  decide +kernel

/-- What is lowered to a graphic character of ASCII is in ASCII, or it is the Kelvin sign. -/
theorem eq_kelvinSign_or_lt_of_isGraphic_lowerChar (h : isGraphic (lowerChar c) = true) :
    c = kelvinSign ∨ c.toNat < 0x80 := by
  unfold lowerChar at h
  split at h
  · rename_i r hfind
    have hholds := List.find?_some hfind
    simp only [CaseRun.holds, Bool.and_eq_true, decide_eq_true_eq] at hholds
    obtain ⟨⟨hfirst, hlast⟩, -⟩ := hholds
    rcases cases_of_mem_caseRuns r (List.mem_of_find?_eq_some hfind) with rfl | rfl | hbeyond
    · simp only at hlast
      omega
    · refine .inl ?_
      simp only at hfirst hlast
      have hcode : c.toNat = kelvinSign.toNat := Nat.le_antisymm hlast hfirst
      rw [← Char.ofNat_toNat c, hcode, Char.ofNat_toNat]
    · rw [isGraphic_iff] at h
      rcases toNat_ofNat_cases (c.toNat + r.shift).toNat with hcode | hcode <;> omega
  · rw [isGraphic_iff] at h
    omega

theorem lowerChar_ofNat : ∀ n < 0x80, lowerChar (Char.ofNat n) = (Char.ofNat n).toLower := by
  decide +kernel

/-- In ASCII, the table lowers the letters A to Z and nothing else. -/
theorem lowerChar_of_lt (h : c.toNat < 0x80) : lowerChar c = c.toLower := by
  have hcode := lowerChar_ofNat c.toNat h
  rwa [Char.ofNat_toNat] at hcode

theorem lt_of_isGraphic_toLower (h : isGraphic c.toLower = true) : c.toNat < 0x80 := by
  cases hupper : c.isUpper with
  | true =>
    rw [isUpper_iff] at hupper
    omega
  | false =>
    rw [toLower_of_isUpper_eq_false hupper, isGraphic_iff] at h
    omega

/-! ## Texts -/

/-- In ASCII, full lower-casing is lowering the letters A to Z. -/
theorem lowerFrom_of_lt (h : ∀ c ∈ cs, c.toNat < 0x80) :
    lowerFrom before cs = cs.map Char.toLower := by
  induction cs generalizing before with
  | nil => rfl
  | cons c cs ih =>
    have hc : c.toNat < 0x80 := h c List.mem_cons_self
    have hsigma : c ≠ 'Σ' := by
      rintro rfl
      revert hc
      decide
    have hdotted : c ≠ 'İ' := by
      rintro rfl
      revert hc
      decide
    rw [lowerFrom, if_neg hsigma, if_neg hdotted, lowerChar_of_lt hc, List.map_cons,
      ih fun d hd => h d (List.mem_cons_of_mem c hd)]

/-- A small text in printed ASCII is lowered already. -/
theorem lowercase_of_isGraphic {s : String} (hgraphic : s.toList.all isGraphic = true)
    (hsmall : s.toList.map Char.toLower = s.toList) : lowercase s = s := by
  have hascii : ∀ c ∈ s.toList, c.toNat < 0x80 := by
    intro c hc
    have hc := isGraphic_iff.mp (List.all_eq_true.mp hgraphic c hc)
    omega
  rw [lowercase, lowerChars, lowerFrom_of_lt hascii, hsmall, String.ofList_toList]

/-- A text that is lowered to graphic characters of ASCII is in ASCII, but for Kelvin signs. -/
theorem eq_kelvinSign_or_lt_of_isGraphic_lowerFrom
    (h : ∀ c ∈ lowerFrom before cs, isGraphic c = true) :
    ∀ c ∈ cs, c = kelvinSign ∨ c.toNat < 0x80 := by
  induction cs generalizing before with
  | nil => simp
  | cons d cs ih =>
    rw [lowerFrom] at h
    split at h
    · -- a capital sigma leaves a small one
      have hsigma := h _ List.mem_cons_self
      unfold lowerSigma at hsigma
      split at hsigma <;> exact absurd hsigma (by decide)
    · split at h
      · -- a dotted capital leaves its dot
        have hdot := h (Char.ofNat 0x307) (List.mem_cons_of_mem _ List.mem_cons_self)
        exact absurd hdot (by decide)
      · intro c hc
        rcases List.mem_cons.mp hc with rfl | hc
        · exact eq_kelvinSign_or_lt_of_isGraphic_lowerChar (h _ List.mem_cons_self)
        · exact ih (fun e he => h e (List.mem_cons_of_mem _ he)) c hc

/-- What is lowered to graphic characters of ASCII is lowered piece by piece. -/
theorem lowerFrom_prefix_of_isGraphic {more : List Char}
    (h : ∀ c ∈ lowerFrom before (cs ++ more), isGraphic c = true) :
    lowerFrom before cs <+: lowerFrom before (cs ++ more) := by
  have hsigma : 'Σ' ∉ cs := by
    intro hmem
    have hascii := eq_kelvinSign_or_lt_of_isGraphic_lowerFrom h 'Σ' (List.mem_append_left _ hmem)
    exact absurd hascii (by decide)
  rw [lowerFrom_append hsigma]
  exact List.prefix_append _ _

/-- A word agrees with a small name up to the case of letters if it is lowered to the name and holds
no Kelvin sign. -/
theorem sameLetters_iff {name : String} (hgraphic : ∀ c ∈ name.toList, isGraphic c = true)
    (hsmall : name.toList.map Char.toLower = name.toList) (word : String) :
    sameLetters name word = true ↔ name = lowercase word ∧ kelvinSign ∉ word.toList := by
  have hlowered : name = lowercase word ↔ name.toList = lowerChars word.toList := by
    rw [lowercase, ← String.toList_inj, String.toList_ofList]
  rw [sameLetters, beq_iff_eq, hsmall, hlowered]
  constructor
  · intro hsame
    have hascii : ∀ c ∈ word.toList, c.toNat < 0x80 := fun c hc =>
      lt_of_isGraphic_toLower (hgraphic _ (hsame ▸ List.mem_map_of_mem hc))
    refine ⟨by rw [lowerChars, lowerFrom_of_lt hascii, hsame], fun hkelvin => ?_⟩
    exact absurd (hascii _ hkelvin) (by decide)
  · rintro ⟨hname, hkelvin⟩
    have hascii : ∀ c ∈ word.toList, c.toNat < 0x80 := by
      intro c hc
      have hcases := eq_kelvinSign_or_lt_of_isGraphic_lowerFrom
        (fun d hd => hgraphic d (hname ▸ hd)) c hc
      refine hcases.resolve_left ?_
      rintro rfl
      exact hkelvin hc
    rw [hname, lowerChars, lowerFrom_of_lt hascii]

end PortfolioTerminal.Text
