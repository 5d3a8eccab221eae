/-
# No capitals are left, and all blanks

Full lower-casing leaves none of the letters A to Z, whatever the text and the context: the table
lowers all of them and leads no character to one of them, and the characters with rules of their own
are not lowered to them either.  So names are compared with a lowered text in the same way whether
the case of these letters counts or not.

No run of the table holds a blank.  So the blanks of a text are still there when it is lowered, and
what is lowered to a word was one.
-/
import PortfolioTerminal.Text.Blank
import PortfolioTerminal.Text.Letters
import PortfolioTerminal.Text.Lowercase

namespace PortfolioTerminal.Text

/-! ## Capitals -/

theorem isUpper_iff {c : Char} : c.isUpper = true ↔ 65 ≤ c.toNat ∧ c.toNat ≤ 90 := by
  show decide (c.val ≥ 'A'.val ∧ c.val ≤ 'Z'.val) = true ↔ _
  rw [decide_eq_true_iff, ge_iff_le, UInt32.le_iff_toNat_le, UInt32.le_iff_toNat_le]
  rfl

/-- The character of a code point has that code point, or the first one if there is no such
character. -/
theorem toNat_ofNat_cases (n : Nat) : (Char.ofNat n).toNat = n ∨ (Char.ofNat n).toNat = 0 := by
  by_cases hvalid : n.isValidChar
  · have hchar : Char.ofNat n = Char.ofNatAux n hvalid := dif_pos hvalid
    refine .inl ?_
    rw [hchar]
    rfl
  · have hchar : Char.ofNat n = '\x00' := dif_neg hvalid
    refine .inr ?_
    rw [hchar]
    rfl

/-- No code point beyond `Z` is that of a capital, whether or not it is that of a character. -/
theorem isUpper_ofNat {n : Nat} (h : 90 < n) : (Char.ofNat n).isUpper = false := by
  rw [Bool.eq_false_iff, ne_eq, isUpper_iff]
  rcases toNat_ofNat_cases n with hcode | hcode <;> omega

theorem toLower_of_isUpper_eq_false {c : Char} (h : c.isUpper = false) : c.toLower = c :=
  dif_neg (of_decide_eq_false h)

/-! ## The table -/

/-- Every run of the table leads beyond the capitals. -/
theorem lt_shift_of_mem_caseRuns : ∀ r ∈ caseRuns, 90 < (r.first : Int) + r.shift := by
  decide +kernel

/-- The table holds all capitals. -/
theorem exists_holds_of_isUpper {c : Char} (h : c.isUpper = true) :
    ∃ r ∈ caseRuns, r.holds c.toNat = true := by
  obtain ⟨hfirst, hlast⟩ := isUpper_iff.mp h
  refine ⟨⟨0x41, 0x5A, 1, 32⟩, List.mem_cons_self, ?_⟩
  simp [CaseRun.holds, hfirst, hlast, Nat.mod_one]

theorem isUpper_lowerChar (c : Char) : (lowerChar c).isUpper = false := by
  unfold lowerChar
  split
  · rename_i r hfind
    have hbeyond := lt_shift_of_mem_caseRuns r (List.mem_of_find?_eq_some hfind)
    have hholds := List.find?_some hfind
    simp only [CaseRun.holds, Bool.and_eq_true, decide_eq_true_eq] at hholds
    exact isUpper_ofNat (by omega)
  · rename_i hfind
    rw [Bool.eq_false_iff]
    intro hupper
    obtain ⟨r, hr, hholds⟩ := exists_holds_of_isUpper hupper
    exact List.find?_eq_none.mp hfind r hr hholds

/-! ## Texts -/

theorem isUpper_of_mem_lowerFrom {before cs : List Char} :
    ∀ c ∈ lowerFrom before cs, c.isUpper = false := by
  induction cs generalizing before with
  | nil => simp [lowerFrom]
  | cons c cs ih =>
    intro d hd
    rw [lowerFrom] at hd
    split at hd
    · -- both forms of the small sigma are outside the letters A to Z
      rcases List.mem_cons.mp hd with rfl | hd
      · unfold lowerSigma
        split <;> decide
      · exact ih d hd
    · split at hd
      · simp only [List.mem_cons] at hd
        rcases hd with rfl | rfl | hd
        · decide
        · decide
        · exact ih d hd
      · rcases List.mem_cons.mp hd with rfl | hd
        · exact isUpper_lowerChar c
        · exact ih d hd

/-- Lowering the letters A to Z changes nothing in a lowered text. -/
theorem map_toLower_lowerChars (cs : List Char) :
    (lowerChars cs).map Char.toLower = lowerChars cs := by
  have hid : ∀ c ∈ lowerChars cs, c.toLower = id c := fun c hc =>
    toLower_of_isUpper_eq_false (isUpper_of_mem_lowerFrom c hc)
  rw [List.map_congr_left hid, List.map_id]

/-- A name without capitals agrees with a lowered text up to the case of letters only if it is that
text. -/
theorem sameLetters_lowercase {name : String}
    (hname : name.toList.map Char.toLower = name.toList) (s : String) :
    sameLetters name (lowercase s) = true ↔ name = lowercase s := by
  rw [sameLetters, beq_iff_eq, hname, lowercase, String.toList_ofList, map_toLower_lowerChars,
    ← String.toList_inj, String.toList_ofList]

theorem lowerChars_eq_nil_iff {cs : List Char} : lowerChars cs = [] ↔ cs = [] := by
  cases cs with
  | nil => simp
  | cons c cs =>
    rw [lowerChars, lowerFrom]
    split
    · simp
    · split <;> simp

/-- Only a sigma looks at what comes behind it, so that a text without one is lowered apart from
what follows. -/
theorem lowerFrom_append {before cs : List Char} (h : 'Σ' ∉ cs) (more : List Char) :
    lowerFrom before (cs ++ more) =
      lowerFrom before cs ++ lowerFrom (cs.reverse ++ before) more := by
  induction cs generalizing before with
  | nil => rfl
  | cons c cs ih =>
    rw [List.mem_cons, not_or] at h
    have hrest : lowerFrom (c :: before) (cs ++ more) =
        lowerFrom (c :: before) cs ++ lowerFrom (cs.reverse ++ c :: before) more := ih h.2
    rw [List.cons_append, lowerFrom, lowerFrom, if_neg (Ne.symm h.1), if_neg (Ne.symm h.1), hrest,
      List.reverse_cons, List.append_assoc, List.singleton_append]
    split <;> rfl

/-! ## Blanks -/

/-- Every run of the table lies between two blanks, or beyond them all. -/
theorem between_blanks_of_mem_caseRuns : ∀ r ∈ caseRuns,
    (0x20 < r.first ∧ r.last < 0x85) ∨ (0xA0 < r.first ∧ r.last < 0x1680) ∨
      (0x1680 < r.first ∧ r.last < 0x2000) ∨ (0x205F < r.first ∧ r.last < 0x3000) ∨
      0x3000 < r.first := by
  decide +kernel

theorem lowerChar_of_isBlank {c : Char} (h : isBlank c = true) : lowerChar c = c := by
  unfold lowerChar
  split
  · rename_i r hfind
    have hbetween := between_blanks_of_mem_caseRuns r (List.mem_of_find?_eq_some hfind)
    have hholds := List.find?_some hfind
    simp only [CaseRun.holds, Bool.and_eq_true, decide_eq_true_eq] at hholds
    simp only [isBlank, Bool.or_eq_true, Bool.and_eq_true, decide_eq_true_eq, beq_iff_eq] at h
    omega
  · rfl

/-- Every blank of a text is in the lowered text. -/
theorem mem_lowerFrom_of_isBlank {before cs : List Char} {c : Char} (hc : c ∈ cs)
    (h : isBlank c = true) : c ∈ lowerFrom before cs := by
  induction cs generalizing before with
  | nil => cases hc
  | cons d cs ih =>
    rw [lowerFrom]
    rcases List.mem_cons.mp hc with rfl | hc
    · -- neither of the characters with a rule of their own is a blank
      have hsigma : c ≠ 'Σ' := by
        rintro rfl
        revert h
        decide
      have hdotted : c ≠ 'İ' := by
        rintro rfl
        revert h
        decide
      rw [if_neg hsigma, if_neg hdotted, lowerChar_of_isBlank h]
      exact List.mem_cons_self
    · have hrest : c ∈ lowerFrom (d :: before) cs := ih hc
      split
      · exact List.mem_cons_of_mem _ hrest
      · split
        · exact List.mem_cons_of_mem _ (List.mem_cons_of_mem _ hrest)
        · exact List.mem_cons_of_mem _ hrest

/-- What is lowered to a word is a word. -/
theorem all_isWordChar_of_lowercase {s : String}
    (h : (lowercase s).toList.all isWordChar = true) : s.toList.all isWordChar = true := by
  rw [lowercase, String.toList_ofList, List.all_eq_true] at h
  rw [List.all_eq_true]
  intro c hc
  cases hblank : isBlank c with
  | false => simp [isWordChar, hblank]
  | true => exact h c (mem_lowerFrom_of_isBlank hc hblank)

end PortfolioTerminal.Text
