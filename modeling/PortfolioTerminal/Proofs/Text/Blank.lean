/-
# Trimming and words

A line is trimmed at both ends before its leading word is cut off, and what follows the word is
trimmed again in front.  What happens at the front of a text and what happens at its end do not
disturb each other, so the same word and the same rest are found in the line as it stands: the rest
is what stands behind the word, trimmed.
-/
import Mathlib.Data.List.DropRight
import Mathlib.Data.List.TakeWhile
import PortfolioTerminal.Text.Blank

namespace PortfolioTerminal.Text

variable {cs word rest blanks : List Char}

/-! ## The two ends of a text -/

/-- Items are dropped at the end and in front in either order. -/
theorem dropWhile_rdropWhile {α : Type} (p q : α → Bool) (l : List α) :
    (l.rdropWhile q).dropWhile p = (l.dropWhile p).rdropWhile q := by
  induction l using List.reverseRecOn with
  | nil => rfl
  | append_singleton l a ih =>
    have hlast : ([a].dropWhile p).rdropWhile q = ([a].rdropWhile q).dropWhile p := by
      cases hp : p a <;> cases hq : q a <;> simp [List.rdropWhile, hp, hq]
    rw [List.dropWhile_append]
    cases hq : q a with
    | true =>
      rw [List.rdropWhile_concat_pos _ _ _ hq, ih]
      split
      · rename_i hnil
        rw [List.isEmpty_iff.mp hnil, hlast]
        simp [List.rdropWhile, hq]
      · rw [List.rdropWhile_concat_pos _ _ _ hq]
    | false =>
      have hkept : [a].rdropWhile q = [a] := by simp [List.rdropWhile, hq]
      rw [List.rdropWhile_concat_neg _ _ _ (by simp [hq]), List.dropWhile_append]
      split
      · rw [hlast, hkept]
      · rw [List.rdropWhile_concat_neg _ _ _ (by simp [hq])]

theorem trimEnd_eq_rdropWhile (cs : List Char) : trimEnd cs = cs.rdropWhile isBlank := rfl

/-- It does not matter which end is trimmed first. -/
theorem trim_eq (cs : List Char) : trim cs = trimStart (trimEnd cs) :=
  (dropWhile_rdropWhile isBlank isBlank cs).symm

theorem trimStart_append_of_blank (h : ∀ c ∈ blanks, isBlank c = true) (cs : List Char) :
    trimStart (blanks ++ cs) = trimStart cs :=
  List.dropWhile_append_of_pos h

/-- What follows a text that is not blank leaves the blanks in front as they are. -/
theorem trimStart_append (h : trimStart cs ≠ []) (more : List Char) :
    trimStart (cs ++ more) = trimStart cs ++ more := by
  rw [trimStart, List.dropWhile_append, if_neg (by simpa [trimStart] using h), trimStart]

theorem trimEnd_append_of_blank (h : ∀ c ∈ blanks, isBlank c = true) (cs : List Char) :
    trimEnd (cs ++ blanks) = trimEnd cs := by
  rw [trimEnd, List.reverse_append, List.dropWhile_append_of_pos, trimEnd]
  simpa using h

/-- Blanks in front of a text are trimmed away. -/
theorem trim_blank_append (h : ∀ c ∈ blanks, isBlank c = true) (cs : List Char) :
    trim (blanks ++ cs) = trim cs := by
  rw [trim, trimStart_append_of_blank h, trim]

/-- Blanks behind a text are trimmed away. -/
theorem trim_append_blank (h : ∀ c ∈ blanks, isBlank c = true) (cs : List Char) :
    trim (cs ++ blanks) = trim cs := by
  rw [trim_eq, trimEnd_append_of_blank h, trim_eq]

theorem trimStart_eq_nil_iff {text : String} :
    trimStart text.toList = [] ↔ isAllBlank text = true := by
  rw [trimStart, List.dropWhile_eq_nil_iff, isAllBlank, List.all_eq_true]

/-! ## Trimmed texts -/

/-- The text neither begins nor ends with a blank. -/
structure IsTrimmed (cs : List Char) : Prop where
  head : ∀ c ∈ cs.head?, isBlank c = false
  last : ∀ c ∈ cs.getLast?, isBlank c = false

theorem isBlank_of_mem_head?_trimStart {c : Char} (h : c ∈ (trimStart cs).head?) :
    isBlank c = false := by
  have hstop := List.head?_dropWhile_not isBlank cs
  rw [Option.mem_def, trimStart] at h
  simpa [h] using hstop

theorem trimStart_eq_self_iff : trimStart cs = cs ↔ ∀ c ∈ cs.head?, isBlank c = false := by
  constructor
  · intro h c hc
    rw [← h] at hc
    exact isBlank_of_mem_head?_trimStart hc
  · intro h
    cases cs with
    | nil => rfl
    | cons c cs => exact trimStart_cons_of_wordChar (h c rfl) cs

theorem trimEnd_eq_self_iff : trimEnd cs = cs ↔ ∀ c ∈ cs.getLast?, isBlank c = false := by
  rw [trimEnd, List.reverse_eq_iff, ← trimStart, trimStart_eq_self_iff, List.head?_reverse]

theorem isTrimmed_trim (cs : List Char) : IsTrimmed (trim cs) where
  head c hc := by
    rw [trim_eq] at hc
    exact isBlank_of_mem_head?_trimStart hc
  last c hc := by
    rw [trim, trimEnd, List.getLast?_reverse] at hc
    exact isBlank_of_mem_head?_trimStart hc

/-- The texts that trimming leaves alone. -/
theorem trim_eq_self_iff : trim cs = cs ↔ IsTrimmed cs := by
  constructor
  · intro h
    exact h ▸ isTrimmed_trim cs
  · rintro ⟨hhead, hlast⟩
    rw [trim, trimStart_eq_self_iff.mpr hhead, trimEnd_eq_self_iff.mpr hlast]

/-! ## The leading word -/

theorem isWordChar_eq_true_iff {c : Char} : isWordChar c = true ↔ isBlank c = false := by
  simp [isWordChar]

/-- A word is cut off where a blank follows it, or nothing. -/
theorem leadingWord_append (hword : ∀ c ∈ word, isWordChar c = true)
    (hrest : ∀ c ∈ rest.head?, isBlank c = true) : leadingWord (word ++ rest) = word := by
  rw [leadingWord, List.takeWhile_append_of_pos hword]
  cases rest with
  | nil => simp
  | cons c rest => simp [isWordChar, hrest c rfl]

theorem dropWhile_isWordChar_append (hword : ∀ c ∈ word, isWordChar c = true)
    (hrest : ∀ c ∈ rest.head?, isBlank c = true) :
    (word ++ rest).dropWhile isWordChar = rest := by
  rw [List.dropWhile_append_of_pos hword]
  cases rest with
  | nil => rfl
  | cons c rest => simp [isWordChar, hrest c rfl]

/-- Blanks at the end of a text do not belong to its leading word. -/
theorem leadingWord_append_of_blank (cs : List Char) {blanks : List Char}
    (h : ∀ c ∈ blanks, isBlank c = true) : leadingWord (cs ++ blanks) = leadingWord cs := by
  induction cs with
  | nil =>
    -- the first of the blanks, if there is one, ends the word
    cases blanks with
    | nil => rfl
    | cons c blanks => simp [leadingWord, isWordChar, h c List.mem_cons_self]
  | cons c cs ih =>
    rw [leadingWord] at ih ⊢
    rw [List.cons_append, List.takeWhile_cons, ih, leadingWord, leadingWord, List.takeWhile_cons]

theorem leadingWord_trimEnd (cs : List Char) : leadingWord (trimEnd cs) = leadingWord cs := by
  have hsplit : trimEnd cs ++ (cs.reverse.takeWhile isBlank).reverse = cs := by
    rw [trimEnd, ← List.reverse_append, List.takeWhile_append_dropWhile, List.reverse_reverse]
  have hblank : ∀ c ∈ (cs.reverse.takeWhile isBlank).reverse, isBlank c = true := fun c hc =>
    List.mem_takeWhile_imp (List.mem_reverse.mp hc)
  rw [← leadingWord_append_of_blank (trimEnd cs) hblank, hsplit]

/-- What follows the leading word of a trimmed text is what stands behind the word, trimmed. -/
theorem afterLeadingWord_trim (cs : List Char) :
    afterLeadingWord (trim cs) = trim ((trimStart cs).dropWhile isWordChar) := by
  rw [trim, afterLeadingWord, trimEnd_eq_rdropWhile, dropWhile_rdropWhile, trim_eq,
    trimEnd_eq_rdropWhile]

/-- The leading word of a trimmed text is the first word of the text, empty if there is none. -/
theorem leadingWord_trim (cs : List Char) :
    String.ofList (leadingWord (trim cs)) = (firstWord? cs).getD "" := by
  rw [trim, leadingWord_trimEnd, firstWord?]
  split
  · rename_i h
    rw [h]
    rfl
  · rfl

/-! ## The first word -/

/-- Without blanks, there is nothing to trim. -/
theorem isTrimmed_of_word (h : cs.all isWordChar = true) : IsTrimmed cs where
  head c hc := isWordChar_eq_true_iff.mp (List.all_eq_true.mp h c (List.mem_of_mem_head? hc))
  last c hc := isWordChar_eq_true_iff.mp (List.all_eq_true.mp h c (List.mem_of_getLast? hc))

theorem trimStart_of_word (h : cs.all isWordChar = true) : trimStart cs = cs :=
  trimStart_eq_self_iff.mpr (isTrimmed_of_word h).head

/-- A word begins with a character that is no blank. -/
theorem exists_cons_of_word {word : String} (hne : word ≠ "")
    (h : word.toList.all isWordChar = true) :
    ∃ c cs, word.toList = c :: cs ∧ isBlank c = false := by
  obtain ⟨c, cs, hcons⟩ := List.exists_cons_of_ne_nil (l := word.toList) (by simpa using hne)
  exact ⟨c, cs, hcons, (isTrimmed_of_word h).head c (by simp [hcons])⟩

/-- A text that is a word is its own first word. -/
theorem firstWord?_of_word {word : String} (hne : word ≠ "")
    (h : word.toList.all isWordChar = true) : firstWord? word.toList = some word := by
  have hword : leadingWord (trimStart word.toList) = word.toList := by
    rw [trimStart_of_word h, leadingWord, List.takeWhile_eq_self_iff]
    exact List.all_eq_true.mp h
  have hnil : word.toList ≠ [] := by simpa using hne
  rw [firstWord?, hword]
  split
  · contradiction
  · rw [String.ofList_toList]

end PortfolioTerminal.Text
