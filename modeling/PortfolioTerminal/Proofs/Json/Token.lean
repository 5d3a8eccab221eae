/-
# Tokens read back

A token that is written and scanned again is the same token.  The scanner keeps what it has seen of
a word or of a literal, so each kind of token is followed through these states: the characters of a
literal one by one, and a word up to the character that ends it.

A word ends only where a character follows that cannot be part of a word.  Two words in a row would
run together, and so a sequence of tokens is read back if no two neighbours in it are words.
-/
import Mathlib.Data.List.Chain
import PortfolioTerminal.Json.Token

namespace PortfolioTerminal

open Scanner (isSeparator isWordChar stepBetween)

/-! ## Steps of the scanner -/

namespace Scanner

variable {s : Scanner} {tokens : List Token} {c : Char}

@[simp] theorem steps_nil (s : Scanner) : s.steps [] = some s := rfl

@[simp] theorem steps_cons (s : Scanner) (c : Char) (cs : List Char) :
    s.steps (c :: cs) = (s.step c).bind fun t => t.steps cs := rfl

theorem steps_append (s : Scanner) (before after : List Char) :
    s.steps (before ++ after) = (s.steps before).bind fun t => t.steps after := by
  rw [steps, List.foldlM_append]
  rfl

/-- A character of a word separates nothing and does not begin a literal. -/
theorem stepBetween_of_isWordChar (h : isWordChar c = true) :
    stepBetween tokens c = some ⟨tokens, .word [c]⟩ := by
  have hseparator : isSeparator c = false := by
    by_contra hc
    simp only [isSeparator, Bool.not_eq_false, Bool.or_eq_true, beq_iff_eq] at hc
    rcases hc with ((rfl | rfl) | rfl) | rfl <;> revert h <;> decide
  have hquote : c ≠ '"' := by
    rintro rfl
    revert h
    decide
  rw [stepBetween, hseparator, if_neg Bool.false_ne_true, if_neg hquote, if_pos h]

/-- The characters of a word are collected. -/
theorem steps_word {word seen : List Char} (h : ∀ c ∈ word, isWordChar c = true) :
    (⟨tokens, .word seen⟩ : Scanner).steps word = some ⟨tokens, .word (word.reverse ++ seen)⟩ := by
  induction word generalizing seen with
  | nil => rfl
  | cons c word ih =>
    have hc : (⟨tokens, .word seen⟩ : Scanner).step c = some ⟨tokens, .word (c :: seen)⟩ :=
      if_pos (h c List.mem_cons_self)
    rw [steps_cons, hc, Option.bind_some, ih fun c' hc' => h c' (List.mem_cons_of_mem _ hc'),
      List.reverse_cons, List.append_assoc, List.singleton_append]

/-- A character that cannot be part of a word is read after the word before it has ended. -/
theorem step_of_not_isWordChar (hend : s.endWord? = some tokens) (hc : isWordChar c = false) :
    s.step c = stepBetween tokens c := by
  obtain ⟨ended, state⟩ := s
  cases state with
  | between =>
    obtain rfl : ended = tokens := Option.some.inj hend
    rfl
  | word seen => simp [step, hc, hend]
  | _ => contradiction

end Scanner

namespace Token

/-! ## String literals -/

theorem hexDigit?_digitChar : ∀ d < 16, hexDigit? (Nat.digitChar d) = some d := by decide

/-- The four digits of an escaped unit are read as the unit. -/
theorem steps_hexUnit {u : Nat} (h : u < 65536) (tokens : List Token) (seen : List TextPiece) :
    (⟨tokens, .unit seen 0 0⟩ : Scanner).steps (hexUnit u) =
      some ⟨tokens, .quoted (.unit u :: seen)⟩ := by
  have hvalue : 16 * (16 * (16 * (u / 4096 % 16) + u / 256 % 16) + u / 16 % 16) + u % 16 = u := by
    omega
  have hdigit (d : Nat) : hexDigit? (Nat.digitChar (d % 16)) = some (d % 16) :=
    hexDigit?_digitChar _ (Nat.mod_lt d (by decide))
  simp [hexUnit, Scanner.step, hdigit, hvalue]

/-- A written character is read as one part of a literal, which spells the character. -/
theorem exists_piece_of_writeChar (c : Char) :
    ∃ piece, (∀ tokens seen, (⟨tokens, .quoted seen⟩ : Scanner).steps (writeChar c) =
        some ⟨tokens, .quoted (piece :: seen)⟩) ∧
      ∀ rest, spell? (piece :: rest) = (spell? rest).map (c :: ·) := by
  have hchar (n : Nat) (h : c.toNat = n) : c = Char.ofNat n := by rw [← h, Char.ofNat_toNat]
  by_cases hcontrol : c.toNat < 32 ∧ c ≠ '\n' ∧ c ≠ '\r' ∧ c ≠ '\t' ∧ c.toNat ≠ 8 ∧ c.toNat ≠ 12
  · -- a control character without a short escape is written as a unit
    obtain ⟨hlt, hn, hr, ht, h8, h12⟩ := hcontrol
    have hquote : c ≠ '"' := by rintro rfl; revert hlt; decide
    have hslash : c ≠ '\\' := by rintro rfl; revert hlt; decide
    refine ⟨.unit c.toNat, fun tokens seen => ?_, fun rest => ?_⟩
    · have hunit := steps_hexUnit (show c.toNat < 65536 by omega) tokens seen
      simp [writeChar, hquote, hslash, hn, hr, ht, h8, h12, hlt, Scanner.step, hunit]
    · have hhigh : isHighSurrogate c.toNat = false := by simp [isHighSurrogate]; omega
      have hlow : isLowSurrogate c.toNat = false := by simp [isLowSurrogate]; omega
      rw [spell?.eq_def]
      simp [hhigh, hlow]
  · refine ⟨.char c, fun tokens seen => ?_, fun rest => rfl⟩
    unfold writeChar
    split_ifs with hquote hslash hn hr ht h8 h12 hlt
    · subst hquote; rfl
    · subst hslash; rfl
    · subst hn; rfl
    · subst hr; rfl
    · subst ht; rfl
    · rw [hchar 8 h8]; rfl
    · rw [hchar 12 h12]; rfl
    · exact absurd ⟨hlt, hn, hr, ht, h8, h12⟩ hcontrol
    · simp [Scanner.step, hquote, hslash, hlt]

/-- The written characters of a text are read as parts that spell the text. -/
theorem exists_pieces_of_writeChars (cs : List Char) :
    ∃ pieces, (∀ tokens seen, (⟨tokens, .quoted seen⟩ : Scanner).steps (cs.flatMap writeChar) =
        some ⟨tokens, .quoted (pieces.reverse ++ seen)⟩) ∧
      spell? pieces = some cs := by
  induction cs with
  | nil => exact ⟨[], fun _ _ => rfl, rfl⟩
  | cons c cs ih =>
    obtain ⟨piece, hread, hspell⟩ := exists_piece_of_writeChar c
    obtain ⟨pieces, hreads, hspells⟩ := ih
    refine ⟨piece :: pieces, fun tokens seen => ?_, ?_⟩
    · rw [List.flatMap_cons, Scanner.steps_append, hread, Option.bind_some, hreads,
        List.reverse_cons, List.append_assoc, List.singleton_append]
    · rw [hspell, hspells, Option.map_some]

/-- A written literal is read as its text. -/
theorem steps_writeText (tokens : List Token) (text : JsonText) :
    (⟨tokens, .between⟩ : Scanner).steps (writeText text) =
      some ⟨.string text :: tokens, .between⟩ := by
  cases text with
  | none => rfl
  | some text =>
    obtain ⟨pieces, hread, hspell⟩ := exists_pieces_of_writeChars text.toList
    have hopen : (⟨tokens, .between⟩ : Scanner).step '"' = some ⟨tokens, .quoted []⟩ := rfl
    rw [writeText, List.cons_append, Scanner.steps_cons, hopen, Option.bind_some,
      Scanner.steps_append, hread, Option.bind_some]
    simp [Scanner.step, hspell]

/-! ## Numbers -/

theorem isDigit_of_mem_writeNat {n : Nat} {c : Char} (h : c ∈ writeNat n) : c.isDigit = true :=
  Nat.isDigit_of_mem_toDigits (by decide) (by decide) h

theorem natOfDigits_writeNat (n : Nat) : natOfDigits (writeNat n) = n :=
  Nat.ofDigitChars_ten_toDigits

/-- Only zero is written with a zero in front. -/
theorem eq_zero_of_head?_writeNat {n : Nat} (h : (writeNat n).head? = some '0') : n = 0 := by
  have hdigit : ∀ d < 10, [Nat.digitChar d].head? = some '0' → d = 0 := by decide
  induction n using Nat.strongRecOn with
  | ind n ih =>
    by_cases hn : n < 10
    · rw [writeNat, Nat.toDigits_of_lt_base hn] at h
      exact hdigit n hn h
    · -- the leading digit is that of the number without its last digit
      have hpos : 0 < n / 10 := Nat.div_pos (by omega) (by decide)
      have hsplit := Nat.toDigits_append_toDigits (b := 10) (by decide) hpos
        (Nat.mod_lt n (by decide))
      rw [Nat.div_add_mod] at hsplit
      rw [writeNat, ← hsplit, List.head?_append_of_ne_nil _ Nat.toDigits_ne_nil] at h
      have := ih (n / 10) (Nat.div_lt_self (by omega) (by decide)) h
      omega

/-- The digits of a written number are cut off up to a character that is no digit. -/
theorem digits?_writeNat_append (n : Nat) (rest : List Char)
    (hrest : ∀ c ∈ rest.head?, c.isDigit = false) :
    digits? (writeNat n ++ rest) = some (writeNat n, rest) := by
  have hall : ∀ c ∈ writeNat n, c.isDigit = true := fun c => isDigit_of_mem_writeNat
  have htake : rest.takeWhile Char.isDigit = [] := by
    cases rest with
    | nil => rfl
    | cons c rest => exact List.takeWhile_cons_of_neg (by simp [hrest c rfl])
  have hdrop : rest.dropWhile Char.isDigit = rest := by
    cases rest with
    | nil => rfl
    | cons c rest => exact List.dropWhile_cons_of_neg (by simp [hrest c rfl])
  rw [digits?, List.takeWhile_append_of_pos hall, List.dropWhile_append_of_pos hall, htake, hdrop,
    List.append_nil]
  cases hn : writeNat n with
  | nil => exact absurd hn Nat.toDigits_ne_nil
  | cons c cs => rfl

/-- A written number is a whole part. -/
theorem wholePart?_writeNat_append (n : Nat) (rest : List Char)
    (hrest : ∀ c ∈ rest.head?, c.isDigit = false) :
    wholePart? (writeNat n ++ rest) = some (writeNat n, rest) := by
  rw [wholePart?, digits?_writeNat_append n rest hrest]
  split
  · rename_i c cs more h
    -- a zero stands in front of zero alone
    have hdigits : writeNat n = '0' :: c :: cs := (Prod.mk.inj (Option.some.inj h)).1
    obtain rfl := eq_zero_of_head?_writeNat (n := n) (by rw [hdigits]; rfl)
    simp [writeNat] at hdigits
  · rfl

/-- The first character of a written number is a digit. -/
theorem exists_writeNat_eq_cons (n : Nat) : ∃ c cs, writeNat n = c :: cs ∧ c.isDigit = true := by
  obtain ⟨c, cs, h⟩ := List.exists_cons_of_ne_nil (Nat.toDigits_ne_nil (n := n) (b := 10))
  exact ⟨c, cs, h, isDigit_of_mem_writeNat (h ▸ List.mem_cons_self)⟩

/-- The digits of a written exponent are those of its absolute value, after its sign. -/
theorem exponent?_write (exponent : Int) :
    exponent? ('e' :: ((if exponent < 0 then ['-'] else []) ++ writeNat exponent.natAbs)) =
      some exponent := by
  have hdigits := digits?_writeNat_append exponent.natAbs [] (by simp)
  rw [List.append_nil] at hdigits
  by_cases hneg : exponent < 0
  · have habs : -(exponent.natAbs : Int) = exponent := by omega
    have hvalue : exponent? ('e' :: '-' :: writeNat exponent.natAbs) =
        some (-(exponent.natAbs : Int)) := by
      simp [exponent?, hdigits, natOfDigits_writeNat]
    rw [if_pos hneg, List.singleton_append, hvalue, habs]
  · have habs : (exponent.natAbs : Int) = exponent := by omega
    obtain ⟨c, cs, hcons, hc⟩ := exists_writeNat_eq_cons exponent.natAbs
    have hminus : c ≠ '-' := by rintro rfl; revert hc; decide
    have hplus : c ≠ '+' := by rintro rfl; revert hc; decide
    have hnatOf := natOfDigits_writeNat exponent.natAbs
    rw [if_neg hneg, List.nil_append]
    rw [hcons] at hdigits hnatOf ⊢
    have hvalue : exponent? ('e' :: c :: cs) = some (exponent.natAbs : Int) := by
      simp [exponent?, hminus, hplus, hdigits, hnatOf]
    rw [hvalue, habs]

/-- A written number is read back. -/
theorem number?_writeNumber (n : JsonNumber) : number? (writeNumber n) = some n := by
  cases n with
  | natural n =>
    obtain ⟨c, cs, hcons, hc⟩ := exists_writeNat_eq_cons n
    have hminus : c ≠ '-' := by rintro rfl; revert hc; decide
    have hwhole := wholePart?_writeNat_append n [] (by simp)
    have hnatOf := natOfDigits_writeNat n
    rw [List.append_nil] at hwhole
    rw [writeNumber]
    rw [hcons] at hwhole hnatOf ⊢
    simp [number?, hminus, hwhole, hnatOf]
  | decimal negative digits exponent =>
    let rest := 'e' :: ((if exponent < 0 then ['-'] else []) ++ writeNat exponent.natAbs)
    have hrest : ∀ c ∈ rest.head?, c.isDigit = false := by
      intro c hc
      obtain rfl : 'e' = c := Option.some.inj hc
      decide
    have hword : writeNumber (.decimal negative digits exponent) =
        (if negative then ['-'] else []) ++ (writeNat digits ++ rest) := by
      simp [writeNumber, rest]
    have hwhole := wholePart?_writeNat_append digits rest hrest
    have hnatOf := natOfDigits_writeNat digits
    have hfraction : fraction? rest = some ([], rest) := rfl
    have hexponent : exponent? rest = some exponent := exponent?_write exponent
    have hne : rest ≠ [] := List.cons_ne_nil _ _
    rw [hword]
    cases negative with
    | true =>
      rw [if_pos rfl, List.singleton_append]
      simp [number?, hwhole, hfraction, hexponent, hnatOf]
    | false =>
      obtain ⟨c, cs, hcons, hc⟩ := exists_writeNat_eq_cons digits
      have hminus : c ≠ '-' := by rintro rfl; revert hc; decide
      rw [if_neg Bool.false_ne_true, List.nil_append]
      rw [hcons, List.cons_append] at hwhole ⊢
      rw [hcons] at hnatOf
      simp [number?, hminus, hwhole, hfraction, hexponent, hne, hnatOf]

/-! ## Words -/

/-- Whether a token is a word, which ends only where a character follows that no word can hold. -/
def isWord : Token → Bool
  | null | bool _ | number _ => true
  | _ => false

/-- At most one of two tokens is a word, so that they do not run together. -/
def Apart (a b : Token) : Prop := ¬ (a.isWord = true ∧ b.isWord = true)

theorem isDigit_or_sign_of_mem_writeNumber {n : JsonNumber} {c : Char} (h : c ∈ writeNumber n) :
    c.isDigit = true ∨ c = '-' ∨ c = 'e' := by
  cases n with
  | natural n => exact Or.inl (isDigit_of_mem_writeNat h)
  | decimal negative digits exponent =>
    simp only [writeNumber, List.mem_append, List.mem_singleton, List.mem_ite_nil_right] at h
    rcases h with (((⟨-, h⟩ | h) | h) | ⟨-, h⟩) | h
    · exact Or.inr (Or.inl h)
    · exact Or.inl (isDigit_of_mem_writeNat h)
    · exact Or.inr (Or.inr h)
    · exact Or.inr (Or.inl h)
    · exact Or.inl (isDigit_of_mem_writeNat h)

/-- A number is no word of letters. -/
theorem ofWord?_writeNumber (n : JsonNumber) : ofWord? (writeNumber n) = some (.number n) := by
  have hletter (c : Char) (hc : ¬ (c.isDigit = true ∨ c = '-' ∨ c = 'e')) {word : List Char}
      (hmem : c ∈ word) (hword : writeNumber n = word) : False :=
    hc (isDigit_or_sign_of_mem_writeNumber (hword ▸ hmem))
  unfold ofWord?
  split
  · rename_i hword
    exact (hletter 'n' (by decide) (by decide) hword).elim
  · rename_i hword
    exact (hletter 't' (by decide) (by decide) hword).elim
  · rename_i hword
    exact (hletter 'f' (by decide) (by decide) hword).elim
  · rw [number?_writeNumber, Option.map_some]

/-- A written word is read as the word. -/
theorem ofWord?_write {t : Token} (h : t.isWord = true) : ofWord? t.write = some t := by
  cases t with
  | null => rfl
  | bool b => cases b <;> rfl
  | number n => exact ofWord?_writeNumber n
  | _ => contradiction

/-- A written word holds nothing but characters of words. -/
theorem isWordChar_of_mem_write {t : Token} (h : t.isWord = true) :
    ∀ c ∈ t.write, isWordChar c = true := by
  cases t with
  | null => exact List.all_eq_true.mp (by decide)
  | bool b => cases b <;> exact List.all_eq_true.mp (by decide)
  | number n =>
    intro c hc
    rcases isDigit_or_sign_of_mem_writeNumber hc with hdigit | rfl | rfl
    · simp [isWordChar, Char.isAlphanum, hdigit]
    · decide
    · decide
  | _ => contradiction

theorem write_ne_nil (t : Token) : t.write ≠ [] := by
  cases t with
  | bool b => cases b <;> exact List.cons_ne_nil _ _
  | number n =>
    intro hnil
    have hread := number?_writeNumber n
    rw [show writeNumber n = [] from hnil] at hread
    contradiction
  | string s => cases s <;> exact List.cons_ne_nil _ _
  | _ => exact List.cons_ne_nil _ _

/-! ## Sequences of tokens -/

/-- Between tokens, a written token is read as the token, and if it is no word it has ended. -/
theorem steps_write (tokens : List Token) (t : Token) :
    ∃ s, (⟨tokens, .between⟩ : Scanner).steps t.write = some s ∧ s.endWord? = some (t :: tokens) ∧
      (t.isWord = false → s.state = .between) := by
  by_cases hword : t.isWord = true
  · obtain ⟨c, cs, hcons⟩ := List.exists_cons_of_ne_nil t.write_ne_nil
    have hall := isWordChar_of_mem_write hword
    have hread := ofWord?_write hword
    rw [hcons] at hall hread
    have hfirst : (⟨tokens, .between⟩ : Scanner).step c = some ⟨tokens, .word [c]⟩ :=
      Scanner.stepBetween_of_isWordChar (hall c List.mem_cons_self)
    refine ⟨⟨tokens, .word (cs.reverse ++ [c])⟩, ?_, ?_, by simp [hword]⟩
    · rw [hcons, Scanner.steps_cons, hfirst, Option.bind_some,
        Scanner.steps_word fun c' hc' => hall c' (List.mem_cons_of_mem _ hc')]
    · simp [Scanner.endWord?, hread]
  · -- all other tokens are literals or single characters
    refine ⟨⟨t :: tokens, .between⟩, ?_, rfl, fun _ => rfl⟩
    cases t with
    | string s => exact steps_writeText tokens s
    | null => exact absurd rfl hword
    | bool b => exact absurd rfl hword
    | number n => exact absurd rfl hword
    | _ => rfl

/-- A token that is no word is read after the word before it has ended. -/
theorem steps_write_of_not_isWord {s : Scanner} {tokens : List Token} {t : Token}
    (hend : s.endWord? = some tokens) (ht : t.isWord = false) :
    s.steps t.write = (⟨tokens, .between⟩ : Scanner).steps t.write := by
  have hfirst : ∃ c cs, t.write = c :: cs ∧ isWordChar c = false := by
    cases t with
    | string s => cases s <;> exact ⟨_, _, rfl, by decide⟩
    | null => contradiction
    | bool b => contradiction
    | number n => contradiction
    | _ => exact ⟨_, _, rfl, by decide⟩
  obtain ⟨c, cs, hcons, hc⟩ := hfirst
  have hbetween : (⟨tokens, .between⟩ : Scanner).step c = stepBetween tokens c := rfl
  rw [hcons, Scanner.steps_cons, Scanner.steps_cons, Scanner.step_of_not_isWordChar hend hc,
    hbetween]

/-- A sequence of tokens is read as the sequence if no two neighbours are words, and neither are its
first token and a word that is being read before it. -/
theorem steps_flatMap_write {tokens seen : List Token} {s : Scanner} (h : tokens.IsChain Apart)
    (hend : s.endWord? = some seen)
    (hfirst : s.state = .between ∨ ∀ t ∈ tokens.head?, t.isWord = false) :
    ∃ s', s.steps (tokens.flatMap write) = some s' ∧
      s'.endWord? = some (tokens.reverse ++ seen) := by
  induction tokens generalizing s seen with
  | nil => exact ⟨s, rfl, hend⟩
  | cons t tokens ih =>
    have hstart : s.steps t.write = (⟨seen, .between⟩ : Scanner).steps t.write := by
      rcases hfirst with hstate | hword
      · obtain ⟨ended, state⟩ := s
        obtain rfl : state = .between := hstate
        obtain rfl : ended = seen := Option.some.inj hend
        rfl
      · exact steps_write_of_not_isWord hend (hword t rfl)
    obtain ⟨s', hsteps, hend', hstate⟩ := steps_write seen t
    rw [List.isChain_cons] at h
    have hnext : s'.state = .between ∨ ∀ u ∈ tokens.head?, u.isWord = false := by
      cases ht : t.isWord with
      | false => exact Or.inl (hstate ht)
      | true =>
        refine Or.inr fun u hu => ?_
        have hapart : Apart t u := h.1 u hu
        simpa [Apart, ht] using hapart
    obtain ⟨s'', hsteps', hend''⟩ := ih h.2 hend' hnext
    refine ⟨s'', ?_, by simpa using hend''⟩
    rw [List.flatMap_cons, Scanner.steps_append, hstart, hsteps, Option.bind_some, hsteps']

/-- **The scanner reads back what is written**, if no two neighbours are words. -/
theorem scan?_flatMap_write {tokens : List Token} (h : tokens.IsChain Apart) :
    scan? (tokens.flatMap write) = some tokens := by
  obtain ⟨s, hsteps, hend⟩ := steps_flatMap_write (s := {}) h rfl (Or.inl rfl)
  rw [scan?, hsteps, Option.bind_some, hend, Option.map_some]
  simp

/-- Without anything between them two words run together. -/
example : scan? ([Token.null, .number (.natural 1)].flatMap write) = none := by decide

end Token

end PortfolioTerminal
