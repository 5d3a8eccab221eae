/-
# JSON texts read back

A value that is written as a text and read again is the same value, whatever its texts and numbers
are.  The tokens of a value never put two words side by side, so the scanner gives them back; and
the machine that reads them finds the value at its end, in whatever containers it lies.
-/
import PortfolioTerminal.Json.Text
import PortfolioTerminal.Proofs.Json.Token

namespace PortfolioTerminal.Json

open Token (Apart)

/-! ## No two words are neighbours -/

theorem apart_of_not_isWord_left {t : Token} (h : t.isWord = false) (u : Token) : Apart t u := by
  simp [Apart, h]

theorem apart_of_not_isWord_right {u : Token} (h : u.isWord = false) (t : Token) : Apart t u := by
  simp [Apart, h]

/-- A token that is no word can stand in front of any others. -/
theorem isChain_cons_of_not_isWord {t : Token} (ht : t.isWord = false) {rest : List Token}
    (h : rest.IsChain Apart) : (t :: rest).IsChain Apart :=
  List.isChain_cons.mpr ⟨fun u _ => apart_of_not_isWord_left ht u, h⟩

/-- A word can stand in front of a token that is none. -/
theorem isChain_cons_of_head? {t : Token} {rest : List Token} (h : rest.IsChain Apart)
    (hhead : ∀ u ∈ rest.head?, u.isWord = false) : (t :: rest).IsChain Apart :=
  List.isChain_cons.mpr ⟨fun u hu => apart_of_not_isWord_right (hhead u hu) t, h⟩

mutual

/-- A value stands apart from what follows it, if that does not begin with a word. -/
theorem isChain_tokens_append : ∀ (j : Json) {rest : List Token}, rest.IsChain Apart →
    (∀ u ∈ rest.head?, u.isWord = false) → (j.tokens ++ rest).IsChain Apart
  | .null, _, h, hhead => isChain_cons_of_head? h hhead
  | .bool _, _, h, hhead => isChain_cons_of_head? h hhead
  | .number _, _, h, hhead => isChain_cons_of_head? h hhead
  | .string _, _, h, hhead => isChain_cons_of_head? h hhead
  | .array [], _, h, _ => isChain_cons_of_not_isWord rfl (isChain_cons_of_not_isWord rfl h)
  | .array (item :: items), rest, h, _ => by
    have hclose := isChain_cons_of_not_isWord (t := .closeArray) rfl h
    obtain ⟨hmore, hhead⟩ := isChain_moreItemTokens_append items hclose (by simp [Token.isWord])
    have hitem := isChain_tokens_append item hmore hhead
    simpa [tokens] using isChain_cons_of_not_isWord (t := .openArray) rfl hitem
  | .object [], _, h, _ => isChain_cons_of_not_isWord rfl (isChain_cons_of_not_isWord rfl h)
  | .object ((name, value) :: fields), rest, h, _ => by
    have hclose := isChain_cons_of_not_isWord (t := .closeObject) rfl h
    obtain ⟨hmore, hhead⟩ := isChain_moreFieldTokens_append fields hclose (by simp [Token.isWord])
    have hvalue := isChain_tokens_append value hmore hhead
    have hcolon := isChain_cons_of_not_isWord (t := .colon) rfl hvalue
    have hname := isChain_cons_of_not_isWord (t := .string name) rfl hcolon
    simpa [tokens] using isChain_cons_of_not_isWord (t := .openObject) rfl hname

/-- Further items begin with a comma, and so they do not run into a word before them. -/
theorem isChain_moreItemTokens_append : ∀ (items : List Json) {rest : List Token},
    rest.IsChain Apart → (∀ u ∈ rest.head?, u.isWord = false) →
      (moreItemTokens items ++ rest).IsChain Apart ∧
        ∀ u ∈ (moreItemTokens items ++ rest).head?, u.isWord = false
  | [], _, h, hhead => ⟨h, hhead⟩
  | item :: items, rest, h, hhead => by
    obtain ⟨hmore, hhead'⟩ := isChain_moreItemTokens_append items h hhead
    have hitem := isChain_tokens_append item hmore hhead'
    refine ⟨?_, by simp [moreItemTokens, Token.isWord]⟩
    simpa [moreItemTokens] using isChain_cons_of_not_isWord (t := .comma) rfl hitem

/-- Further fields begin with a comma as well. -/
theorem isChain_moreFieldTokens_append : ∀ (fields : List (JsonText × Json)) {rest : List Token},
    rest.IsChain Apart → (∀ u ∈ rest.head?, u.isWord = false) →
      (moreFieldTokens fields ++ rest).IsChain Apart ∧
        ∀ u ∈ (moreFieldTokens fields ++ rest).head?, u.isWord = false
  | [], _, h, hhead => ⟨h, hhead⟩
  | (name, value) :: fields, rest, h, hhead => by
    obtain ⟨hmore, hhead'⟩ := isChain_moreFieldTokens_append fields h hhead
    have hvalue := isChain_tokens_append value hmore hhead'
    have hcolon := isChain_cons_of_not_isWord (t := .colon) rfl hvalue
    have hname := isChain_cons_of_not_isWord (t := .string name) rfl hcolon
    refine ⟨?_, by simp [moreFieldTokens, Token.isWord]⟩
    simpa [moreFieldTokens] using isChain_cons_of_not_isWord (t := .comma) rfl hname

end

/-- The tokens of a value can be written without anything between them. -/
theorem isChain_tokens (j : Json) : j.tokens.IsChain Apart := by
  simpa using isChain_tokens_append j List.isChain_nil (by simp)

/-! ## The machine -/

mutual

/-- Where a value is expected, the machine reads the tokens of a value as the value. -/
theorem foldlM_step_tokens : ∀ (j : Json) (frames : List Frame) (rest : List Token),
    (j.tokens ++ rest).foldlM Machine.step ⟨frames, .value⟩ =
      rest.foldlM Machine.step ⟨frames, .after j⟩
  | .null, _, _ => rfl
  | .bool _, _, _ => rfl
  | .number _, _, _ => rfl
  | .string _, _, _ => rfl
  | .array [], _, _ => rfl
  | .array (item :: items), frames, rest => by
    have hitem := foldlM_step_tokens item (.array [] :: frames)
      (moreItemTokens items ++ .closeArray :: rest)
    have hmore := foldlM_step_moreItemTokens items frames [] item rest
    simpa [tokens, Machine.step, Machine.stepValue] using hitem.trans hmore
  | .object [], _, _ => rfl
  | .object ((name, value) :: fields), frames, rest => by
    have hvalue := foldlM_step_tokens value (.object [] name :: frames)
      (moreFieldTokens fields ++ .closeObject :: rest)
    have hmore := foldlM_step_moreFieldTokens fields frames [] name value rest
    simpa [tokens, Machine.step, Machine.stepValue] using hvalue.trans hmore

/-- After an item of an array, further items and its end make the array. -/
theorem foldlM_step_moreItemTokens : ∀ (items : List Json) (frames : List Frame)
    (seen : List Json) (item : Json) (rest : List Token),
    (moreItemTokens items ++ .closeArray :: rest).foldlM Machine.step
        ⟨.array seen :: frames, .after item⟩ =
      rest.foldlM Machine.step ⟨frames, .after (.array (seen.reverse ++ item :: items))⟩
  | [], _, _, _, _ => by
    simp [moreItemTokens, Machine.step, Machine.stepAfter]
  | next :: items, frames, seen, item, rest => by
    have hnext := foldlM_step_tokens next (.array (item :: seen) :: frames)
      (moreItemTokens items ++ .closeArray :: rest)
    have hmore := foldlM_step_moreItemTokens items frames (item :: seen) next rest
    simpa [moreItemTokens, Machine.step, Machine.stepAfter] using hnext.trans hmore

/-- After a field of an object, further fields and its end make the object. -/
theorem foldlM_step_moreFieldTokens : ∀ (fields : List (JsonText × Json)) (frames : List Frame)
    (seen : List (JsonText × Json)) (name : JsonText) (value : Json) (rest : List Token),
    (moreFieldTokens fields ++ .closeObject :: rest).foldlM Machine.step
        ⟨.object seen name :: frames, .after value⟩ =
      rest.foldlM Machine.step
        ⟨frames, .after (.object (seen.reverse ++ (name, value) :: fields))⟩
  | [], _, _, _, _, _ => by
    simp [moreFieldTokens, Machine.step, Machine.stepAfter]
  | (next, other) :: fields, frames, seen, name, value, rest => by
    have hother := foldlM_step_tokens other (.object ((name, value) :: seen) next :: frames)
      (moreFieldTokens fields ++ .closeObject :: rest)
    have hmore := foldlM_step_moreFieldTokens fields frames ((name, value) :: seen) next other rest
    simpa [moreFieldTokens, Machine.step, Machine.stepAfter] using hother.trans hmore

end

/-- The tokens of a value are read as the value. -/
theorem ofTokens?_tokens (j : Json) : ofTokens? j.tokens = some j := by
  have hread := foldlM_step_tokens j [] []
  rw [List.append_nil] at hread
  rw [ofTokens?, hread]
  rfl

/-- **A value is read back from its text.** -/
theorem read?_write (j : Json) : read? j.write = some j := by
  rw [read?, write, String.toList_ofList, Token.scan?_flatMap_write j.isChain_tokens,
    Option.bind_some, ofTokens?_tokens]

end PortfolioTerminal.Json
