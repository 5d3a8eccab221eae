/-
# Suggestions narrow

The suggestions for a text are the names of verbs that begin with it, lowered and without the blanks
in front.  As the text grows, suggestions drop out and none comes in.

Lowering alone does not give this.  A capital sigma is lowered by what comes behind it, so that a
longer text may be lowered to one that begins differently.  But the names are in ASCII, and what is
lowered to the beginning of a name holds no sigma: wherever lowering looks ahead, nothing is
suggested.
-/
import PortfolioTerminal.Proofs.Command.Words

namespace PortfolioTerminal

variable {text : String}

/-! ## One text -/

/-- For a text that is not blank, the vocabulary is filtered. -/
theorem suggest_eq_filter (h : Text.isAllBlank text = false) :
    suggest text = Verb.names.filter fun name =>
      (Text.lowerChars (Text.trimStart text.toList)).isPrefixOf name.toList := by
  have hstart : Text.lowerChars (Text.trimStart text.toList) ≠ [] := by
    rw [ne_eq, Text.lowerChars_eq_nil_iff, Text.trimStart_eq_nil_iff, h]
    exact Bool.false_ne_true
  rw [suggest]
  split
  · contradiction
  · rfl

theorem suggest_of_isAllBlank (h : Text.isAllBlank text = true) : suggest text = [] := by
  rw [suggest, Text.trimStart_eq_nil_iff.mpr h, Text.lowerChars_nil]

/-- Suggestions keep the order of the vocabulary. -/
theorem suggest_sublist_names (text : String) : (suggest text).Sublist Verb.names := by
  cases h : Text.isAllBlank text with
  | true =>
    rw [suggest_of_isAllBlank h]
    exact List.nil_sublist _
  | false =>
    rw [suggest_eq_filter h]
    exact List.filter_sublist

/-! ## A text and a longer one -/

/-- A name that begins with the longer text, lowered, begins with the shorter one, lowered. -/
theorem lowerChars_prefix_of_mem_names {cs more : List Char} {name : String}
    (hname : name ∈ Verb.names) (h : Text.lowerChars (cs ++ more) <+: name.toList) :
    Text.lowerChars cs <+: name.toList := by
  have hgraphic : ∀ c ∈ Text.lowerChars (cs ++ more), Text.isGraphic c = true := fun c hc =>
    List.all_eq_true.mp (Verb.isGraphic_of_mem_names name hname).1 c (h.subset hc)
  exact (Text.lowerFrom_prefix_of_isGraphic hgraphic).trans h

/-- For a longer text, the suggestions for the shorter one are filtered again. -/
theorem suggest_append (h : Text.isAllBlank text = false) (more : String) :
    suggest (text ++ more) = (suggest text).filter fun name =>
      (Text.lowerChars (Text.trimStart (text ++ more).toList)).isPrefixOf name.toList := by
  have hstart : Text.trimStart text.toList ≠ [] := by
    rw [ne_eq, Text.trimStart_eq_nil_iff, h]
    exact Bool.false_ne_true
  have hlonger : Text.isAllBlank (text ++ more) = false := by
    rw [Text.isAllBlank, String.toList_append, List.all_append, ← Text.isAllBlank, h,
      Bool.false_and]
  rw [suggest_eq_filter hlonger, suggest_eq_filter h, List.filter_filter, String.toList_append,
    Text.trimStart_append hstart]
  refine List.filter_congr fun name hname => ?_
  rw [Bool.eq_iff_iff, Bool.and_eq_true, List.isPrefixOf_iff_prefix, List.isPrefixOf_iff_prefix]
  exact ⟨fun hlong => ⟨hlong, lowerChars_prefix_of_mem_names hname hlong⟩, fun hboth => hboth.1⟩

/-- **Suggestions are exact and only narrow.**  They are names of the vocabulary, in its order and
without repetition, exactly those that begin with the text; a blank text has none.  Those for a
longer text are among those for a shorter one, in the same order, although a longer text need not be
lowered to a longer text. -/
theorem suggest_exact_and_narrows :
    (∀ text : String,
      (suggest text).Sublist Verb.names ∧ (suggest text).Nodup ∧
      (∀ name, name ∈ suggest text ↔ Text.isAllBlank text = false ∧ name ∈ Verb.names ∧
        Text.lowerChars (Text.trimStart text.toList) <+: name.toList) ∧
      (Text.isAllBlank text = true → suggest text = [])) ∧
    (∀ text more : String, Text.isAllBlank text = false →
      (suggest (text ++ more)).Sublist (suggest text)) ∧
    ∃ text more : String, Text.isAllBlank text = false ∧
      ¬ (Text.lowercase text).toList <+: (Text.lowercase (text ++ more)).toList := by
  refine ⟨fun text => ⟨suggest_sublist_names text, ?_, fun name => ?_, suggest_of_isAllBlank⟩,
    fun text more h => ?_, ?_⟩
  · exact Verb.names_nodup.sublist (suggest_sublist_names text)
  · rw [mem_suggest_iff, ne_eq, Text.trimStart_eq_nil_iff, Bool.not_eq_true]
  · rw [suggest_append h]
    exact List.filter_sublist
  · -- a sigma ends the shorter text and not the longer one
    exact ⟨"ΑΣ", "Α", by decide +kernel, by decide +kernel⟩

/-- A wide blank in front, a Kelvin sign for the letter, and a letter that the longer text adds. -/
theorem suggest_narrows_skills :
    Text.isAllBlank "\u3000S" = false ∧
      (suggest ("\u3000S" ++ "\u212aI")).Sublist (suggest "\u3000S") ∧
      "skills" ∈ suggest ("\u3000S" ++ "\u212aI") ∧
      Text.isAllBlank "\t\u2003" = true ∧ suggest "\t\u2003" = [] := by
  have hsome : Text.isAllBlank "\u3000S" = false := by decide +kernel
  have hnone : Text.isAllBlank "\t\u2003" = true := by decide +kernel
  obtain ⟨hexact, hnarrows, -⟩ := suggest_exact_and_narrows
  have hmem : "skills" ∈ suggest ("\u3000S" ++ "\u212aI") :=
    ((hexact _).2.2.1 "skills").mpr (by decide +kernel)
  exact ⟨hsome, hnarrows _ _ hsome, hmem, hnone, (hexact "\t\u2003").2.2.2 hnone⟩

end PortfolioTerminal
