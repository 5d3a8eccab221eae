/-
# One vocabulary

Three places know the words that the terminal understands: the manual, which names them in order;
the reading of a line, which goes through the classes of commands one after the other; and the
suggestions.  They know the same words.

Of the classes, the sections are asked for in any case of the letters A to Z, after the word has
been lowered in full.  The two ways to disregard case do not add up to a third: a lowered word has
no capitals left.
-/
import PortfolioTerminal.Command
import PortfolioTerminal.Manual
import PortfolioTerminal.Proofs.Text.Blank
import PortfolioTerminal.Proofs.Text.Lowercase
import PortfolioTerminal.SuggestionPane

namespace PortfolioTerminal

/-! ## Words class by class -/

namespace Verb

/-- The verb of a word that neither is `clear` nor names a section. -/
def ofOtherWord? : String → Option Verb
  | "edit" => some (.edit .edit)
  | "nano" => some (.edit .nano)
  | "vim" => some (.edit .vim)
  | "help" => some (.info .help)
  | "social" => some (.info .social)
  | "whoami" => some (.info .whoami)
  | "date" => some (.info .date)
  | "history" => some (.info .history)
  | "pwd" => some (.info .pwd)
  | "ls" => some .ls
  | "cd" => some .cd
  | "cat" => some .cat
  | "echo" => some .echo
  | "man" => some .man
  | "coffee" => some (.decoration .coffee)
  | "joke" => some (.decoration .joke)
  | "launch_portfolio" => some (.decoration .launchPortfolio)
  | "3d_portfolio" => some (.decoration .portfolio3d)
  | "exit" => some (.decoration .exit)
  | _ => none

/-- The verb of a word, class by class: `clear` first, then the names of the sections in any case of
the letters A to Z, then every other word as it stands. -/
def ofWord? (word : String) : Option Verb :=
  if word = "clear" then some .clear
  else (Section.ofName? word).elim (ofOtherWord? word) fun target => some (.goTo target)

theorem name_of_ofOtherWord? {word : String} {v : Verb} (h : ofOtherWord? word = some v) :
    v.name = word := by
  unfold ofOtherWord? at h
  split at h <;> cases h <;> rfl

theorem ofWord?_name (v : Verb) : ofWord? v.name = some v := by
  have hall : ∀ v ∈ all, ofWord? v.name = some v := by decide +kernel
  exact hall v (mem_all v)

/-- On lowered words the classes know exactly the names of the verbs. -/
theorem ofWord?_lowercase_eq_some_iff {s : String} {v : Verb} :
    ofWord? (Text.lowercase s) = some v ↔ v.name = Text.lowercase s := by
  constructor
  · intro h
    unfold ofWord? at h
    split at h
    · rename_i hclear
      rw [hclear, ← Option.some.inj h]
      rfl
    · cases htarget : Section.ofName? (Text.lowercase s) with
      | none =>
        rw [htarget, Option.elim_none] at h
        exact name_of_ofOtherWord? h
      | some target =>
        -- no capitals are left that the looser comparison could disregard
        rw [htarget, Option.elim_some] at h
        have hlower : target.name.toList.map Char.toLower = target.name.toList := by
          cases target <;> decide
        have hsame : Text.sameLetters target.name (Text.lowercase s) = true := by
          rw [Section.ofName?] at htarget
          simpa using List.find?_some htarget
        rw [← Option.some.inj h, ← (Text.sameLetters_lowercase hlower s).mp hsame]
        rfl
  · intro h
    rw [← h, ofWord?_name]

/-! ## Words of the vocabulary -/

theorem ofName?_eq_some_iff {word : String} {v : Verb} : ofName? word = some v ↔ v.name = word := by
  constructor
  · intro h
    simpa using List.find?_some h
  · rintro rfl
    have hall : ∀ v ∈ all, ofName? v.name = some v := by decide +kernel
    exact hall v (mem_all v)

theorem ofName?_eq_none_iff {word : String} : ofName? word = none ↔ word ∉ names := by
  simp [ofName?, names, List.find?_eq_none]

/-- On lowered words, going through the classes is looking into the vocabulary. -/
theorem ofWord?_lowercase (s : String) : ofWord? (Text.lowercase s) = ofName? (Text.lowercase s) :=
  Option.ext fun _ => ofWord?_lowercase_eq_some_iff.trans ofName?_eq_some_iff.symm

theorem command_ne_unknown (v : Verb) (rest : List Char) (typed : String) :
    v.command rest ≠ .unknown typed := by
  cases v <;> simp [command]

end Verb

/-- The pages of the manual are named as the vocabulary has it. -/
theorem Manual.map_name_pages : pages.map ManualPage.name = Verb.names := by
  simp [pages, Verb.names, ManualPage.name, Function.comp_def]

/-! ## Suggestions -/

/-- What is suggested for a text that is not blank are the names that begin with it, lowered. -/
theorem mem_suggest_iff {text name : String} :
    name ∈ suggest text ↔ Text.trimStart text.toList ≠ [] ∧ name ∈ Verb.names ∧
      Text.lowerChars (Text.trimStart text.toList) <+: name.toList := by
  unfold suggest
  split
  · rename_i hnil
    simp [Text.lowerChars_eq_nil_iff.mp hnil]
  · rename_i hne
    have htext : Text.trimStart text.toList ≠ [] := fun hnil => by
      rw [hnil] at hne
      exact hne rfl
    simp [htext]

/-- A word is suggested in full exactly if it is in the vocabulary. -/
theorem lowercase_mem_suggest_iff {word : String} (hne : word ≠ "")
    (h : word.toList.all Text.isWordChar = true) :
    Text.lowercase word ∈ suggest word ↔ Text.lowercase word ∈ Verb.names := by
  have hnil : word.toList ≠ [] := by simpa using hne
  rw [mem_suggest_iff, Text.trimStart_of_word h]
  simp [hnil, Text.lowercase]

/-! ## Lines -/

namespace Command

/-- A line is read by looking up its first word in the vocabulary. -/
theorem parse_eq (line : String) :
    parse line =
      (Verb.ofName? (Text.lowercase ((Text.firstWord? line.toList).getD ""))).elim
        (.unknown ((Text.firstWord? line.toList).getD ""))
        fun v => v.command (Text.afterLeadingWord (Text.trim line.toList)) := by
  rw [← Text.leadingWord_trim, parse]
  cases Verb.ofName? (Text.lowercase (String.ofList (Text.leadingWord (Text.trim line.toList)))) <;>
    rfl

theorem exists_parse_eq_unknown_iff (line : String) :
    (∃ typed, parse line = .unknown typed) ↔
      Text.lowercase ((Text.firstWord? line.toList).getD "") ∉ Verb.names := by
  rw [parse_eq, ← Verb.ofName?_eq_none_iff]
  cases Verb.ofName? (Text.lowercase ((Text.firstWord? line.toList).getD "")) with
  | none => simp
  | some v => simp [Verb.command_ne_unknown]

/-- **The terminal has one vocabulary.**  The pages of the manual have its names; a line whose first
word is among them in lower case is read as the command that the classes know, and any other line as
an unknown command with the word as typed; and the words among them are those that are suggested in
full. -/
theorem parse_vocabulary :
    Manual.pages.map ManualPage.name = Verb.names ∧
    (∀ line : String,
      let word := (Text.firstWord? line.toList).getD ""
      let lowered := Text.lowercase word
      (parse line = (Verb.ofWord? lowered).elim (.unknown word) fun v =>
        v.command (Text.afterLeadingWord (Text.trim line.toList))) ∧
      ((∃ typed, parse line = .unknown typed) ↔ lowered ∉ Verb.names) ∧
      (lowered ∉ Verb.names → parse line = .unknown word)) ∧
    ∀ word : String, word ≠ "" → word.toList.all Text.isWordChar = true →
      ((∀ typed, parse word ≠ .unknown typed) ↔ Text.lowercase word ∈ suggest word) := by
  refine ⟨Manual.map_name_pages, fun line => ⟨?_, exists_parse_eq_unknown_iff line, ?_⟩, ?_⟩
  · rw [Verb.ofWord?_lowercase, parse_eq]
  · intro hnew
    rw [parse_eq, Verb.ofName?_eq_none_iff.mpr hnew, Option.elim_none]
  · intro word hne hword
    have hunknown := exists_parse_eq_unknown_iff word
    rw [Text.firstWord?_of_word hne hword, Option.getD_some] at hunknown
    rw [lowercase_mem_suggest_iff hne hword, ← not_iff_not, ← hunknown]
    simp

/-- A word with the Kelvin sign, which only full lower-casing takes for a letter K. -/
theorem parse_kelvin_sign :
    "s\u212aILLS" ≠ "" ∧ "s\u212aILLS".toList.all Text.isWordChar = true ∧
      "skills" ∈ suggest "s\u212aILLS" ∧ ∀ typed, parse "s\u212aILLS" ≠ .unknown typed := by
  have hword : "s\u212aILLS".toList.all Text.isWordChar = true := by decide +kernel
  have hlower : Text.lowercase "s\u212aILLS" = "skills" := by decide +kernel
  have hsuggest : "skills" ∈ suggest "s\u212aILLS" := by decide +kernel
  have hne : "s\u212aILLS" ≠ "" := by decide
  exact ⟨hne, hword, hsuggest, (parse_vocabulary.2.2 _ hne hword).mpr (hlower ▸ hsuggest)⟩

end Command

end PortfolioTerminal
