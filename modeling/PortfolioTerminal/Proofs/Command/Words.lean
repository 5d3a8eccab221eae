/-
# A line and its words

Reading a line depends on its words only: not on the blanks in front, between the verb and the text
behind it, or at the end, and not on how the verb is spelled beyond its lower-case form.  Of the
text behind the verb, most commands take the first word or nothing at all; `echo` takes it whole.
-/
import PortfolioTerminal.Proofs.Text.Folding
import PortfolioTerminal.Proofs.Vocabulary

namespace PortfolioTerminal

/-! ## The first word of a text -/

namespace Text

/-- The text begins with the word, and the word ends where a blank follows or the text ends. -/
structure BeginsWith (text word : String) : Prop where
  ne_empty : word ≠ ""
  isWord : word.toList.all isWordChar = true
  exists_rest : ∃ rest : String, text = word ++ rest ∧ ∀ c ∈ rest.toList.head?, isBlank c = true

/-- A text that begins with no blank begins with its first word. -/
theorem beginsWith_firstWord? {text : String} (hne : text ≠ "")
    (hhead : ∀ c ∈ text.toList.head?, isBlank c = false) :
    ∃ word, firstWord? text.toList = some word ∧ BeginsWith text word := by
  have hstart : trimStart text.toList = text.toList := trimStart_eq_self_iff.mpr hhead
  have hword : leadingWord text.toList ≠ [] := by
    obtain ⟨c, cs, hcons⟩ := List.exists_cons_of_ne_nil (l := text.toList) (by simpa using hne)
    have hc : isWordChar c = true := isWordChar_eq_true_iff.mpr (hhead c (by simp [hcons]))
    rw [hcons, leadingWord, List.takeWhile_cons_of_pos hc]
    exact List.cons_ne_nil _ _
  refine ⟨String.ofList (leadingWord text.toList), ?_, ?_, ?_, ?_⟩
  · rw [firstWord?, hstart]
    split
    · contradiction
    · rfl
  · simpa using hword
  · rw [String.toList_ofList, List.all_eq_true]
    exact fun c hc => List.mem_takeWhile_imp hc
  · refine ⟨String.ofList (text.toList.dropWhile isWordChar), ?_, ?_⟩
    · rw [← String.ofList_append, leadingWord_append_dropWhile, String.ofList_toList]
    · intro c hc
      have hstop := List.head?_dropWhile_not isWordChar text.toList
      rw [Option.mem_def, String.toList_ofList] at hc
      simpa [hc, isWordChar] using hstop

end Text

/-! ## Verbs and operands -/

/-- The verbs that take the first word behind them as their operand. -/
def Verb.takesOperand : Verb → Bool
  | .edit _ | .ls | .cd | .cat | .man => true
  | _ => false

namespace Command

/-- The verb of a command, unless the terminal does not know it. -/
def verb? : Command → Option Verb
  | clear => some .clear
  | goTo target => some (.goTo target)
  | edit editor _ => some (.edit editor)
  | info topic => some (.info topic)
  | ls _ => some .ls
  | cd _ => some .cd
  | cat _ => some .cat
  | echo _ => some .echo
  | man _ => some .man
  | decoration d => some (.decoration d)
  | unknown _ => none

/-- The operand of a command, if it has one. -/
def operand? : Command → Option String
  | edit _ file => file
  | ls path | cd path | cat path => path.map (·.text)
  | man name => name
  | _ => none

end Command

namespace Verb

theorem verb?_command (v : Verb) (rest : List Char) : (v.command rest).verb? = some v := by
  cases v <;> rfl

theorem operand?_command {v : Verb} (h : v.takesOperand = true) (rest : List Char) :
    (v.command rest).operand? = Text.firstWord? rest := by
  cases v <;> simp [takesOperand] at h <;> simp [command, Command.operand?, Function.comp_def]

/-- A verb without an operand, other than `echo`, disregards what stands behind it. -/
theorem command_eq_of_not_takesOperand {v : Verb} (h : v.takesOperand = false) (hecho : v ≠ .echo)
    (rest rest' : List Char) : v.command rest = v.command rest' := by
  cases v <;> simp [takesOperand] at h hecho <;> rfl

/-- No verb is spelled with a blank or with nothing. -/
theorem isWord_of_mem_names :
    ∀ name ∈ names, name ≠ "" ∧ name.toList.all Text.isWordChar = true := by
  decide +kernel

/-- Names are in small printed ASCII. -/
theorem isGraphic_of_mem_names : ∀ name ∈ names,
    name.toList.all Text.isGraphic = true ∧ name.toList.map Char.toLower = name.toList := by
  decide +kernel

/-- Names are in lower case. -/
theorem lowercase_of_mem_names {name : String} (h : name ∈ names) : Text.lowercase name = name := by
  obtain ⟨hgraphic, hsmall⟩ := isGraphic_of_mem_names name h
  exact Text.lowercase_of_isGraphic hgraphic hsmall

/-- What is a verb in lower case is a word. -/
theorem isWord_of_lowercase_mem_names {word : String} (h : Text.lowercase word ∈ names) :
    word ≠ "" ∧ word.toList.all Text.isWordChar = true := by
  obtain ⟨hne, hword⟩ := isWord_of_mem_names _ h
  refine ⟨?_, Text.all_isWordChar_of_lowercase hword⟩
  rintro rfl
  exact hne rfl

theorem isWord_of_lowercase_eq_name {v : Verb} {word : String}
    (h : Text.lowercase word = v.name) :
    word ≠ "" ∧ word.toList.all Text.isWordChar = true :=
  isWord_of_lowercase_mem_names (h ▸ List.mem_map_of_mem v.mem_all)

end Verb

/-! ## Reading a line -/

namespace Command

variable {word text before between after : String}

/-- A line is a word with blanks in front of it and, unless it ends there, a blank behind it; the
rest matters only as trimmed. -/
theorem parse_of_toList_eq {line : String} {blanks rest : List Char}
    (hline : line.toList = blanks ++ (word.toList ++ rest))
    (hblanks : ∀ c ∈ blanks, Text.isBlank c = true) (hne : word ≠ "")
    (hword : word.toList.all Text.isWordChar = true)
    (hrest : ∀ c ∈ rest.head?, Text.isBlank c = true) :
    parse line = (Verb.ofName? (Text.lowercase word)).elim (.unknown word) fun v =>
      v.command (Text.trim rest) := by
  have hchars := List.all_eq_true.mp hword
  have hstart : Text.trimStart line.toList = word.toList ++ rest := by
    rw [hline, Text.trimStart_append_of_blank hblanks, Text.trimStart_eq_self_iff]
    obtain ⟨c, cs, hcons, hc⟩ := Text.exists_cons_of_word hne hword
    simpa [hcons] using hc
  have hleading : String.ofList (Text.leadingWord (Text.trim line.toList)) = word := by
    rw [Text.trim, Text.leadingWord_trimEnd, hstart, Text.leadingWord_append hchars hrest,
      String.ofList_toList]
  have hafter : Text.afterLeadingWord (Text.trim line.toList) = Text.trim rest := by
    rw [Text.afterLeadingWord_trim, hstart, Text.dropWhile_isWordChar_append hchars hrest]
  rw [parse, hleading, hafter]
  cases Verb.ofName? (Text.lowercase word) <;> rfl

/-- A word by itself is a line. -/
theorem parse_word (hne : word ≠ "") (hword : word.toList.all Text.isWordChar = true) :
    parse word = (Verb.ofName? (Text.lowercase word)).elim (.unknown word) fun v =>
      v.command [] := by
  have hline : word.toList = [] ++ (word.toList ++ []) := by simp
  exact parse_of_toList_eq hline (by simp) hne hword (by simp)

/-- A word is a line that the terminal knows exactly if it is a name in lower case. -/
theorem parse_word_ne_unknown_iff (hne : word ≠ "")
    (hword : word.toList.all Text.isWordChar = true) :
    (∀ typed, parse word ≠ .unknown typed) ↔ Text.lowercase word ∈ Verb.names := by
  rw [parse_word hne hword, ← not_iff_not, ← Verb.ofName?_eq_none_iff]
  cases Verb.ofName? (Text.lowercase word) with
  | none => simp
  | some verb => simp [Verb.command_ne_unknown]

theorem parse_ne_unknown_of_mem_names (h : word ∈ Verb.names) (typed : String) :
    parse word ≠ .unknown typed := by
  obtain ⟨hne, hword⟩ := Verb.isWord_of_mem_names word h
  have hname : Text.lowercase word ∈ Verb.names := (Verb.lowercase_of_mem_names h).symm ▸ h
  exact (parse_word_ne_unknown_iff hne hword).mpr hname typed

/-- A word with a text behind it, and blanks between and around them. -/
theorem parse_append (hbefore : Text.isAllBlank before = true) (hne : word ≠ "")
    (hword : word.toList.all Text.isWordChar = true) (hbetween : Text.isAllBlank between = true)
    (hsome : between ≠ "") (hafter : Text.isAllBlank after = true) (text : String) :
    parse (before ++ word ++ between ++ text ++ after) =
      (Verb.ofName? (Text.lowercase word)).elim (.unknown word) fun v =>
        v.command (Text.trim text.toList) := by
  have hblanks := List.all_eq_true.mp hbetween
  obtain ⟨c, cs, hcons⟩ := List.exists_cons_of_ne_nil (l := between.toList) (by simpa using hsome)
  have hrest : ∀ d ∈ (between.toList ++ (text.toList ++ after.toList)).head?,
      Text.isBlank d = true := by
    simpa [hcons] using hblanks c (hcons ▸ List.mem_cons_self)
  rw [parse_of_toList_eq (by simp) (List.all_eq_true.mp hbefore) hne hword hrest,
    Text.trim_blank_append hblanks, Text.trim_append_blank (List.all_eq_true.mp hafter)]

/-- One space is enough between the word and the text. -/
theorem parse_spaced (hne : word ≠ "") (hword : word.toList.all Text.isWordChar = true)
    (text : String) :
    parse (word ++ " " ++ text) =
      (Verb.ofName? (Text.lowercase word)).elim (.unknown word) fun v =>
        v.command (Text.trim text.toList) := by
  have hnothing : Text.isAllBlank "" = true := by decide
  have hspace : Text.isAllBlank " " = true := by decide
  have hline := parse_append hnothing hne hword hspace (by decide) hnothing text
  rwa [String.empty_append, String.append_empty] at hline

/-- The line has the verb, spelled as the word, and takes of the text behind it what the verb takes:
the first word, which is missing only from the empty text; for `echo` the text itself; and otherwise
nothing, as if the word stood alone. -/
structure Takes (line : Command) (verb : Verb) (word text : String) : Prop where
  verb?_eq : line.verb? = some verb
  operand?_eq_none : verb.takesOperand = true → text = "" → line.operand? = none
  operand?_eq_some : verb.takesOperand = true → text ≠ "" →
    ∃ operand, line.operand? = some operand ∧ Text.BeginsWith text operand
  eq_echo : verb = .echo → line = .echo text
  eq_alone : verb.takesOperand = false → verb ≠ .echo → line = parse word

theorem takes_command {verb : Verb} (hverb : Verb.ofName? (Text.lowercase word) = some verb)
    (hne : word ≠ "") (hword : word.toList.all Text.isWordChar = true)
    (htext : Text.IsTrimmed text.toList) :
    Takes (verb.command text.toList) verb word text where
  verb?_eq := verb.verb?_command _
  operand?_eq_none htakes hnil := by
    rw [Verb.operand?_command htakes, hnil]
    rfl
  operand?_eq_some htakes hsome := by
    rw [Verb.operand?_command htakes]
    exact Text.beginsWith_firstWord? hsome htext.head
  eq_echo hecho := by
    rw [hecho, Verb.command, String.ofList_toList]
  eq_alone halone hecho := by
    rw [parse_word hne hword, hverb, Option.elim_some]
    exact Verb.command_eq_of_not_takesOperand halone hecho _ _

/-- **Reading a line depends on its words only.**  The blanks around the words do not count; a verb
may be replaced by any string of the same lower-case form; and a verb takes of the text behind it
the first word, the whole text or nothing, by its class. -/
theorem parse_words (hbefore : Text.isAllBlank before = true) (hne : word ≠ "")
    (hword : word.toList.all Text.isWordChar = true) (hbetween : Text.isAllBlank between = true)
    (hsome : between ≠ "") (hafter : Text.isAllBlank after = true)
    (htext : Text.IsTrimmed text.toList) :
    let line := before ++ word ++ between ++ text ++ after
    parse line = parse (word ++ " " ++ text) ∧
    (∀ word', Text.lowercase word ∈ Verb.names → Text.lowercase word' = Text.lowercase word →
      parse (before ++ word' ++ between ++ text ++ after) = parse line) ∧
    ∀ verb, Verb.ofName? (Text.lowercase word) = some verb →
      (parse line).Takes verb word text := by
  intro line
  have hline := parse_append hbefore hne hword hbetween hsome hafter text
  have htrim : Text.trim text.toList = text.toList := Text.trim_eq_self_iff.mpr htext
  refine ⟨?_, ?_, ?_⟩
  · rw [hline, parse_spaced hne hword]
  · intro word' hname hsame
    obtain ⟨hne', hword'⟩ := Verb.isWord_of_lowercase_mem_names (hsame ▸ hname)
    obtain ⟨verb, hverb⟩ : ∃ verb, Verb.ofName? (Text.lowercase word) = some verb :=
      Option.ne_none_iff_exists'.mp fun hnone => Verb.ofName?_eq_none_iff.mp hnone hname
    rw [hline, parse_append hbefore hne' hword' hbetween hsome hafter, hsame, hverb]
    rfl
  · intro verb hverb
    rw [hline, hverb, Option.elim_some, htrim]
    exact takes_command hverb hne hword htext

/-- A line with blanks of several kinds, and the same line with the verb in other letters. -/
theorem parse_words_vim :
    let line := "\u3000" ++ "VIM" ++ "\u00a0\t" ++ "About.md  x" ++ "\n"
    Text.isAllBlank "\u3000" = true ∧ Text.isAllBlank "\u00a0\t" = true ∧
      Text.IsTrimmed "About.md  x".toList ∧
      parse line = parse ("VIM" ++ " " ++ "About.md  x") ∧
      parse ("\u3000" ++ "vIm" ++ "\u00a0\t" ++ "About.md  x" ++ "\n") = parse line ∧
      ∃ operand, (parse line).operand? = some operand ∧
        Text.BeginsWith "About.md  x" operand := by
  intro line
  have htext : Text.IsTrimmed "About.md  x".toList := Text.trim_eq_self_iff.mp (by decide +kernel)
  have hverb : Verb.ofName? (Text.lowercase "VIM") = some (.edit .vim) := by decide +kernel
  have hname : Text.lowercase "VIM" ∈ Verb.names := by decide +kernel
  have hsame : Text.lowercase "vIm" = Text.lowercase "VIM" := by decide +kernel
  have hbefore : Text.isAllBlank "\u3000" = true := by decide
  have hbetween : Text.isAllBlank "\u00a0\t" = true := by decide
  have hafter : Text.isAllBlank "\n" = true := by decide
  have hword : "VIM".toList.all Text.isWordChar = true := by decide
  obtain ⟨hspaced, hspelled, htakes⟩ :=
    parse_words hbefore (by decide) hword hbetween (by decide) hafter htext
  exact ⟨hbefore, hbetween, htext, hspaced, hspelled "vIm" hname hsame,
    (htakes _ hverb).operand?_eq_some rfl (by decide)⟩

end Command

end PortfolioTerminal
