/-
# Looking words up in the manual

Every verb has a page, and a word is looked up under the names of the verbs up to the case of the
letters A to Z.  Lines are read otherwise: their verb is lowered in full.  So the manual has a page
for every word that is a command by itself, except for a word with the Kelvin sign, which is read as
a letter k and not looked up as one.
-/
import Mathlib.Data.List.Nodup
import PortfolioTerminal.Proofs.Shell.Answers
import PortfolioTerminal.Proofs.Text.Folding

namespace PortfolioTerminal

/-- The output that shows a page. -/
def ManualPage.output (p : ManualPage) : Output :=
  ⟨.info, .table [("NAME", p.name ++ " - " ++ p.summary), ("SYNOPSIS", p.synopsis),
    ("DESCRIPTION", p.description)]⟩

/-- The output that says that the manual does not have the word. -/
def Manual.noEntry (word : String) : Output := .text .error (Failure.noManualEntry word).message

namespace Manual

variable {word : String} {p q : ManualPage}

/-! ## Pages -/

theorem mem_pages_iff : p ∈ pages ↔ ∃ v, page v = p := by
  simp [pages]

/-- The name of a page is the name of its verb, and no other page has it. -/
theorem eq_of_name_eq (hp : p ∈ pages) (hq : q ∈ pages) (h : p.name = q.name) : p = q := by
  obtain ⟨v, rfl⟩ := mem_pages_iff.mp hp
  obtain ⟨w, rfl⟩ := mem_pages_iff.mp hq
  rw [ManualPage.name, ManualPage.name, page_verb, page_verb] at h
  have hv : Verb.ofName? w.name = some v := Verb.ofName?_eq_some_iff.mpr h
  have hw : Verb.ofName? w.name = some w := Verb.ofName?_eq_some_iff.mpr rfl
  rw [Option.some.inj (hv.symm.trans hw)]

/-- No two pages are written in the same way. -/
theorem eq_of_output_eq (hp : p ∈ pages) (hq : q ∈ pages) (h : p.output = q.output) : p = q := by
  have hnodup : (pages.map ManualPage.synopsis).Nodup := by decide +kernel
  simp only [ManualPage.output, Output.mk.injEq, Payload.table.injEq, List.cons.injEq,
    Prod.mk.injEq] at h
  exact List.inj_on_of_nodup_map hnodup hp hq h.2.2.1.2

theorem output_ne_noEntry : p.output ≠ noEntry word := by
  simp [ManualPage.output, noEntry, Output.text]

/-! ## Looking up -/

/-- A word agrees with the name of a page if it is lowered to it, and without a Kelvin sign. -/
theorem sameLetters_name_iff (hp : p ∈ pages) :
    Text.sameLetters p.name word = true ↔
      p.name = Text.lowercase word ∧ Text.kelvinSign ∉ word.toList := by
  have hname : p.name ∈ Verb.names := map_name_pages ▸ List.mem_map_of_mem hp
  obtain ⟨hgraphic, hsmall⟩ := Verb.isGraphic_of_mem_names _ hname
  exact Text.sameLetters_iff (List.all_eq_true.mp hgraphic) hsmall word

/-- The page that is found is the one of that name, in lower case. -/
theorem lookup?_eq_some_iff :
    lookup? word = some p ↔
      p ∈ pages ∧ p.name = Text.lowercase word ∧ Text.kelvinSign ∉ word.toList := by
  constructor
  · intro h
    have hp : p ∈ pages := List.mem_of_find?_eq_some h
    have hsame : Text.sameLetters p.name word = true := by simpa using List.find?_some h
    exact ⟨hp, (sameLetters_name_iff hp).mp hsame⟩
  · rintro ⟨hp, hname⟩
    -- some page is found, and it can only be this one
    have hsame := (sameLetters_name_iff hp).mpr hname
    cases hfound : lookup? word with
    | none => exact absurd hsame (List.find?_eq_none.mp hfound p hp)
    | some q =>
      have hq : q ∈ pages := List.mem_of_find?_eq_some hfound
      have hsame' : Text.sameLetters q.name word = true := by simpa using List.find?_some hfound
      have hname' := ((sameLetters_name_iff hq).mp hsame').1
      rw [eq_of_name_eq hq hp (hname'.trans hname.1.symm)]

/-- What the manual answers to a word. -/
def answer (word : String) : Output := (lookup? word).elim (noEntry word) ManualPage.output

/-- A page answers to a word only if it is found for it. -/
theorem answer_eq_output_iff (hp : p ∈ pages) : answer word = p.output ↔ lookup? word = some p := by
  rw [answer]
  cases hfound : lookup? word with
  | none => simpa using output_ne_noEntry.symm
  | some q =>
    have hq : q ∈ pages := List.mem_of_find?_eq_some hfound
    constructor
    · intro h
      rw [eq_of_output_eq hq hp h]
    · intro h
      rw [Option.some.inj h, Option.elim_some]

theorem answer_eq_noEntry_iff : answer word = noEntry word ↔ lookup? word = none := by
  rw [answer]
  cases lookup? word with
  | none => simp
  | some q => simpa using output_ne_noEntry

end Manual

/-! ## Words and commands -/

/-- A word by itself is a command exactly if the manual has a page of its name in lower case. -/
theorem Command.parse_ne_unknown_iff {word : String} (hne : word ≠ "")
    (hword : word.toList.all Text.isWordChar = true) :
    (∀ typed, parse word ≠ .unknown typed) ↔
      ∃ p ∈ Manual.pages, p.name = Text.lowercase word := by
  rw [parse_word_ne_unknown_iff hne hword, ← List.mem_map, Manual.map_name_pages]

namespace Shell

variable {s : Shell} {word : String}

/-- A `man` line shows what the manual answers to its word. -/
theorem shows_man (h : s.session.processing = false) (now : CivilTime) (hne : word ≠ "")
    (hword : word.toList.all Text.isWordChar = true) :
    s.Shows now ("man" ++ " " ++ word) (Manual.answer word) := by
  have hname : Text.lowercase "man" = Verb.man.name := by decide +kernel
  have hoperand : Text.firstWord? (Text.trim word.toList) = some word := by
    have htrim : Text.trim word.toList = word.toList :=
      Text.trim_eq_self_iff.mpr (Text.isTrimmed_of_word hword)
    rw [htrim, Text.firstWord?_of_word hne hword]
  refine shows_of_outcome h (Command.isAllBlank_verb_append hname word) ?_
  have hcommand : (s.pendingOf ("man" ++ " " ++ word)).command = .man (some word) := by
    rw [pendingOf, Command.parse_verb_append hname, Verb.command, hoperand]
  simp only [outcome, hcommand, Command.evaluate, Command.evaluateM, Id.run_pure, manualOutcome,
    Manual.answer]
  cases Manual.lookup? word <;> rfl

/-- The manual covers the word as the reading of lines does: `man` shows a page for it exactly if it
is a command by itself, and then the one of its name in lower case; otherwise it says that there is
no entry. -/
structure Covers (s : Shell) (now : CivilTime) (word : String) : Prop where
  page_iff : (∃ p ∈ Manual.pages, s.Shows now ("man" ++ " " ++ word) p.output) ↔
    ∀ typed, Command.parse word ≠ .unknown typed
  name_eq : ∀ p ∈ Manual.pages, s.Shows now ("man" ++ " " ++ word) p.output →
    p.name = Text.lowercase word
  no_entry : (∀ p ∈ Manual.pages, ¬ s.Shows now ("man" ++ " " ++ word) p.output) →
    s.Shows now ("man" ++ " " ++ word) (Manual.noEntry word)

/-- A `man` line shows a page exactly if the page is found for its word. -/
theorem shows_man_output_iff (h : s.session.processing = false) (now : CivilTime)
    (hne : word ≠ "") (hword : word.toList.all Text.isWordChar = true) {p : ManualPage}
    (hp : p ∈ Manual.pages) :
    s.Shows now ("man" ++ " " ++ word) p.output ↔ Manual.lookup? word = some p := by
  have hshows := shows_man h now hne hword
  rw [← Manual.answer_eq_output_iff hp]
  exact ⟨hshows.unique, fun hanswer => hanswer ▸ hshows⟩

/-- Where a `man` line shows no page, it says that there is no entry. -/
theorem shows_noEntry (h : s.session.processing = false) {now : CivilTime} (hne : word ≠ "")
    (hword : word.toList.all Text.isWordChar = true)
    (hnone : ∀ p ∈ Manual.pages, ¬ s.Shows now ("man" ++ " " ++ word) p.output) :
    s.Shows now ("man" ++ " " ++ word) (Manual.noEntry word) := by
  have hlookup : Manual.lookup? word = none := by
    refine Option.eq_none_iff_forall_ne_some.mpr fun p hfound => ?_
    have hp : p ∈ Manual.pages := (Manual.lookup?_eq_some_iff.mp hfound).1
    exact hnone p hp ((shows_man_output_iff h now hne hword hp).mpr hfound)
  rw [← Manual.answer_eq_noEntry_iff.mpr hlookup]
  exact shows_man h now hne hword

/-- **The manual covers the words that are commands**, except those with a Kelvin sign, for which it
says that there is no entry. -/
theorem covers_iff (h : s.session.processing = false) (now : CivilTime) (hne : word ≠ "")
    (hword : word.toList.all Text.isWordChar = true) :
    (s.Covers now word ↔
      ((∀ typed, Command.parse word ≠ .unknown typed) → Text.kelvinSign ∉ word.toList)) ∧
    (Text.kelvinSign ∈ word.toList →
      s.Shows now ("man" ++ " " ++ word) (Manual.noEntry word)) := by
  have hpage : ∀ p ∈ Manual.pages, s.Shows now ("man" ++ " " ++ word) p.output ↔
      p.name = Text.lowercase word ∧ Text.kelvinSign ∉ word.toList := by
    intro p hp
    rw [shows_man_output_iff h now hne hword hp, Manual.lookup?_eq_some_iff, and_iff_right hp]
  refine ⟨⟨fun hcovers hcommand => ?_, fun hkelvin => ⟨?_, ?_, ?_⟩⟩, fun hkelvin => ?_⟩
  · obtain ⟨p, hp, hshown⟩ := hcovers.page_iff.mpr hcommand
    exact ((hpage p hp).mp hshown).2
  · have hcommand := Command.parse_ne_unknown_iff hne hword
    rw [hcommand]
    constructor
    · rintro ⟨p, hp, hshown⟩
      exact ⟨p, hp, ((hpage p hp).mp hshown).1⟩
    · rintro ⟨p, hp, hname⟩
      exact ⟨p, hp, (hpage p hp).mpr ⟨hname, hkelvin (hcommand.mpr ⟨p, hp, hname⟩)⟩⟩
  · exact fun p hp hshown => ((hpage p hp).mp hshown).1
  · exact shows_noEntry h hne hword
  · exact shows_noEntry h hne hword fun p hp hshown => ((hpage p hp).mp hshown).2 hkelvin

theorem covers_skills_in_capitals :
    (start {} .least).session.processing = false ∧ "SKiLLS" ≠ "" ∧
      "SKiLLS".toList.all Text.isWordChar = true ∧ Text.kelvinSign ∉ "SKiLLS".toList ∧
      (start {} .least).Covers ⟨2024, 3, 9, 14, 5, 0⟩ "SKiLLS" := by
  have hword : "SKiLLS".toList.all Text.isWordChar = true := by decide
  have hkelvin : Text.kelvinSign ∉ "SKiLLS".toList := by decide
  have hne : "SKiLLS" ≠ "" := by decide
  exact ⟨rfl, hne, hword, hkelvin, (covers_iff rfl _ hne hword).1.mpr fun _ => hkelvin⟩

/-- With a Kelvin sign in place of the letter, the word goes to the skills and has no page. -/
theorem not_covers_kelvin_sign :
    (start {} .least).session.processing = false ∧ "s\u212aills" ≠ "" ∧
      "s\u212aills".toList.all Text.isWordChar = true ∧
      Command.parse "s\u212aills" = .goTo .skills ∧
      ¬ (start {} .least).Covers ⟨2024, 3, 9, 14, 5, 0⟩ "s\u212aills" := by
  have hne : "s\u212aills" ≠ "" := by decide
  have hword : "s\u212aills".toList.all Text.isWordChar = true := by decide
  have hparse : Command.parse "s\u212aills" = .goTo .skills := by decide +kernel
  have hlookup : Manual.lookup? "s\u212aills" = none := by decide +kernel
  refine ⟨rfl, hne, hword, hparse, fun hcovers => ?_⟩
  have hcommand : ∀ typed, Command.parse "s\u212aills" ≠ .unknown typed := by simp [hparse]
  obtain ⟨p, hp, hshown⟩ := hcovers.page_iff.mpr hcommand
  rw [shows_man_output_iff rfl _ hne hword hp, hlookup] at hshown
  contradiction

end Shell

end PortfolioTerminal
