/-
# What a line answers

Running a line in an idle shell that evaluates to an output, and to no change, records the line with
that output and answers with it.

The first such command is `echo`.  It answers with the text behind it, and the text is trimmed: the
line is trimmed at its end when it is read, and the blanks behind the verb are passed over.  So the
text comes back as it was typed exactly if it neither begins nor ends with a blank.
-/
import PortfolioTerminal.Proofs.Command.Words
import PortfolioTerminal.Proofs.Shell.Operations

namespace PortfolioTerminal

/-! ## Running a line -/

namespace Shell

variable {s : Shell} {now : CivilTime} {line : String} {output : Output}

/-- Running the line answers with the output and nothing else, and records the two. -/
structure Shows (s : Shell) (now : CivilTime) (line : String) (output : Output) : Prop where
  answer_eq : (s.run line now).answer = .ok ⟨some ⟨s.history.nextId, output⟩, none⟩
  rows_eq : (s.run line now).shell.history.rows =
    s.history.rows ++ [⟨s.history.length, line, s.history.nextId, output⟩]

/-- A line shows one output at most. -/
theorem Shows.unique {output' : Output} (h : s.Shows now line output)
    (h' : s.Shows now line output') : output = output' := by
  have hsame := h.answer_eq.symm.trans h'.answer_eq
  simpa using hsame

/-- An idle shell runs a line that is not blank by accepting it and completing it. -/
theorem run_of_idle (h : s.session.processing = false) (hline : Text.isAllBlank line = false)
    (now : CivilTime) :
    (s.run line now).shell = (s.accepting.complete (s.pendingOf line) now).shell ∧
      (s.run line now).answer = .ok (s.accepting.complete (s.pendingOf line) now).answer := by
  have hsubmit := submit_of_idle h hline
  have hok : (s.submit line).answer = .ok (s.pendingOf line) := by rw [hsubmit]
  simp only [run_of_ok hok, hsubmit, and_self]

/-- A command that shows an output is not `clear`. -/
theorem ne_clear_of_outcome {p : Pending} (h : s.outcome p now = .shows output) :
    p.command ≠ .clear := by
  intro hclear
  have heffect : (s.outcome p now).effect = some .clearHistory :=
    Command.effect_evaluate_eq_clearHistory_iff.mpr hclear
  simp [h] at heffect

/-- A line whose command evaluates to an output alone shows it. -/
theorem shows_of_outcome (h : s.session.processing = false) (hline : Text.isAllBlank line = false)
    (hshows : s.accepting.outcome (s.pendingOf line) now = .shows output) :
    s.Shows now line output := by
  obtain ⟨hshell, hanswer⟩ := run_of_idle h hline now
  have hhistory : s.accepting.history = s.history := rfl
  have hraw : (s.pendingOf line).raw = line := rfl
  have hclear := ne_clear_of_outcome hshows
  constructor
  · simp only [hanswer, answer_complete, hshows, hhistory, Outcome.output_shows,
      Outcome.effect_shows, Option.map_some]
  · simp only [hshell, rows_complete, if_neg hclear, hshows, hhistory, hraw,
      Outcome.output_shows, Option.map_some, Option.toList_some, History.nextRow]

end Shell

/-! ## Lines with a verb -/

namespace Command

variable {verb : Verb} {word : String}

/-- The verb may be spelled in any way that is lowered to its name. -/
theorem parse_verb_append (h : Text.lowercase word = verb.name) (text : String) :
    parse (word ++ " " ++ text) = verb.command (Text.trim text.toList) := by
  obtain ⟨hne, hword⟩ := Verb.isWord_of_lowercase_eq_name h
  have hverb : Verb.ofName? verb.name = some verb := Verb.ofName?_eq_some_iff.mpr rfl
  rw [parse_spaced hne hword, h, hverb, Option.elim_some]

theorem isAllBlank_verb_append (h : Text.lowercase word = verb.name) (text : String) :
    Text.isAllBlank (word ++ " " ++ text) = false := by
  obtain ⟨hne, hword⟩ := Verb.isWord_of_lowercase_eq_name h
  obtain ⟨c, cs, hcons, hc⟩ := Text.exists_cons_of_word hne hword
  simp [Text.isAllBlank, hcons, hc]

end Command

/-! ## Echo -/

namespace Shell

variable {s : Shell} {verb : String}

theorem shows_echo (h : s.session.processing = false) (now : CivilTime)
    (hverb : Text.lowercase verb = "echo") (text : String) :
    s.Shows now (verb ++ " " ++ text)
      (.text .system (String.ofList (Text.trim text.toList))) := by
  have hname : Text.lowercase verb = Verb.echo.name := hverb
  refine shows_of_outcome h (Command.isAllBlank_verb_append hname text) ?_
  rw [outcome, pendingOf, Command.parse_verb_append hname]
  rfl

/-- **`echo` answers with the text behind it, trimmed**, so with the very text exactly if no blank
begins or ends it. -/
theorem shows_echo_iff_isTrimmed (h : s.session.processing = false) (now : CivilTime)
    (hverb : Text.lowercase verb = "echo") (text : String) :
    s.Shows now (verb ++ " " ++ text)
        (.text .system (String.ofList (Text.trim text.toList))) ∧
      (s.Shows now (verb ++ " " ++ text) (.text .system text) ↔ Text.IsTrimmed text.toList) := by
  have hshows := shows_echo h now hverb text
  refine ⟨hshows, ?_⟩
  rw [← Text.trim_eq_self_iff]
  constructor
  · intro hverbatim
    have hsame := hshows.unique hverbatim
    rw [Output.text, Output.text, Output.mk.injEq, Payload.text.injEq] at hsame
    rw [← String.toList_inj, String.toList_ofList] at hsame
    exact hsame.2
  · intro htrim
    rwa [htrim, String.ofList_toList] at hshows

/-- Blanks within the text are kept, of whatever kind they are. -/
theorem shows_echo_inner_blanks :
    (start {} .least).session.processing = false ∧ Text.lowercase "eCHo" = "echo" ∧
      Text.IsTrimmed "a \u00a0  b".toList ∧
      (start {} .least).Shows ⟨2024, 3, 9, 14, 5, 0⟩ ("eCHo" ++ " " ++ "a \u00a0  b")
        (.text .system "a \u00a0  b") := by
  have hverb : Text.lowercase "eCHo" = "echo" := by decide +kernel
  have htext : Text.IsTrimmed "a \u00a0  b".toList := Text.trim_eq_self_iff.mp (by decide +kernel)
  exact ⟨rfl, hverb, htext, (shows_echo_iff_isTrimmed rfl _ hverb _).2.mpr htext⟩

/-- A blank in front of the text is lost. -/
theorem not_shows_echo_leading_blank :
    (start {} .least).session.processing = false ∧ Text.lowercase "echo" = "echo" ∧
      ¬ (start {} .least).Shows ⟨2024, 3, 9, 14, 5, 0⟩ ("echo" ++ " " ++ " hi")
        (.text .system " hi") := by
  have hverb : Text.lowercase "echo" = "echo" := by decide +kernel
  refine ⟨rfl, hverb, fun hverbatim => ?_⟩
  have hsame := (shows_echo rfl _ hverb " hi").unique hverbatim
  exact absurd hsame (by decide +kernel)

end Shell

end PortfolioTerminal
