/-
# Single flight

A command is in flight from the moment it is handed out until it is completed or cancelled.  Whoever
drops it instead leaves it in flight for ever.

Two equations carry everything here: what is outstanding after an operation, and whether the shell
is busy after it, both told by what the operation handed out and what it settled.  They give what a
whole run keeps: the shell is busy exactly while a command is in flight, there is never a second
one, and a busy shell turns all input away.
-/
import PortfolioTerminal.Proofs.Since
import PortfolioTerminal.Proofs.Visit.Run

namespace PortfolioTerminal.Visit

variable {v : Visit} {op : Operation} {p : Pending}

/-! ## In flight -/

/-- The pending command that an operation settles, by completing it or by cancelling it. -/
def settled? (v : Visit) : Operation → Option Pending
  | .complete which _ | .cancel which => v.outstanding[which]?
  | _ => none

/-- In the run the command was handed out, and it has been neither completed nor cancelled since. -/
def InFlight (v : Visit) (p : Pending) : List Operation → Prop :=
  Since (fun before op => ((v.performAll before).perform op).answer.handedOut? = some p)
    (fun before op => (v.performAll before).settled? op ≠ some p)

/-- In the run the command was handed out, and it has been neither completed, nor cancelled, nor
dropped since. -/
def Held (v : Visit) (p : Pending) : List Operation → Prop :=
  Since (fun before op => ((v.performAll before).perform op).answer.handedOut? = some p)
    (fun before op => (v.performAll before).takenBack? op ≠ some p)

theorem takenBack?_of_settled? (h : v.settled? op = some p) : v.takenBack? op = some p := by
  cases op with
  | complete which now => exact h
  | cancel which => exact h
  | _ => simp [settled?] at h

/-- The shell is busy after an operation that handed out a command, and it stays busy until one is
settled. -/
theorem processing_perform (v : Visit) (op : Operation) :
    (v.perform op).visit.shell.session.processing =
      ((v.perform op).answer.handedOut?.isSome ||
        (v.shell.session.processing && (v.settled? op).isNone)) := by
  cases op with
  | submit line =>
    cases h : v.shell.session.processing with
    | true => simp [perform_submit, Shell.submit_of_processing h, handOut, settled?, h]
    | false =>
      cases hb : Text.isAllBlank line <;>
        simp [perform_submit, Shell.submit_of_blank, Shell.submit_of_idle, handOut,
          Shell.accepting, Session.setProcessing, Answer.handedOut?, Except.toOption, h, hb]
  | key k =>
    cases h : v.shell.session.processing with
    | true => simp [perform_key, Shell.key_of_processing h, handOut, settled?, h]
    | false =>
      cases ha : (v.shell.prompt.press v.shell.history k).2 with
      | none =>
        simp [perform_key, Shell.key_of_press_none h ha, handOut, Shell.pressed,
          Answer.handedOut?, h]
      | some action =>
        cases action with
        | closeOverlay =>
          simp [perform_key, Shell.key_of_press_closeOverlay h ha, handOut, Shell.pressed,
            Shell.closeEditor, Session.closeEditor, Answer.handedOut?, h]
        | submit line =>
          simp [perform_key, Shell.key_of_press_submit h ha, handOut, Shell.accepting,
            Shell.pressed, Session.setProcessing, Answer.handedOut?]
  | run line now =>
    -- an accepted line is completed at once, and a rejected one changes nothing
    obtain ⟨hs, f, ha⟩ | ⟨h, hs, ha⟩ := v.shell.submit_cases line
    · simp [perform_run, Shell.run_of_error ha, after, hs, settled?, Answer.handedOut?]
    · simp [perform_run, Shell.run_of_ok ha, after, h, Answer.handedOut?]
  | complete which now =>
    rw [handedOut?_complete, settled?]
    cases hp : v.outstanding[which]? with
    | none => simp [perform_complete_of_none hp]
    | some p => simp [perform_complete_of_some hp, after]
  | cancel which =>
    rw [handedOut?_cancel, settled?]
    cases hp : v.outstanding[which]? with
    | none => simp [perform_cancel_of_none hp]
    | some p =>
      simp [perform_cancel_of_some hp, quietly, Shell.cancel, Shell.idle, Session.setProcessing]
  | drop which => simp [perform, performM, takeBack, settled?, Answer.handedOut?]
  | setInput text =>
    simp only [perform, performM, Id.run_pure, quietly, Shell.setInput, settled?,
      Answer.handedOut?]
    split <;> simp
  | tourTick =>
    cases ht : v.shell.tour with
    | none =>
      simp [perform_tourTick, after, Shell.tourTick_of_none ht, settled?, Answer.handedOut?]
    | some here =>
      simp [perform_tourTick, after, Shell.tourTick_of_some ht, settled?, Answer.handedOut?]
  | openFile file =>
    cases ht : Section.ofFileName? file <;>
      simp [perform, performM, after, Shell.openFile, ht, Session.openEditor, settled?,
        Answer.handedOut?]
  | finishLoading =>
    simp [perform, performM, quietly, Shell.finishLoading, settled?, Answer.handedOut?]
  | toggleShellView =>
    simp [perform, performM, after, Shell.toggleShellView, settled?, Answer.handedOut?]
  | _ =>
    simp only [settled?, Answer.handedOut?, Option.isNone_none, Bool.and_true]
    rfl

/-! ## What a visit waits for -/

/-- The visit waits for that command, if for any: the shell is busy exactly if there is one, and
nothing else is outstanding.  The command itself may have been dropped. -/
structure Awaits (v : Visit) (awaited : Option Pending) : Prop where
  processing_eq : v.shell.session.processing = awaited.isSome
  outstanding_sublist : v.outstanding.Sublist awaited.toList

variable {awaited : Option Pending}

theorem Awaits.length_le_one (h : v.Awaits awaited) : v.outstanding.length ≤ 1 :=
  h.outstanding_sublist.length_le.trans (by cases awaited <;> simp)

/-- What is settled is what the visit waits for. -/
theorem Awaits.eq_of_settled? (h : v.Awaits awaited) (hs : v.settled? op = some p) :
    awaited = some p := by
  have hmem := mem_outstanding_of_takenBack? (takenBack?_of_settled? hs)
  simpa using h.outstanding_sublist.subset hmem

/-- A visit that waits for nothing goes on to wait for what an operation hands out. -/
theorem Awaits.perform_of_none (h : v.Awaits none) (op : Operation) :
    (v.perform op).visit.Awaits (v.perform op).answer.handedOut? where
  processing_eq := by simp [processing_perform, h.processing_eq]
  outstanding_sublist := by
    have hkept : v.kept op = [] := by
      simpa using (v.kept_sublist op).trans h.outstanding_sublist
    rw [outstanding_perform, hkept, List.nil_append]

/-- A visit that waits for a command goes on to wait for it until it is settled. -/
theorem Awaits.perform_of_some (h : v.Awaits (some p)) (op : Operation) :
    (v.perform op).visit.Awaits (if v.settled? op = some p then none else some p) := by
  have hnothing := handedOut?_of_processing (h.processing_eq.trans rfl) op
  have hout : (v.perform op).visit.outstanding = v.kept op := by
    simp [outstanding_perform, hnothing]
  have hbusy : (v.perform op).visit.shell.session.processing = (v.settled? op).isNone := by
    simp [processing_perform, hnothing, h.processing_eq]
  have hkept : (v.kept op).Sublist [p] := (v.kept_sublist op).trans h.outstanding_sublist
  by_cases hs : v.settled? op = some p
  · have hgone : p ∉ v.kept op := fun hmem =>
      ((mem_kept_iff h.length_le_one).mp hmem).2 (takenBack?_of_settled? hs)
    have hnil : v.kept op = [] := by
      refine List.eq_nil_iff_forall_not_mem.mpr fun q hq => hgone ?_
      rwa [← List.mem_singleton.mp (hkept.subset hq)]
    rw [if_pos hs]
    exact ⟨by simp [hbusy, hs], by simp [hout, hnil]⟩
  · have hnone : v.settled? op = none := by
      refine Option.eq_none_iff_forall_ne_some.mpr fun q hq => hs ?_
      rw [hq, h.eq_of_settled? hq]
    rw [if_neg hs]
    exact ⟨by simp [hbusy, hnone], by rw [hout]; exact hkept⟩

/-! ## Turning input away -/

/-- Neither submitting nor running the line does anything but to answer with the failure. -/
structure Refuses (v : Visit) (line : String) (f : Failure) : Prop where
  submit : (v.perform (.submit line)).visit = v ∧
    (v.perform (.submit line)).answer = .submitted (.error f)
  run (now : CivilTime) : (v.perform (.run line now)).visit = v ∧
    (v.perform (.run line now)).answer = .ran (.error f)

theorem refuses_of_submit {line : String} {f : Failure} {notices : List Notice}
    (h : v.shell.submit line = ⟨v.shell, .error f, notices⟩) : v.Refuses line f where
  submit := by simp [perform_submit, h, handOut, Except.toOption]
  run now := by
    have hf : (v.shell.submit line).answer = .error f := by rw [h]
    simp [perform_run, after, Shell.run_of_error hf, h]

/-- No line is accepted, and neither keys nor changes of the text do anything. -/
structure TurnsAway (v : Visit) : Prop where
  line (line : String) : v.Refuses line .busy
  key (k : Key) : (v.perform (.key k)).visit = v ∧ (v.perform (.key k)).answer = .pressed none
  text (text : String) : (v.perform (.setInput text)).visit = v

theorem turnsAway_of_processing (h : v.shell.session.processing = true) : v.TurnsAway where
  line line := refuses_of_submit (Shell.submit_of_processing h line)
  key k := by simp [perform_key, Shell.key_of_processing h, handOut]
  text text := by simp [perform, performM, quietly, Shell.setInput, h]

/-! ## Runs -/

variable (settings : Settings) (chance : Chance)

/-- Every run of a fresh shell waits for the command that is in flight, if there is one. -/
theorem exists_awaits_performAll (ops : List Operation) :
    ∃ awaited, ((start settings chance).performAll ops).Awaits awaited ∧
      ∀ p, (start settings chance).InFlight p ops ↔ awaited = some p := by
  induction ops using List.reverseRecOn with
  | nil => exact ⟨none, ⟨rfl, List.Sublist.refl _⟩, by simp [InFlight]⟩
  | append_singleton ops op ih =>
    obtain ⟨awaited, hawaits, hflight⟩ := ih
    rw [performAll_concat]
    simp only [InFlight, Since.concat_iff] at hflight ⊢
    simp only [hflight]
    cases awaited with
    | none => exact ⟨_, hawaits.perform_of_none op, by simp⟩
    | some p =>
      refine ⟨_, hawaits.perform_of_some op, fun q => ?_⟩
      rw [handedOut?_of_processing (hawaits.processing_eq.trans rfl) op]
      by_cases hs : ((start settings chance).performAll ops).settled? op = some p
      · simp only [hs, if_true, reduceCtorEq, false_or, iff_false, not_and, not_not]
        exact id
      · simp only [hs, if_false, reduceCtorEq, false_or, and_iff_left_iff_imp]
        rintro hq
        rwa [← hq]

/-- A run that leaves the shell idle waits for nothing. -/
theorem awaits_none_of_idle {ops : List Operation}
    (hidle : ((start settings chance).performAll ops).shell.session.processing = false) :
    ((start settings chance).performAll ops).Awaits none := by
  obtain ⟨awaited, hawaits, -⟩ := exists_awaits_performAll settings chance ops
  rw [hawaits.processing_eq, Option.isSome_eq_false_iff, Option.isNone_iff_eq_none] at hidle
  rwa [hidle] at hawaits

/-- In every run of a fresh shell, the outstanding commands are those that are still held. -/
theorem mem_outstanding_performAll_iff (ops : List Operation) :
    p ∈ ((start settings chance).performAll ops).outstanding ↔
      (start settings chance).Held p ops := by
  induction ops using List.reverseRecOn with
  | nil => simp [outstanding_start, Held]
  | append_singleton ops op ih =>
    obtain ⟨awaited, hawaits, -⟩ := exists_awaits_performAll settings chance ops
    rw [performAll_concat, outstanding_perform, List.mem_append, Option.mem_toList,
      mem_kept_iff hawaits.length_le_one, ih, Held, Since.concat_iff, or_comm]

/-- **Single flight.**  At most one pending command is held.  While one is in flight, and only then,
the shell is busy, and it turns all input away; an idle shell refuses a blank line.  Completing and
cancelling always leave the shell idle. -/
theorem outstanding_le_one_and_turnsAway_of_inFlight (ops : List Operation) :
    let run := start settings chance
    let v := run.performAll ops
    (v.outstanding.length ≤ 1 ∧ ∀ p, p ∈ v.outstanding ↔ run.Held p ops) ∧
      (v.shell.session.processing = true ↔ ∃ p, run.InFlight p ops) ∧
      ((∃ p, run.InFlight p ops) → v.TurnsAway) ∧
      (∀ p now, (v.shell.complete p now).shell.session.processing = false ∧
        (v.shell.cancel p).session.processing = false) ∧
      (v.shell.session.processing = false →
        ∀ line, Text.isAllBlank line = true → v.Refuses line .emptyInput) := by
  intro run v
  obtain ⟨awaited, hawaits, hflight⟩ := exists_awaits_performAll settings chance ops
  have hbusy : v.shell.session.processing = true ↔ ∃ p, run.InFlight p ops := by
    rw [hawaits.processing_eq, Option.isSome_iff_exists]
    exact exists_congr fun p => (hflight p).symm
  refine ⟨⟨hawaits.length_le_one, fun p => mem_outstanding_performAll_iff settings chance ops⟩,
    hbusy, fun h => ?_, fun p now => ⟨rfl, rfl⟩, fun hidle line hblank => ?_⟩
  · exact turnsAway_of_processing (hbusy.mpr h)
  · exact refuses_of_submit (Shell.submit_of_blank hidle hblank)

/-- A typed line that was handed out and dropped keeps the shell from taking any more, and a line of
blanks is refused by a fresh one. -/
theorem turnsAway_of_dropped_line :
    ((start {} .least).performAll [.setInput " pwd", .key .enter, .drop 0]).TurnsAway ∧
      (start {} .least).Refuses " \t" .emptyInput := by
  have hdropped := outstanding_le_one_and_turnsAway_of_inFlight {} .least
    [.setInput " pwd", .key .enter, .drop 0]
  have hfresh := outstanding_le_one_and_turnsAway_of_inFlight {} .least []
  exact ⟨hdropped.2.2.1 (hdropped.2.1.mp rfl), hfresh.2.2.2.2 rfl " \t" (by decide)⟩

end PortfolioTerminal.Visit
