/-
# What is outstanding

A pending command is handed out by submitting a line and by keys, and it is taken back by
completing, cancelling or dropping it.  What is outstanding after an operation is what it keeps,
followed by what it hands out; and what it hands out is what a shell makes of the line that it
submits.
-/
import PortfolioTerminal.Proofs.Visit.Step

namespace PortfolioTerminal

/-- The pending command that an answer hands out. -/
def Answer.handedOut? : Answer → Option Pending
  | .submitted result => result.toOption
  | .pressed pending => pending
  | _ => none

namespace Visit

variable {v : Visit} {op : Operation} {p : Pending}

/-! ## Handing out -/

/-- The line that an operation submits: the one that it is given, for the enter key the one that was
typed, and `clear` for the key that clears the screen. -/
def line? (v : Visit) : Operation → Option String
  | .submit line | .run line _ => some line
  | .key .enter => some v.shell.prompt.buffer
  | .key .ctrlL => some "clear"
  | _ => none

@[simp] theorem handedOut?_complete (v : Visit) (which : Nat) (now : CivilTime) :
    (v.perform (.complete which now)).answer.handedOut? = none := by
  cases hp : v.outstanding[which]? with
  | none =>
    rw [perform_complete_of_none hp]
    rfl
  | some p =>
    rw [perform_complete_of_some hp]
    rfl

@[simp] theorem handedOut?_cancel (v : Visit) (which : Nat) :
    (v.perform (.cancel which)).answer.handedOut? = none := by
  cases hp : v.outstanding[which]? with
  | none =>
    rw [perform_cancel_of_none hp]
    rfl
  | some p =>
    rw [perform_cancel_of_some hp]
    rfl

/-- A busy shell hands out nothing. -/
theorem handedOut?_of_processing (h : v.shell.session.processing = true) (op : Operation) :
    (v.perform op).answer.handedOut? = none := by
  cases op with
  | submit line =>
    simp [perform_submit, Shell.submit_of_processing h, Answer.handedOut?, Except.toOption]
  | key k => simp [perform_key, Shell.key_of_processing h, Answer.handedOut?]
  | complete which now => exact v.handedOut?_complete which now
  | cancel which => exact v.handedOut?_cancel which
  | _ => rfl

/-- What an operation hands out is what a shell of the same settings and the same generator makes of
the line that it submits. -/
theorem exists_pendingOf_of_handedOut? (h : (v.perform op).answer.handedOut? = some p) :
    ∃ (s : Shell) (line : String),
      (s.settings = v.shell.settings ∧ s.generator = v.shell.generator) ∧
        v.line? op = some line ∧ s.pendingOf line = p := by
  cases op with
  | submit line =>
    obtain ⟨-, f, ha⟩ | ⟨-, -, ha⟩ := v.shell.submit_cases line
    · simp [perform_submit, Answer.handedOut?, ha, Except.toOption] at h
    · exact ⟨v.shell, line, ⟨rfl, rfl⟩, rfl,
        by simpa [perform_submit, Answer.handedOut?, ha, Except.toOption] using h⟩
  | key k =>
    obtain ⟨-, line, ha, rfl⟩ := Shell.answer_key_eq_some_iff.mp h
    refine ⟨v.shell.pressed k, line, ⟨rfl, rfl⟩, ?_, rfl⟩
    obtain ⟨rfl, rfl, -⟩ | ⟨rfl, rfl⟩ := Prompt.press_eq_submit_iff.mp ha <;> rfl
  | complete which now => simp at h
  | cancel which => simp at h
  | run line now => simp [perform_run, after, Answer.handedOut?] at h
  | tourTick => simp [perform_tourTick, after, Answer.handedOut?] at h
  | _ => simp [perform, performM, after, quietly, Answer.handedOut?] at h

/-- A command that is handed out carries the submitted line as it stands. -/
theorem line?_of_handedOut? (h : (v.perform op).answer.handedOut? = some p) :
    v.line? op = some p.raw := by
  obtain ⟨s, line, -, hline, rfl⟩ := exists_pendingOf_of_handedOut? h
  exact hline

/-! ## Taking back -/

/-- The pending command that an operation takes back, by completing, cancelling or dropping it. -/
def takenBack? (v : Visit) : Operation → Option Pending
  | .complete which _ | .cancel which | .drop which => v.outstanding[which]?
  | _ => none

theorem mem_outstanding_of_takenBack? (h : v.takenBack? op = some p) : p ∈ v.outstanding := by
  cases op with
  | complete which now => exact List.mem_of_getElem? h
  | cancel which => exact List.mem_of_getElem? h
  | drop which => exact List.mem_of_getElem? h
  | _ => simp [takenBack?] at h

/-- The pending commands that an operation does not take back. -/
def kept (v : Visit) : Operation → List Pending
  | .complete which _ | .cancel which | .drop which => v.outstanding.eraseIdx which
  | _ => v.outstanding

theorem kept_sublist (v : Visit) (op : Operation) : (v.kept op).Sublist v.outstanding := by
  cases op with
  | complete which now => exact List.eraseIdx_sublist v.outstanding which
  | cancel which => exact List.eraseIdx_sublist v.outstanding which
  | drop which => exact List.eraseIdx_sublist v.outstanding which
  | _ => exact List.Sublist.refl _

/-- Of at most one outstanding command, an operation keeps what it does not take back. -/
theorem mem_kept_iff (h : v.outstanding.length ≤ 1) :
    p ∈ v.kept op ↔ p ∈ v.outstanding ∧ v.takenBack? op ≠ some p := by
  have herase : ∀ which, p ∈ v.outstanding.eraseIdx which ↔
      p ∈ v.outstanding ∧ v.outstanding[which]? ≠ some p := by
    intro which
    match hout : v.outstanding with
    | [] => simp
    | [q] =>
      cases which with
      | zero => simp [eq_comm]
      | succ i => simp
    | _ :: _ :: _ => simp [hout] at h
  cases op with
  | complete which now => exact herase which
  | cancel which => exact herase which
  | drop which => exact herase which
  | _ => simp [kept, takenBack?]

/-- What is outstanding after an operation is what it did not take back and what it handed out. -/
theorem outstanding_perform (v : Visit) (op : Operation) :
    (v.perform op).visit.outstanding =
      v.kept op ++ (v.perform op).answer.handedOut?.toList := by
  have hnowhere : ∀ {which}, v.outstanding[which]? = none →
      v.outstanding.eraseIdx which = v.outstanding :=
    fun hp => List.eraseIdx_of_length_le (List.getElem?_eq_none_iff.mp hp)
  cases op with
  | submit line => rfl
  | key k => rfl
  | complete which now =>
    rw [handedOut?_complete, Option.toList_none, List.append_nil]
    cases hp : v.outstanding[which]? with
    | none => rw [perform_complete_of_none hp, kept, hnowhere hp]
    | some p => rw [perform_complete_of_some hp, kept, after, takeBack]
  | cancel which =>
    rw [handedOut?_cancel, Option.toList_none, List.append_nil]
    cases hp : v.outstanding[which]? with
    | none => rw [perform_cancel_of_none hp, kept, hnowhere hp]
    | some p => rw [perform_cancel_of_some hp, kept, quietly, takeBack]
  | _ => exact (List.append_nil _).symm

end Visit

end PortfolioTerminal
