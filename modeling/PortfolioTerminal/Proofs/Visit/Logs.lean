/-
# The logs

The two logs are the trace of the run.  They list the commands that were completed since the last
`clear`, in the order in which they were completed: each with the line that was submitted, as it
stood, and with the output that its evaluation gave.  Recalling a line, numbering the lines and
showing the rows read the same trace, and so does a completed `history`.

That the records come from the trace one by one is known of runs already; here they are followed
back to the submissions that they come from, by induction on the run from its end, and read off.
-/
import PortfolioTerminal.Proofs.Visit.Flight

namespace PortfolioTerminal

/-! ## What the logs should hold -/

/-- The lines of the commands, each with its ordinal, counted from one. -/
def ordinals (trace : List Completion) : List (String × String) :=
  trace.mapIdx fun i c => (toString (i + 1), c.pending.raw)

/-- The logs list exactly those commands, in that order. -/
structure History.Lists (h : History) (trace : List Completion) : Prop where
  /-- Each log has one entry for each command. -/
  length_commands : h.commands.length = trace.length
  length_outputs : h.outputs.length = trace.length
  /-- Each line was recorded under its place, counted from zero. -/
  commands_eq : h.commands = trace.mapIdx fun i c => ⟨i, c.pending.raw⟩
  outputs_eq : h.outputs.map (some ·.output) = trace.map (·.outcome.output)
  /-- A row joins the entries of both logs in its place. -/
  rows_eq : h.rows.map (·.index) = List.range trace.length ∧
    h.rows.map (·.raw) = h.lines ∧ h.rows.map (·.output) = h.outputs

theorem History.Lists.lines_eq {h : History} {trace : List Completion} (hl : h.Lists trace) :
    h.lines = trace.map (·.pending.raw) := by
  rw [lines, hl.commands_eq]
  exact List.ext_getElem (by simp) (by simp)

/-- Lists that correspond member by member are the same in whatever corresponding members agree
in. -/
theorem map_eq_map_of_forall₂ {α β γ : Type} {R : α → β → Prop} {l : List α} {l' : List β}
    {f : α → γ} {g : β → γ} (h : List.Forall₂ R l l') (hfg : ∀ a b, R a b → f a = g b) :
    l.map f = l'.map g := by
  rw [← List.forall₂_eq_eq_eq, List.forall₂_map_left_iff, List.forall₂_map_right_iff]
  exact h.imp hfg

/-- Where each line was recorded under its place, the lines tell the whole log. -/
theorem History.commands_eq_mapIdx {h : History}
    (hindices : h.rows.map (·.index) = List.range h.length) :
    h.commands = h.lines.mapIdx fun i raw => ⟨i, raw⟩ := by
  have hnumbers : h.commands.map (·.index) = List.range h.length := by
    rw [← hindices, ← map_command_rows, List.map_map]
    rfl
  refine List.ext_getElem (by simp [lines]) fun i hi _ => ?_
  have hindex := List.getElem_of_eq hnumbers (by simpa using hi)
  rw [List.getElem_map, List.getElem_range] at hindex
  rw [List.getElem_mapIdx, RecordedCommand.mk.injEq]
  exact ⟨hindex, (List.getElem_map ..).symm⟩

namespace Visit

variable {v : Visit} {op : Operation} {c : Completion} {p : Pending}

/-- In the run the command was handed out for exactly the line that was submitted, and it has been
neither completed, nor cancelled, nor dropped since. -/
def Submitted (v : Visit) (p : Pending) : List Operation → Prop :=
  Since (fun before op => ((v.performAll before).perform op).answer.handedOut? = some p ∧
      (v.performAll before).line? op = some p.raw)
    (fun before op => (v.performAll before).takenBack? op ≠ some p)

/-- In the run the command was read from its line and completed, either by running the line or after
it was submitted and held. -/
def Performed (v : Visit) (c : Completion) (ops : List Operation) : Prop :=
  ∃ before op after, ops = before ++ op :: after ∧
    (v.performAll before).completion? op = some c ∧
    c.pending.command = Command.parse c.pending.raw ∧
    (op = .run c.pending.raw c.now ∨ v.Submitted c.pending before)

/-! ## The records of a run -/

/-- A command completed since the last `clear` is not `clear`. -/
theorem command_ne_clear_of_mem {ops : List Operation} (h : c ∈ v.completedSinceClear ops) :
    c.pending.command ≠ .clear := by
  simpa using List.mem_rtakeWhile_imp h

theorem lists_performAll (hv : v.shell.history.rows = []) (ops : List Operation) :
    (v.performAll ops).shell.history.Lists (v.completedSinceClear ops) := by
  set h := (v.performAll ops).shell.history
  have hrows := forall₂_rows_performAll hv ops
  have hindices : h.rows.map (·.index) = List.range h.length := map_index_rows_performAll hv ops
  have hlength : h.length = (v.completedSinceClear ops).length := by
    rw [← History.length_rows]
    exact hrows.length_eq.symm
  have hparts : ∀ (c : Completion) (row : HistoryRow), c.row? = some row →
      c.pending.raw = row.raw ∧ c.outcome.output = some row.output.output := by
    rintro c row hrow
    obtain ⟨output, ho, rfl⟩ := Option.map_eq_some_iff.mp hrow
    exact ⟨rfl, ho⟩
  have hlines : (v.completedSinceClear ops).map (·.pending.raw) = h.lines := by
    rw [← History.map_raw_rows]
    exact map_eq_map_of_forall₂ hrows fun c row hrow => (hparts c row hrow).1
  have houtputs : (v.completedSinceClear ops).map (·.outcome.output) =
      h.outputs.map (some ·.output) := by
    rw [← History.map_output_rows, List.map_map]
    exact map_eq_map_of_forall₂ hrows fun c row hrow => (hparts c row hrow).2
  refine ⟨hlength, h.length_outputs.trans hlength, ?_, houtputs.symm, hlength ▸ hindices,
    h.map_raw_rows, h.map_output_rows⟩
  rw [History.commands_eq_mapIdx hindices, ← hlines]
  exact List.ext_getElem (by simp) (by simp)

/-! ## Where the trace comes from -/

/-- What is completed was read from a submitted line, and it was held until then. -/
theorem performed_of_mem_completed (settings : Settings) (chance : Chance) {ops : List Operation}
    (h : c ∈ (start settings chance).completed ops) : (start settings chance).Performed c ops := by
  induction ops using List.reverseRecOn with
  | nil => simp [completed] at h
  | append_singleton ops op ih =>
    rw [completed_concat, List.mem_append, Option.mem_toList] at h
    rcases h with h | h
    · obtain ⟨before, op', after, rfl, hperformed⟩ := ih h
      exact ⟨before, op', after ++ [op], by simp, hperformed⟩
    · refine ⟨ops, op, [], rfl, h, (parsed_performAll settings chance ops).of_completion? h, ?_⟩
      cases op with
      | run line now =>
        obtain ⟨-, rfl⟩ := completion?_run_eq_some_iff.mp h
        exact .inl rfl
      | complete which now =>
        obtain ⟨p, hp, rfl⟩ := Option.map_eq_some_iff.mp h
        have hheld := (mem_outstanding_performAll_iff settings chance ops).mp
          (List.mem_of_getElem? hp)
        exact .inr (hheld.mono fun _ _ hout => ⟨hout, line?_of_handedOut? hout⟩)
      | _ => simp [completion?] at h

/-! ## Reading the logs -/

theorem numbered_eq_of_lists {h : History} {trace : List Completion} (hl : h.Lists trace) :
    h.numbered = ordinals trace := by
  rw [History.numbered, hl.lines_eq, List.zipIdx_map, List.map_map, ordinals,
    List.mapIdx_eq_zipIdx_map]
  rfl

/-- What `history` shows when it is evaluated: the lines of the commands completed so far. -/
theorem output_history (hv : v.shell.history.rows = []) {ops : List Operation}
    (hc : (v.performAll ops).completion? op = some c)
    (hcommand : c.pending.command = .info .history) :
    c.outcome.output = some ⟨.info, .table (ordinals (v.completedSinceClear ops))⟩ := by
  have hnumbered : c.shell.history.numbered = (v.performAll ops).shell.history.numbered := by
    rw [History.numbered, (sameWork_of_completion? hc).lines_eq, History.numbered]
  have hshown : c.outcome.output = some ⟨.info, .table c.shell.history.numbered⟩ := by
    rw [Completion.outcome, Shell.outcome, hcommand]
    rfl
  rw [hshown, hnumbered, numbered_eq_of_lists (lists_performAll hv ops)]

/-- A `history` in the trace shows the lines that stand before its own. -/
theorem output_history_of_getElem? (hv : v.shell.history.rows = []) {ops : List Operation}
    {i : Nat} (hc : (v.completedSinceClear ops)[i]? = some c)
    (hcommand : c.pending.command = .info .history) :
    c.outcome.output = some ⟨.info, .table (ordinals ((v.completedSinceClear ops).take i))⟩ := by
  induction ops using List.reverseRecOn with
  | nil => simp [completedSinceClear, completed] at hc
  | append_singleton ops op ih =>
    rw [completedSinceClear_concat] at hc ⊢
    cases hd : (v.performAll ops).completion? op with
    | none =>
      simp only [hd, Option.elim_none] at hc ⊢
      exact ih hc
    | some d =>
      simp only [hd, Option.elim_some] at hc ⊢
      split at hc
      · simp at hc
      · rename_i hclear
        rw [if_neg hclear]
        -- it is an earlier command of the trace, or the one just completed
        rcases Nat.lt_or_ge i (v.completedSinceClear ops).length with hlt | hge
        · rw [List.getElem?_append_left hlt] at hc
          rw [List.take_append_of_le_length hlt.le]
          exact ih hc
        · rw [List.getElem?_append_right hge, List.getElem?_singleton] at hc
          split at hc
          · rename_i hi
            obtain rfl : d = c := Option.some.inj hc
            rw [List.take_append_of_le_length (by omega), List.take_of_length_le (by omega)]
            exact output_history hv hd hcommand
          · contradiction

/-! ## The trace of a run -/

/-- **The logs are the trace of the completed commands**: those completed since the last `clear`,
each with its line as submitted and the output of its evaluation.  What completes nothing leaves no
trace.  Recalling, numbering, showing and a completed `history` read this trace. -/
theorem lists_completedSinceClear (settings : Settings) (chance : Chance) (ops : List Operation) :
    let run := start settings chance
    let v := run.performAll ops
    let h := v.shell.history
    let commands := run.completedSinceClear ops
    h.Lists commands ∧
      (∀ c ∈ commands, run.Performed c ops ∧ c.pending.command ≠ .clear) ∧
      (∀ op, v.completion? op = none → (v.perform op).visit.shell.history.rows = h.rows) ∧
      (∀ offset, h.recalled? offset = commands.reverse[offset]?.map (·.pending.raw)) ∧
      h.numbered = ordinals commands ∧
      (∀ (i : Nat) (c : Completion), commands[i]? = some c →
        c.pending.command = .info .history →
        c.outcome.output = some ⟨.info, .table (ordinals (commands.take i))⟩) ∧
      h.view.hidden = (if h.compact then commands.length - 3 else 0) ∧
      h.view.rows = h.rows.drop h.view.hidden := by
  intro run v h commands
  have hlists : h.Lists commands := lists_performAll (v := start settings chance) rfl ops
  have hlength : h.length = commands.length := hlists.length_commands
  refine ⟨hlists, fun c hc => ⟨?_, command_ne_clear_of_mem hc⟩, fun op hop => ?_, fun offset => ?_,
    numbered_eq_of_lists hlists, fun i c => output_history_of_getElem? rfl, ?_, rfl⟩
  · exact performed_of_mem_completed settings chance
      ((List.rtakeWhile_suffix _ _).subset hc)
  · exact (sameWork_perform hop).rows
  · rw [History.recalled?_eq, hlists.lines_eq, ← List.map_reverse, List.getElem?_map]
  · simp only [History.view, History.hidden, History.compactLength, hlength]

/-- After a cancelled line and a delayed one, `history` shows the delayed one as it was typed, and a
line submitted then is in no row yet. -/
theorem output_history_after_cancel :
    let now : CivilTime := ⟨2024, 3, 9, 14, 5, 0⟩
    let ops : List Operation := [.run "pwd" now, .submit "date", .cancel 0, .submit "  Echo Hi",
      .complete 0 now, .run "history" now]
    (∃ c, c.outcome.output = some ⟨.info, .table [("1", "pwd"), ("2", "  Echo Hi")]⟩ ∧
        (start {} .least).Performed c ops) ∧
      (((start {} .least).performAll ops).perform
        (.submit "ls")).visit.shell.history.rows.length = 3 := by
  intro now ops
  obtain ⟨-, hperformed, hleft, -, -, hhistory, -⟩ := lists_completedSinceClear {} .least ops
  have hthird : ((start {} .least).completedSinceClear ops)[2]?.map (·.pending.command) =
      some (.info .history) := by decide +kernel
  obtain ⟨c, hc, hcommand⟩ := Option.map_eq_some_iff.mp hthird
  have hshown : ordinals (((start {} .least).completedSinceClear ops).take 2) =
      [("1", "pwd"), ("2", "  Echo Hi")] := by decide +kernel
  refine ⟨⟨c, ?_, ?_⟩, ?_⟩
  · rw [hhistory 2 c hc hcommand, hshown]
  · exact (hperformed c (List.mem_of_getElem? hc)).1
  · rw [hleft (.submit "ls") rfl]
    decide +kernel

end Visit

end PortfolioTerminal
