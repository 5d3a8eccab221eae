/-
# The identity of a row

A row on screen is drawn once for its identity.  So no two rows may share one, not even rows that
are never on screen together because a `clear` lies between them.

The argument looks at every record that a run makes, those that a later `clear` removes among them.
Their identities count up, since each takes the next one and `clear` does not set the count back.
At any time the log holds the latest of these records, and what is on screen are the latest of the
log.
-/
import Mathlib.Data.List.Nodup
import PortfolioTerminal.Proofs.Visit.Run

namespace PortfolioTerminal

/-- The identities on screen are the latest of those of the log. -/
theorem History.map_id_view (h : History) :
    h.view.rows.map (·.output.id) = (h.rows.map (·.output.id)).drop h.hidden := by
  rw [view, List.map_drop]

namespace Visit

variable {v : Visit} {op : Operation} {r r' : HistoryRow}

/-! ## All records of a run -/

/-- The record that an operation makes. -/
def row? (v : Visit) (op : Operation) : Option HistoryRow :=
  (v.completion? op).bind Completion.row?

/-- The records that a run makes, those that it removes again among them. -/
def recorded (v : Visit) (ops : List Operation) : List HistoryRow := v.yields row? ops

/-- A record takes the next identity. -/
theorem id_of_row? (h : v.row? op = some r) : r.output.id = v.shell.history.nextId := by
  obtain ⟨c, hc, hr⟩ := Option.bind_eq_some_iff.mp h
  obtain ⟨output, -, rfl⟩ := Option.map_eq_some_iff.mp hr
  exact (sameWork_of_completion? hc).nextId

/-- Every record, and nothing else, uses an identity up. -/
theorem nextId_perform (v : Visit) (op : Operation) :
    (v.perform op).visit.shell.history.nextId =
      v.shell.history.nextId + (v.row? op).toList.length := by
  rw [row?]
  cases hc : v.completion? op with
  | none => exact (sameWork_perform hc).nextId
  | some c =>
    rw [shell_perform_of_completion? hc, Completion.reply, Shell.nextId_complete,
      (sameWork_of_completion? hc).nextId, Option.bind_some, Completion.row?, Completion.outcome]
    cases (c.shell.outcome c.pending c.now).output <;> rfl

theorem nextId_performAll (v : Visit) (ops : List Operation) :
    (v.performAll ops).shell.history.nextId =
      v.shell.history.nextId + (v.recorded ops).length := by
  induction ops using List.reverseRecOn with
  | nil => rfl
  | append_singleton ops op ih =>
    rw [performAll_concat, nextId_perform, ih, recorded, recorded, yields_concat,
      List.length_append, Nat.add_assoc]

/-- The identities of all records of a run count up. -/
theorem map_id_recorded (v : Visit) (ops : List Operation) :
    (v.recorded ops).map (·.output.id) =
      List.range' v.shell.history.nextId (v.recorded ops).length := by
  induction ops using List.reverseRecOn with
  | nil => rfl
  | append_singleton ops op ih =>
    rw [recorded, yields_concat, ← recorded]
    cases hr : (v.performAll ops).row? op with
    | none => simpa using ih
    | some r =>
      have hid : r.output.id = v.shell.history.nextId + (v.recorded ops).length := by
        rw [id_of_row? hr, nextId_performAll]
      rw [Option.toList_some, List.map_append, ih, List.length_append, List.length_singleton,
        List.range'_1_concat, List.map_singleton, hid]

/-- In all of a run, one identity is that of one record. -/
theorem eq_of_mem_recorded {ops : List Operation} (hr : r ∈ v.recorded ops)
    (hr' : r' ∈ v.recorded ops) (hid : r.output.id = r'.output.id) : r = r' := by
  have hnodup : ((v.recorded ops).map (·.output.id)).Nodup := by
    rw [map_id_recorded]
    exact List.nodup_range'
  exact List.inj_on_of_nodup_map hnodup hr hr' hid

/-! ## The log -/

/-- In a run from an empty log, the log holds the latest of all records. -/
theorem rows_suffix_recorded (hv : v.shell.history.rows = []) (ops : List Operation) :
    (v.performAll ops).shell.history.rows <:+ v.recorded ops := by
  induction ops using List.reverseRecOn with
  | nil => simp [hv]
  | append_singleton ops op ih =>
    rw [performAll_concat, rows_perform, recorded, yields_concat, ← recorded, row?]
    cases (v.performAll ops).completion? op with
    | none => simpa using ih
    | some c =>
      rw [Option.elim_some, Option.bind_some]
      split
      · exact List.nil_suffix
      · obtain ⟨earlier, hearlier⟩ := ih
        exact ⟨earlier, by rw [← hearlier, List.append_assoc]⟩

/-- What was recorded at some time of a run is among all its records. -/
theorem recorded_subset_of_prefix {before ops : List Operation} (h : before <+: ops) :
    v.recorded before ⊆ v.recorded ops := by
  obtain ⟨after, rfl⟩ := h
  rw [recorded, recorded, yields_append]
  exact List.subset_append_left _ _

/-- A row that is on screen at some time of a run is one of all its rows. -/
theorem mem_recorded_of_mem_view (hv : v.shell.history.rows = []) {before ops : List Operation}
    (h : before <+: ops) {row : HistoryRow}
    (hrow : row ∈ (v.performAll before).shell.history.view.rows) :
    row ∈ v.recorded ops := by
  have hlog := (rows_suffix_recorded hv before).subset (List.mem_of_mem_drop hrow)
  exact recorded_subset_of_prefix h hlog

/-- **An identity names one row.**  The identities on screen always count up, and two rows with the
same one, whenever in a run they are on screen, show the same line and the same output. -/
theorem rows_eq_of_id_eq (settings : Settings) (chance : Chance) (ops : List Operation) :
    let run := start settings chance
    let rowsAfter := fun before => (run.performAll before).shell.history.view.rows
    ((rowsAfter ops).map (·.output.id)).Pairwise (· < ·) ∧
      ∀ before later, before <+: ops → later <+: ops →
        ∀ row ∈ rowsAfter before, ∀ row' ∈ rowsAfter later, row.output.id = row'.output.id →
          row.raw = row'.raw ∧ row.output.output.kind = row'.output.output.kind ∧
            row.output.output.payload = row'.output.output.payload := by
  intro run rowsAfter
  have hempty : run.shell.history.rows = [] := rfl
  refine ⟨?_, fun before later hbefore hlater row hrow row' hrow' hid => ?_⟩
  · have hall : ((run.recorded ops).map (·.output.id)).Pairwise (· < ·) := by
      rw [map_id_recorded]
      exact List.pairwise_lt_range'
    have hlog := (rows_suffix_recorded hempty ops).sublist.map (·.output.id)
    rw [History.map_id_view]
    exact (hall.sublist hlog).sublist (List.drop_sublist _ _)
  · have hsame := eq_of_mem_recorded (mem_recorded_of_mem_view hempty hbefore hrow)
      (mem_recorded_of_mem_view hempty hlater hrow') hid
    rw [hsame]
    exact ⟨rfl, rfl, rfl⟩

/-- A line recorded after `clear` has the first place of the log again, but an identity of its own,
and it is the same row in the compact view. -/
theorem row_eq_in_compact_view :
    let now : CivilTime := ⟨2024, 3, 9, 14, 5, 0⟩
    let before : List Operation := [.run "pwd" now, .run "clear" now, .run "pwd" now]
    let later : List Operation := [.run "exit" now, .toggleCompact]
    let rowsAfter := fun ops => ((start {} .least).performAll ops).shell.history.view.rows
    ((rowsAfter (before ++ later)).map (·.output.id)).Pairwise (· < ·) ∧
      ∃ row ∈ rowsAfter before, ∃ row' ∈ rowsAfter (before ++ later),
        row.output.id = 1 ∧ row'.output.id = 1 ∧ row.raw = row'.raw ∧
          row.output.output.payload = row'.output.output.payload := by
  intro now before later rowsAfter
  obtain ⟨hcount, hsame⟩ := rows_eq_of_id_eq {} .least (before ++ later)
  have hbefore : ⟨0, "pwd", 1, .text .system "/"⟩ ∈ rowsAfter before := by decide +kernel
  have hlater : ⟨0, "pwd", 1, .text .system "/"⟩ ∈ rowsAfter (before ++ later) := by decide +kernel
  obtain ⟨hraw, -, hpayload⟩ := hsame before (before ++ later) (List.prefix_append _ _)
    (List.prefix_refl _) _ hbefore _ hlater rfl
  exact ⟨hcount, _, hbefore, _, hlater, rfl, rfl, hraw, hpayload⟩

end Visit

end PortfolioTerminal
