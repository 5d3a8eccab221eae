/-
# The working directory

Whatever is typed, the shell stands at the canonical path of a directory of its tree.  Text reaches
the working directory only through a completed `cd`, whose target was resolved in the state that
evaluates the command; what it resolves to, by any of the ways of resolution, is a directory of the
tree, and the tree never changes.
-/
import PortfolioTerminal.Proofs.FileTree.Directories
import PortfolioTerminal.Proofs.Visit.Run

namespace PortfolioTerminal

/-! ## The two properties -/

/-- The working directory is the canonical path of a directory of the tree. -/
structure Shell.InDirectory (s : Shell) : Prop where
  canonical : Path.IsCanonical s.session.cwd
  isDirectory : s.tree.isDirectory s.session.cwd = true

namespace Visit

/-- The operation completes a `cd`, and the line and an output that is no error are recorded. -/
def CompletesCd (v : Visit) (op : Operation) : Prop :=
  ∃ c path record, v.completion? op = some c ∧ c.pending.command = .cd path ∧
    (v.perform op).visit.shell.history.rows = v.shell.history.rows ++ [record] ∧
    Command.parse record.raw = .cd path ∧ record.output.output.kind ≠ .error

variable {v : Visit} {op : Operation} {c : Completion}

/-! ## Changes of the directory -/

/-- An operation that changes the working directory completes a `cd`, and changes it to what its
target leads to. -/
theorem exists_cd_of_cwd_perform_ne
    (h : (v.perform op).visit.shell.session.cwd ≠ v.shell.session.cwd) :
    ∃ c path, v.completion? op = some c ∧ c.pending.command = .cd path ∧
      v.shell.tree.changeDirectory v.shell.session.cwd (path.map (·.text)) =
        .ok (v.perform op).visit.shell.session.cwd := by
  cases hc : v.completion? op with
  | none => exact absurd (sameWork_perform hc).cwd h
  | some c =>
    have hsame := sameWork_of_completion? hc
    have hcwd : (v.perform op).visit.shell.session.cwd =
        (c.outcome.effect.bind Effect.directory?).getD v.shell.session.cwd := by
      rw [shell_perform_of_completion? hc, ← hsame.cwd]
      exact c.shell.cwd_complete c.pending c.now
    cases he : c.outcome.effect.bind Effect.directory? with
    | none =>
      rw [he] at hcwd
      exact absurd hcwd h
    | some target =>
      rw [he, Option.getD_some] at hcwd
      obtain ⟨e, he, htarget⟩ := Option.bind_eq_some_iff.mp he
      obtain rfl := Effect.directory?_eq_some_iff.mp htarget
      obtain ⟨path, hcommand, hchange⟩ := Command.effect_evaluate_eq_changeDirectory_iff.mp he
      refine ⟨c, path, rfl, hcommand, ?_⟩
      rw [hcwd, ← hsame.cwd, ← hsame.tree]
      exact hchange

/-- A completed `cd` whose target leads somewhere records its line with an output that is no
error. -/
theorem completesCd_of_changeDirectory (h : v.Parsed) {path : Option TypedPath} {target : String}
    (hc : v.completion? op = some c) (hcommand : c.pending.command = .cd path)
    (hchange : v.shell.tree.changeDirectory v.shell.session.cwd (path.map (·.text)) =
      .ok target) : v.CompletesCd op := by
  have hsame := sameWork_of_completion? hc
  have hchange' : c.shell.tree.changeDirectory c.shell.session.cwd (path.map (·.text)) =
      .ok target := by
    rw [hsame.cwd, hsame.tree]
    exact hchange
  have heffect : (c.shell.outcome c.pending c.now).effect ≠ some .clearHistory := by
    intro hclear
    have hcl := Command.effect_evaluate_eq_clearHistory_iff.mp hclear
    rw [hcommand] at hcl
    contradiction
  have houtput : (c.shell.outcome c.pending c.now).output = some (.text .system target) := by
    rw [Shell.outcome, hcommand]
    exact Command.output_evaluate_cd hchange'
  refine ⟨c, path, c.shell.history.nextRow c.pending.raw (.text .system target), hc, hcommand,
    ?_, ?_, by simp [History.nextRow, Output.text]⟩
  · rw [shell_perform_of_completion? hc, ← hsame.rows]
    simp [Completion.reply, Shell.history_complete, heffect, houtput]
  · exact (h.of_completion? hc).symm.trans hcommand

/-! ## One operation -/

/-- What every operation keeps: the tree is well named, the shell stands in a directory of it, and
the outstanding commands are what their lines read as. -/
structure Settled (v : Visit) : Prop where
  wellNamed : v.shell.tree.WellNamed Path.isPlainName
  inDirectory : v.shell.InDirectory
  parsed : v.Parsed

theorem settled_start (settings : Settings) (chance : Chance) :
    (start settings chance).Settled where
  wellNamed := FileTree.wellNamed_portfolio
  inDirectory := ⟨Path.isCanonical_root, FileTree.isDirectory_root _⟩
  parsed := by simp [Parsed, outstanding_start]

theorem settled_perform (v : Visit) (op : Operation) (h : v.Settled) :
    (v.perform op).visit.Settled := by
  refine ⟨?_, ?_, h.parsed.perform op⟩
  · rw [tree_perform]
    exact h.wellNamed
  -- a directory that stays is still one, and a new one comes from the tree
  · by_cases hcwd : (v.perform op).visit.shell.session.cwd = v.shell.session.cwd
    · refine ⟨?_, ?_⟩
      · rw [hcwd]
        exact h.inDirectory.canonical
      · rw [hcwd, tree_perform]
        exact h.inDirectory.isDirectory
    · obtain ⟨c, path, -, -, hchange⟩ := exists_cd_of_cwd_perform_ne hcwd
      obtain ⟨hcanonical, hdirectory⟩ :=
        FileTree.changeDirectory_sound h.wellNamed h.inDirectory.canonical hchange
      refine ⟨hcanonical, ?_⟩
      rw [tree_perform]
      exact hdirectory

/-! ## Runs -/

variable (settings : Settings) (chance : Chance)

theorem settled_performAll (ops : List Operation) :
    ((start settings chance).performAll ops).Settled :=
  invariant_performAll settled_perform (settled_start settings chance) ops

/-- **The working directory is always the canonical path of a directory of the tree**, and only an
operation that completes a successful `cd` changes it. -/
theorem inDirectory_and_completesCd_of_cwd_ne (ops : List Operation) :
    ((start settings chance).performAll ops).shell.InDirectory ∧
      ∀ op, (((start settings chance).performAll ops).perform op).visit.shell.session.cwd ≠
          ((start settings chance).performAll ops).shell.session.cwd →
        ((start settings chance).performAll ops).CompletesCd op := by
  have h := settled_performAll settings chance ops
  refine ⟨h.inDirectory, fun op hcwd => ?_⟩
  obtain ⟨c, path, hc, hcommand, hchange⟩ := exists_cd_of_cwd_perform_ne hcwd
  exact completesCd_of_changeDirectory h.parsed hc hcommand hchange

/-- A name that is known elsewhere in the tree changes the directory. -/
theorem completesCd_of_run_known_name :
    ((start {} .least).performAll [.run "cd projects" ⟨2024, 3, 9, 14, 5, 0⟩]).CompletesCd
      (.run "cd blog" ⟨2024, 3, 9, 14, 5, 0⟩) := by
  refine (inDirectory_and_completesCd_of_cwd_ne {} .least
    [.run "cd projects" ⟨2024, 3, 9, 14, 5, 0⟩]).2 _ ?_
  decide +kernel

end Visit

end PortfolioTerminal
