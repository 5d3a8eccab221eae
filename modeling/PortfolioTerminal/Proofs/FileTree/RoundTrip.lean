/-
# There and back

A directory is written in three ways: as `pwd` prints it, as the prompt shows it, and by its name
alone in its parent.  All three are read back as the directory they were written for, and `..` leads
from the directory to its parent again.

The written forms begin differently and so are resolved differently: the path at the slash, the
prompt's form after the `~`, the name relative to the parent, and `..` by a cut in the text.  A name
is safe to type when it has no meaning of its own as a path, which leaves out `~` besides `.` and
`..`.
-/
import PortfolioTerminal.Evaluation
import PortfolioTerminal.Proofs.FileTree.ChangeDirectory
import PortfolioTerminal.Proofs.Path.Steps

namespace PortfolioTerminal

namespace FileTree

variable {tree : FileTree} {cwd : String}

/-! ## Names that are safe to type -/

theorem isPlainName_of_isBareName {name : String} (h : isBareName name = true) :
    Path.isPlainName name = true := by
  simp only [isBareName, Bool.and_eq_true] at h
  obtain ⟨⟨⟨⟨hslash, hempty⟩, hdot⟩, hdots⟩, -⟩ := h
  simp only [Path.isPlainName, Bool.and_eq_true]
  exact ⟨⟨⟨hempty, hdot⟩, hdots⟩, hslash⟩

theorem wellNamed_plainName_of_bareName (h : tree.WellNamed isBareName) :
    tree.WellNamed Path.isPlainName :=
  Node.wellNamed_mono (fun _ => isPlainName_of_isBareName) h

/-- A name that has no meaning of its own as a path is relative. -/
theorem isRelative_of_isBareName {name : String} (h : isBareName name = true) :
    Path.isRelative name = true := by
  rcases Path.beginning_cases name with (rfl | rfl) | ⟨rest, rfl⟩ | ⟨rest, rfl⟩ | hrelative
  · contradiction
  · contradiction
  · simp [isBareName] at h
  · simp [isBareName] at h
  · exact hrelative

/-- From a directory, such a name is resolved to the path of the entry that bears it. -/
theorem resolve_of_isBareName {directory name : String} (h : Path.IsCanonical directory)
    (hname : isBareName name = true) :
    Path.resolve directory name = Path.child directory name :=
  calc Path.resolve directory name
    _ = Path.resolve (Path.resolve Path.root directory) name := by
      rw [Path.resolve_of_isCanonical h]
    _ = Path.resolve Path.root (directory ++ "/" ++ name) :=
      Path.resolve_resolve Path.isCanonical_root directory (isRelative_of_isBareName hname)
    _ = Path.child (Path.resolve Path.root directory) name :=
      Path.resolve_join Path.isCanonical_root (isPlainName_of_isBareName hname) directory
    _ = Path.child directory name := by rw [Path.resolve_of_isCanonical h]

/-! ## Typed back -/

/-- A target that resolves to a directory is moved to. -/
theorem changeDirectory_of_resolve_eq {target path : String}
    (hresolve : Path.resolve cwd target = path) (hpath : tree.isDirectory path = true) :
    tree.changeDirectory cwd (some target) = .ok path := by
  subst hresolve
  obtain ⟨node, hnode, hdirectory⟩ := (Option.any_eq_true _ _).mp hpath
  have hfind : tree.find? (Path.resolve cwd ((some target).getD Path.root)) = some node := hnode
  rw [changeDirectory_of_some hfind, if_pos hdirectory]
  rfl

/-- A listed directory other than the root is the child of its parent that bears its last
component, and this name is safe to type. -/
theorem exists_name_of_mem_directories (h : tree.WellNamed isBareName) {path : String}
    (hpath : path ∈ tree.directories) (hroot : path ≠ Path.root) :
    ∃ name, isBareName name = true ∧ Path.lastComponent? path = some name ∧
      path = Path.child (Path.parent path) name := by
  have hentry := wellNamed_entryName_of_plainName (wellNamed_plainName_of_bareName h)
  obtain ⟨names, e, d, he, -, hd, -, hchild, hparent⟩ :=
    exists_parent_of_mem_directories hentry hpath hroot
  have hname := ((Node.wellNamed_iff.mp (Node.wellNamed_of_descend? h he)).2 d hd).1
  have habove := Node.ok_of_descend? hentry he
  have hnames : ∀ n ∈ names ++ [d.name], Path.isEntryName n = true :=
    List.forall_mem_append.mpr ⟨habove, List.forall_mem_singleton.mpr
      (Path.isEntryName_of_isPlainName (isPlainName_of_isBareName hname))⟩
  refine ⟨d.name, hname, ?_, ?_⟩
  · rw [hchild, Path.lastComponent?, Path.components_ofComponents hnames, List.getLast?_concat]
  · rw [hparent, Path.child_ofComponents habove]
    exact hchild

/-- **A directory that is written down is found again**: from anywhere, as `pwd` prints it and as
the prompt shows it, and from its parent by its last component; `..` leads back to the parent. -/
theorem changeDirectory_written (h : tree.WellNamed isBareName) {path : String}
    (hpath : path ∈ tree.directories) :
    (∀ (s : Session) (w : Surroundings) (cwd : String), s.cwd = path →
      (∃ printed, Topic.output s w .pwd = .text .system printed ∧
        tree.changeDirectory cwd (some printed) = .ok path) ∧
      tree.changeDirectory cwd (some s.displayPath) = .ok path) ∧
    (path ≠ Path.root →
      ∃ name, Path.lastComponent? path = some name ∧
        path = Path.child (Path.parent path) name ∧
        Path.parent path ∈ tree.directories ∧
        tree.changeDirectory (Path.parent path) (some name) = .ok path ∧
        tree.changeDirectory path (some "..") = .ok (Path.parent path)) := by
  have hplain := wellNamed_plainName_of_bareName h
  have hentry := wellNamed_entryName_of_plainName hplain
  have hcanonical := isCanonical_of_mem_directories hplain hpath
  have hdirectory := isDirectory_of_mem_directories hentry hpath
  refine ⟨?_, fun hroot => ?_⟩
  · rintro s w cwd rfl
    exact ⟨⟨s.cwd, rfl, changeDirectory_of_resolve_eq
        (Path.resolve_of_isCanonical hcanonical cwd) hdirectory⟩,
      changeDirectory_of_resolve_eq (Path.resolve_display hcanonical cwd) hdirectory⟩
  · have hparent := parent_mem_directories hentry hpath
    obtain ⟨name, hname, hlast, hchild⟩ := exists_name_of_mem_directories h hpath hroot
    have hdown : Path.resolve (Path.parent path) name = path := by
      rw [resolve_of_isBareName (isCanonical_of_mem_directories hplain hparent) hname,
        ← hchild]
    exact ⟨name, hlast, hchild, hparent, changeDirectory_of_resolve_eq hdown hdirectory,
      changeDirectory_of_resolve_eq (Path.resolve_dots path)
        (isDirectory_of_mem_directories hentry hparent)⟩

/-- A directory named like the one it is in, but for a `~` in front. -/
theorem changeDirectory_tilde_name :
    let tree : FileTree := ⟨[.file "b" "", .directory "a" [.file "a" "", .directory "~a" []]]⟩
    tree.WellNamed isBareName ∧ "/a/~a" ∈ tree.directories ∧
      tree.changeDirectory "/" (some "~/a/~a") = .ok "/a/~a" ∧
      tree.changeDirectory "/a" (some "~a") = .ok "/a/~a" ∧
      tree.changeDirectory "/a/~a" (some "..") = .ok "/a" := by
  intro tree
  have hnamed : tree.WellNamed isBareName := by decide +kernel
  have hpath : "/a/~a" ∈ tree.directories := by decide +kernel
  obtain ⟨hwritten, hparent⟩ := changeDirectory_written hnamed hpath
  obtain ⟨name, hlast, -, -, hdown, hup⟩ := hparent (by decide)
  have hname : Path.lastComponent? "/a/~a" = some "~a" := by decide +kernel
  obtain rfl : name = "~a" := Option.some.inj (hlast.symm.trans hname)
  exact ⟨hnamed, hpath,
    (hwritten { cwd := "/a/~a" } ⟨tree, {}, ⟨2024, 3, 9, 14, 5, 0⟩⟩ "/" rfl).2, hdown, hup⟩

end FileTree

end PortfolioTerminal
