/-
# Changing the directory

What `cd` does is decided by where its target leads.  A directory is moved to, a file is refused,
and where nothing is the target may still be the name of a directory elsewhere.  The search for that
name looks at the text after the last slash of each listed path; on the listed paths this is the
last component, so that the search neither takes the root for a directory with an empty name nor
misses a directory.
-/
import Mathlib.Data.List.Find
import PortfolioTerminal.Proofs.FileTree.Directories
import PortfolioTerminal.Proofs.Path.Route

namespace PortfolioTerminal

/-! ## The last component -/

namespace Path

/-- The last component of a path; the root has none. -/
def lastComponent? (path : String) : Option String := (components path).getLast?

theorem lastName_ofComponents_append {names : List String} {name : String}
    (h : isEntryName name = true) : lastName (ofComponents (names ++ [name])) = name := by
  have hslash : '/' ∉ name.toList.reverse := by simpa using (isEntryName_iff.mp h).2
  have htake : (name.toList.reverse ++ '/' :: (slashed names).reverse).takeWhile (· != '/') =
      name.toList.reverse := by
    rw [List.takeWhile_append_of_pos]
    · simp
    · intro c hc
      simpa using fun hc' : c = '/' => hslash (hc' ▸ hc)
  rw [lastName, Text.lastPiece, reverse_toList_ofComponents_append, htake, List.reverse_reverse,
    String.ofList_toList]

/-- On a canonical path, the text after the last slash is the last component, or empty. -/
theorem lastName_eq_iff {path target : String} (hpath : IsCanonical path) (htarget : target ≠ "") :
    lastName path = target ↔ lastComponent? path = some target := by
  obtain ⟨names, hnames, rfl⟩ := hpath
  have hentries := isEntryName_of_mem_plain hnames
  rw [lastComponent?, components_ofComponents hentries]
  rcases List.eq_nil_or_concat names with rfl | ⟨names, name, rfl⟩
  · have hroot : lastName (ofComponents []) = "" := by decide
    rw [hroot, List.getLast?_nil]
    exact iff_of_false htarget.symm (by simp)
  · rw [List.concat_eq_append] at hentries ⊢
    rw [lastName_ofComponents_append (hentries name (by simp)), List.getLast?_concat,
      Option.some.injEq]

/-- The last component of a canonical path is a plain name. -/
theorem isPlainName_of_lastComponent? {path name : String} (hpath : IsCanonical path)
    (hlast : lastComponent? path = some name) : isPlainName name = true := by
  obtain ⟨names, hnames, rfl⟩ := hpath
  rw [lastComponent?, components_ofComponents (isEntryName_of_mem_plain hnames)] at hlast
  exact hnames name (List.mem_of_getLast? hlast)

end Path

namespace FileTree

variable {tree : FileTree} {cwd : String}

/-! ## Searching by name -/

/-- The first listed directory whose last component is the name. -/
def named? (tree : FileTree) (name : String) : Option String :=
  tree.directories.find? fun path => Path.lastComponent? path == some name

/-- A plain name has no meaning of its own as a path, except for `~`. -/
theorem isBareName_of_isPlainName {name : String} (h : Path.isPlainName name = true)
    (htilde : name ≠ "~") : isBareName name = true := by
  obtain ⟨hentry, hdot, hdots⟩ := Path.isPlainName_iff.mp h
  obtain ⟨hempty, hslash⟩ := Path.isEntryName_iff.mp hentry
  simp [isBareName, hempty, hslash, hdot, hdots, htilde]

/-- A target that leads nowhere is looked for by its last component. -/
theorem findByName?_eq (h : tree.WellNamed Path.isPlainName) {target : String}
    (htarget : tree.find? (Path.resolve cwd target) = none) :
    tree.findByName? target = tree.named? target := by
  have hroot : tree.find? Path.root ≠ none := by
    intro hnone
    have hdirectory := tree.isDirectory_root
    rw [isDirectory, hnone] at hdirectory
    contradiction
  have hempty : target ≠ "" := by
    rintro rfl
    exact hroot htarget
  have htilde : target ≠ "~" := by
    rintro rfl
    exact hroot htarget
  unfold findByName?
  split
  · -- both searches go through the same list, and agree on each of its paths
    rw [named?]
    refine List.find?_congr fun path hpath => ?_
    have hlast := Path.lastName_eq_iff (isCanonical_of_mem_directories h hpath) hempty
    rw [Bool.eq_iff_iff, beq_iff_eq, beq_iff_eq, hlast]
  · -- a text with a meaning of its own, or with a slash, is no last component
    rename_i hbare
    symm
    rw [named?, List.find?_eq_none]
    intro path hpath hlast
    have hplain := Path.isPlainName_of_lastComponent? (isCanonical_of_mem_directories h hpath)
      (by simpa using hlast)
    exact hbare (isBareName_of_isPlainName hplain htilde)

/-! ## Where `cd` leads -/

/-- A canonical path that leads to a directory is listed. -/
theorem mem_directories_of_isDirectory (h : tree.WellNamed Path.isEntryName) {path : String}
    (hpath : Path.IsCanonical path) (hdirectory : tree.isDirectory path = true) :
    path ∈ tree.directories :=
  (mem_directories_iff_isDirectory h).mpr ⟨hpath.isEntryPath, hdirectory⟩

theorem changeDirectory_of_some {target : Option String} {node : Node}
    (hfind : tree.find? (Path.resolve cwd (target.getD Path.root)) = some node) :
    tree.changeDirectory cwd target =
      if node.isDirectory then .ok (Path.resolve cwd (target.getD Path.root))
      else .error (.notADirectory "cd" (target.getD Path.root)) := by
  simp only [changeDirectory, hfind]

theorem changeDirectory_of_none (h : tree.WellNamed Path.isPlainName) {target : Option String}
    (hfind : tree.find? (Path.resolve cwd (target.getD Path.root)) = none) :
    tree.changeDirectory cwd target =
      (tree.named? (target.getD Path.root)).elim
        (.error (.unknownDirectory "cd" (target.getD Path.root))) .ok := by
  simp only [changeDirectory, hfind, findByName?_eq h hfind]

/-- **What `cd` does**, by where the target leads from a canonical directory, whether or not that
directory exists. -/
theorem changeDirectory_correct (h : tree.WellNamed Path.isPlainName) (hcwd : Path.IsCanonical cwd)
    (target : Option String) :
    let typed := target.getD Path.root
    let path := Path.resolve cwd typed
    (∀ found, tree.changeDirectory cwd target = .ok found →
      found ∈ tree.directories ∧ Path.IsCanonical found ∧ tree.isDirectory found = true) ∧
    (tree.isDirectory path = true → tree.changeDirectory cwd target = .ok path) ∧
    (∀ name content, tree.find? path = some (.file name content) →
      tree.changeDirectory cwd target = .error (.notADirectory "cd" typed)) ∧
    (tree.find? path = none →
      tree.changeDirectory cwd target =
        (tree.named? typed).elim (.error (.unknownDirectory "cd" typed)) .ok) := by
  intro typed path
  refine ⟨fun found hfound => ?_, fun hdirectory => ?_, fun name content hfile => ?_,
    changeDirectory_of_none h⟩
  · obtain ⟨hcanonical, hdirectory⟩ := changeDirectory_sound h hcwd hfound
    have hentry := wellNamed_entryName_of_plainName h
    exact ⟨mem_directories_of_isDirectory hentry hcanonical hdirectory, hcanonical, hdirectory⟩
  · obtain ⟨node, hnode, hdirectory⟩ := (Option.any_eq_true _ _).mp hdirectory
    rw [changeDirectory_of_some hnode, if_pos hdirectory]
  · rw [changeDirectory_of_some hfile]
    rfl

theorem changeDirectory_projects_from_blog :
    portfolio.WellNamed Path.isPlainName ∧ Path.IsCanonical "/blog" ∧
      portfolio.changeDirectory "/blog" (some "projects") = .ok "/projects" := by
  have hcwd : Path.IsCanonical "/blog" := ⟨["blog"], by decide, by decide⟩
  have hcorrect := changeDirectory_correct wellNamed_portfolio hcwd (some "projects")
  refine ⟨wellNamed_portfolio, hcwd, (hcorrect.2.2.2 ?_).trans ?_⟩ <;> rfl

end FileTree

end PortfolioTerminal
