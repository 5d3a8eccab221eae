/-
# Reading what is listed

A row of a listing is named to `cat` by the text that was given to `ls`, a slash and the name of the
row.  For files and directories this leads to the listed entry, however the text spells the
directory: the path continues where the text leads, and there a name leads to the one child that
bears it.

The section files are not in the tree.  A listing adds them by the place that the text leads to, the
root, and reading looks for them in the text itself, less the slashes in front.  So they are found
after a text of slashes alone, and after no other spelling of the root.
-/
import Mathlib.Data.List.TakeWhile
import PortfolioTerminal.Proofs.FileTree.Directories
import PortfolioTerminal.Proofs.Path.Route

namespace PortfolioTerminal

namespace FileTree

variable {tree : FileTree} {cwd target : String}

/-! ## Going on from a place -/

/-- A plain name after a text leads to the child of that name where the text leads. -/
theorem find?_resolve_join (hcwd : Path.IsCanonical cwd) {name : String}
    (hname : Path.isPlainName name = true) :
    tree.find? (Path.resolve cwd (target ++ "/" ++ name)) =
      (tree.find? (Path.resolve cwd target)).bind fun d => d.child? name := by
  obtain ⟨names, hnames, hpath⟩ := Path.isCanonical_resolve hcwd target
  have hnames' : ∀ n ∈ names ++ [name], Path.isPlainName n = true := by
    simpa [or_imp, forall_and, hname] using hnames
  have hentries := Path.isEntryName_of_mem_plain hnames
  have hentries' := Path.isEntryName_of_mem_plain hnames'
  rw [Path.resolve_join hcwd hname, hpath, Path.child_ofComponents hentries,
    find?_ofComponents hentries', find?_ofComponents hentries, Node.descend?_append]
  simp

/-! ## Listing -/

theorem list_eq_ok_iff {target : Option String} {rows : List ListingRow} :
    tree.list cwd target = .ok rows ↔
      ∃ name children, tree.find? (target.elim cwd (Path.resolve cwd)) =
          some (.directory name children) ∧
        rows = listing (target.elim cwd (Path.resolve cwd)) children := by
  -- of the three answers only the one for a directory is a listing
  simp only [list]
  cases hfind : tree.find? (target.elim cwd (Path.resolve cwd)) with
  | none => simp
  | some node =>
    cases node with
    | file name content => simp
    | directory name children =>
      constructor
      · intro hrows
        exact ⟨name, children, rfl, (Except.ok.inj hrows).symm⟩
      · rintro ⟨name', children', hnode, rfl⟩
        obtain ⟨rfl, rfl⟩ := Node.directory.inj (Option.some.inj hnode)
        rfl

/-- The section files that a listing adds are those whose names no child bears. -/
theorem mem_sectionRows_iff {children : List Node} {row : ListingRow} :
    row ∈ sectionRows (children.map rowOf) ↔
      ∃ s : Section, row = ⟨s.fileName, .sectionFile⟩ ∧ ∀ c ∈ children, c.name ≠ s.fileName := by
  simp only [sectionRows, List.mem_map, List.mem_filter, Section.mem_all, true_and,
    Bool.not_eq_true', List.any_map, List.any_eq_false, Function.comp_apply, beq_iff_eq]
  exact exists_congr fun s => and_comm.trans (and_congr_left' eq_comm)

/-- The rows of a listing are those of the children and, at the root, those of the section files
whose names no child bears. -/
theorem mem_listing_iff {path : String} {children : List Node} {row : ListingRow} :
    row ∈ listing path children ↔
      (∃ c ∈ children, row = rowOf c) ∨
        path = Path.root ∧ ∃ s : Section, row = ⟨s.fileName, .sectionFile⟩ ∧
          ∀ c ∈ children, c.name ≠ s.fileName := by
  rw [listing]
  split
  · rename_i hroot
    simp [hroot, mem_sectionRows_iff, eq_comm]
  · rename_i hroot
    simp [hroot, eq_comm]

/-! ## Section files -/

theorem ofFileName?_fileName (s : Section) : Section.ofFileName? s.fileName = some s := by
  cases s <;> decide +kernel

/-- No section file has a slash in its name. -/
theorem ofFileName?_of_slash {file : String} (h : '/' ∈ file.toList) :
    Section.ofFileName? file = none := by
  rw [Section.ofFileName?, List.find?_eq_none]
  intro s _ hsame
  have hletters : s.fileName.toList.map Char.toLower = file.toList.map Char.toLower := by
    simpa [Text.sameLetters] using hsame
  have hmem : '/' ∈ s.fileName.toList.map Char.toLower := by
    rw [hletters]
    exact List.mem_map.mpr ⟨'/', h, by decide⟩
  revert hmem
  cases s <;> decide

/-- A section file is found after slashes alone. -/
theorem sectionFile?_join (target : String) (s : Section) :
    sectionFile? (target ++ "/" ++ s.fileName) =
      if target.toList.all (· == '/') then some s else none := by
  have hlist : (target ++ "/" ++ s.fileName).toList =
      target.toList ++ '/' :: s.fileName.toList := by simp
  have hname : s.fileName.toList.dropWhile (· == '/') = s.fileName.toList := by
    cases s <;> decide
  rw [sectionFile?, hlist, List.dropWhile_append]
  cases hslashes : target.toList.all (· == '/') with
  | true =>
    have hnone : target.toList.dropWhile (· == '/') = [] :=
      List.dropWhile_eq_nil_iff.mpr (List.all_eq_true.mp hslashes)
    simp [hnone, hname, ofFileName?_fileName]
  | false =>
    have hsome : target.toList.dropWhile (· == '/') ≠ [] := fun hnone => by
      rw [List.all_eq_true.mpr (List.dropWhile_eq_nil_iff.mp hnone)] at hslashes
      contradiction
    rw [if_neg (by simpa using hsome)]
    -- the slash before the name is kept then
    exact ofFileName?_of_slash (by simp)

/-! ## Reading -/

theorem read_child (h : tree.WellNamed Path.isPlainName) (hcwd : Path.IsCanonical cwd)
    {name : String} {children : List Node}
    (hfind : tree.find? (Path.resolve cwd target) = some (.directory name children)) {c : Node}
    (hc : c ∈ children) :
    tree.read cwd (target ++ "/" ++ c.name) =
      match c with
      | .file _ content => .ok (.text content)
      | .directory _ _ => .error (.isADirectory "cat" (target ++ "/" ++ c.name)) := by
  obtain ⟨hnodup, hbelow⟩ := Node.wellNamed_iff.mp (Node.wellNamed_of_descend? h hfind)
  have hchild : tree.find? (Path.resolve cwd (target ++ "/" ++ c.name)) = some c := by
    rw [find?_resolve_join hcwd (hbelow c hc).1, hfind, Option.bind_some]
    exact (Node.child?_eq_some_iff hnodup).mpr ⟨hc, rfl⟩
  cases c <;> simp only [read, hchild]

theorem read_sectionFile (hcwd : Path.IsCanonical cwd) {name : String} {children : List Node}
    (hfind : tree.find? (Path.resolve cwd target) = some (.directory name children)) {s : Section}
    (hnew : ∀ c ∈ children, c.name ≠ s.fileName) :
    tree.read cwd (target ++ "/" ++ s.fileName) =
      if target.toList.all (· == '/') then .ok (.sectionFile s)
      else .error (.unknownFile "cat" (target ++ "/" ++ s.fileName)) := by
  have hplain : Path.isPlainName s.fileName = true := by cases s <;> decide
  have hnone : tree.find? (Path.resolve cwd (target ++ "/" ++ s.fileName)) = none := by
    rw [find?_resolve_join hcwd hplain, hfind, Option.bind_some, Node.child?, List.find?_eq_none]
    simpa [Node.children] using hnew
  simp only [read, hnone, sectionFile?_join]
  split <;> rfl

/-- What `cat` should make of a row of the listing of a target: a file gives its text, a directory
is refused as one, and a section file gives its section. -/
def ReadsRow (tree : FileTree) (cwd target : String) (row : ListingRow) : Prop :=
  let result := tree.read cwd (target ++ "/" ++ row.name)
  match row.kind with
  | .file => ∃ name children content,
      tree.find? (Path.resolve cwd target) = some (.directory name children) ∧
        .file row.name content ∈ children ∧ result = .ok (.text content)
  | .directory => result = .error (.isADirectory "cat" (target ++ "/" ++ row.name))
  | .sectionFile => ∃ s : Section, s.fileName = row.name ∧ result = .ok (.sectionFile s)

/-- **What `ls` shows, `cat` can name** by the same text, a slash and the name, however the text
spells the directory; only a section file can be so named after slashes alone, and not otherwise. -/
theorem readsRow_iff (h : tree.WellNamed Path.isPlainName) (hcwd : Path.IsCanonical cwd)
    {rows : List ListingRow} (hlist : tree.list cwd (some target) = .ok rows) {row : ListingRow}
    (hrow : row ∈ rows) :
    tree.ReadsRow cwd target row ↔ (row.kind = .sectionFile → ∀ c ∈ target.toList, c = '/') := by
  obtain ⟨name, children, hfind, rfl⟩ := list_eq_ok_iff.mp hlist
  rcases mem_listing_iff.mp hrow with ⟨c, hc, rfl⟩ | ⟨-, s, rfl, hnew⟩
  · have hread := read_child h hcwd hfind hc
    cases c with
    | file _ content =>
      exact iff_of_true ⟨name, children, content, hfind, hc, hread⟩
        (by simp [rowOf, Node.isDirectory])
    | directory => exact iff_of_true hread (by simp [rowOf, Node.isDirectory])
  · have hread := read_sectionFile hcwd hfind hnew
    have hslashes : (∀ c ∈ target.toList, c = '/') ↔ target.toList.all (· == '/') = true := by simp
    simp only [ReadsRow, hread, forall_const, hslashes]
    constructor
    · rintro ⟨s', -, hs'⟩
      by_contra hother
      rw [if_neg hother] at hs'
      contradiction
    · intro hall
      exact ⟨s, rfl, if_pos hall⟩

theorem readsRow_projects_from_blog :
    (∃ rows, portfolio.list "/blog" (some "../projects/") = .ok rows ∧
      ⟨"intra-enterprise.md", .file⟩ ∈ rows) ∧
    portfolio.ReadsRow "/blog" "../projects/" ⟨"intra-enterprise.md", .file⟩ := by
  have hcwd : Path.IsCanonical "/blog" := ⟨["blog"], by decide, by decide⟩
  have hlist : portfolio.list "/blog" (some "../projects/") =
      .ok [⟨"university-collaboration.md", .file⟩, ⟨"intra-enterprise.md", .file⟩] := by rfl
  have hrow : (⟨"intra-enterprise.md", .file⟩ : ListingRow) ∈
      [⟨"university-collaboration.md", .file⟩, ⟨"intra-enterprise.md", .file⟩] := by decide
  exact ⟨⟨_, hlist, hrow⟩, (readsRow_iff wellNamed_portfolio hcwd hlist hrow).mpr (by simp)⟩

/-- `ls ~` shows the section files, and `cat` does not know them by that text. -/
theorem not_readsRow_home_from_tilde :
    portfolio.WellNamed Path.isPlainName ∧ Path.IsCanonical "/" ∧
    (∃ rows, portfolio.list "/" (some "~") = .ok rows ∧ ⟨"home.sh", .sectionFile⟩ ∈ rows) ∧
    portfolio.read "/" "~/home.sh" = .error (.unknownFile "cat" "~/home.sh") ∧
    ¬ portfolio.ReadsRow "/" "~" ⟨"home.sh", .sectionFile⟩ := by
  have hread : portfolio.read "/" "~/home.sh" = .error (.unknownFile "cat" "~/home.sh") := by rfl
  refine ⟨wellNamed_portfolio, Path.isCanonical_root, ⟨_, rfl, by decide⟩, hread, ?_⟩
  rintro ⟨s, -, hs⟩
  have hsame : (Except.error (.unknownFile "cat" "~/home.sh") : Except Failure FileContent) =
      .ok (.sectionFile s) := hread.symm.trans hs
  contradiction

end FileTree

end PortfolioTerminal
