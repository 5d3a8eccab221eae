/-
# File trees

A read-only tree of directories and text files.  It does not know the working directory: every
operation takes it as an argument.
-/
import PortfolioTerminal.Path
import PortfolioTerminal.Section

namespace PortfolioTerminal

/-! ## Nodes -/

/-- An entry of a file tree; the children of a directory keep their order. -/
inductive Node
  | file (name content : String)
  | directory (name : String) (children : List Node)
  deriving Repr, Inhabited

namespace Node

/-- The name of an entry. -/
def name : Node → String
  | file name _ => name
  | directory name _ => name

/-- Whether the entry is a directory. -/
def isDirectory : Node → Bool
  | file _ _ => false
  | directory _ _ => true

/-- The children of a directory; a file has none. -/
def children : Node → List Node
  | file _ _ => []
  | directory _ children => children

/-- The first child of that name. -/
def child? (node : Node) (name : String) : Option Node :=
  node.children.find? fun c => c.name == name

/-- What the path with the given components leads to from `node`. -/
def descend? (node : Node) : List String → Option Node
  | [] => some node
  | name :: names => (node.child? name).bind fun c => c.descend? names

mutual

/-- The path of the directory `node` in the directory at `path`, and the paths of the directories
below it. -/
def directoryPaths (path : String) : Node → List String
  | file _ _ => []
  | directory name children =>
    Path.child path name :: directoryPathsIn (Path.child path name) children

/-- The paths of the directories among the children of the directory at `path`, each followed by
those of the directories below it. -/
def directoryPathsIn (path : String) : List Node → List String
  | [] => []
  | node :: nodes => node.directoryPaths path ++ directoryPathsIn path nodes

end

end Node

/-! ## Trees -/

/-- A file tree, given by what its root directory holds. -/
structure FileTree where
  children : List Node
  deriving Repr

/-- What a listed row refers to. -/
inductive RowKind
  | directory
  | file
  /-- The file of a section, which is listed at the root only. -/
  | sectionFile
  deriving DecidableEq, Repr

/-- A row of a directory listing. -/
structure ListingRow where
  name : String
  kind : RowKind
  deriving DecidableEq, Repr

/-- The row as it is shown, with a slash after the name of a directory. -/
def ListingRow.label (row : ListingRow) : String :=
  match row.kind with
  | .directory => row.name ++ "/"
  | .file | .sectionFile => row.name

/-- What reading a file gives. -/
inductive FileContent
  | text (content : String)
  /-- The name is that of a section file, which the editor opens instead. -/
  | sectionFile (owner : Section)
  deriving DecidableEq, Repr

namespace FileTree

/-- The root directory. -/
def root (tree : FileTree) : Node := .directory "" tree.children

/-- The entry at an absolute path. -/
def find? (tree : FileTree) (path : String) : Option Node :=
  tree.root.descend? (Path.components path)

/-- Whether there is a directory at the path. -/
def isDirectory (tree : FileTree) (path : String) : Bool :=
  (tree.find? path).any Node.isDirectory

/-- The absolute paths of all directories, each before those below it. -/
def directories (tree : FileTree) : List String :=
  Path.root :: Node.directoryPathsIn Path.root tree.children

/-! ## Changing the directory -/

/-- Whether a target can stand for a directory elsewhere in the tree: a single name that has no
meaning of its own as a path. -/
def isBareName (target : String) : Bool :=
  !target.toList.contains '/' && target != "" && target != "." && target != ".." && target != "~"

/-- The first directory of that name anywhere in the tree. -/
def findByName? (tree : FileTree) (target : String) : Option String :=
  if isBareName target then tree.directories.find? fun path => Path.lastName path == target
  else none

/-- The directory that `cd` moves to, without a target the root.  A name that leads nowhere from
`cwd` still finds the first directory of that name anywhere in the tree. -/
def changeDirectory (tree : FileTree) (cwd : String) (target : Option String) :
    Except Failure String :=
  let target := target.getD Path.root
  let path := Path.resolve cwd target
  match tree.find? path with
  | some node => if node.isDirectory then .ok path else .error (.notADirectory "cd" target)
  | none => (tree.findByName? target).elim (.error (.unknownDirectory "cd" target)) .ok

/-! ## Listing -/

/-- The row of an entry. -/
def rowOf (node : Node) : ListingRow :=
  ⟨node.name, if node.isDirectory then .directory else .file⟩

/-- The rows of the section files that are not listed yet. -/
def sectionRows (listed : List ListingRow) : List ListingRow :=
  (Section.all.filter fun s => !listed.any (·.name == s.fileName)).map fun s =>
    ⟨s.fileName, .sectionFile⟩

/-- The rows of the directory at `path` with those children. -/
def listing (path : String) (children : List Node) : List ListingRow :=
  let rows := children.map rowOf
  if path = Path.root then rows ++ sectionRows rows else rows

/-- What `ls` lists, without a target the directory `cwd` itself. -/
def list (tree : FileTree) (cwd : String) (target : Option String) :
    Except Failure (List ListingRow) :=
  let path := target.elim cwd (Path.resolve cwd)
  let shown := target.getD cwd
  match tree.find? path with
  | some (.directory _ children) => .ok (listing path children)
  | some (.file _ _) => .error (.notADirectory "ls" shown)
  | none => .error (.unknownDirectory "ls" shown)

/-! ## Reading -/

/-- The section whose file the target names, slashes in front of it left aside. -/
def sectionFile? (target : String) : Option Section :=
  Section.ofFileName? (String.ofList (target.toList.dropWhile (· == '/')))

/-- What `cat` reads. -/
def read (tree : FileTree) (cwd target : String) : Except Failure FileContent :=
  match tree.find? (Path.resolve cwd target) with
  | some (.file _ content) => .ok (.text content)
  | some (.directory _ _) => .error (.isADirectory "cat" target)
  | none => (sectionFile? target).elim (.error (.unknownFile "cat" target)) fun s =>
      .ok (.sectionFile s)

/-! ## Small laws -/

@[simp] theorem isDirectory_root (tree : FileTree) : tree.isDirectory Path.root = true := by
  have h : Path.components Path.root = [] := by decide
  simp [isDirectory, find?, h, Node.descend?, root, Node.isDirectory]

theorem root_mem_directories (tree : FileTree) : Path.root ∈ tree.directories := by
  simp [directories]

end FileTree

end PortfolioTerminal
