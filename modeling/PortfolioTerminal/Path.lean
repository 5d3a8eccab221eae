/-
# Paths

A path is a text with slashes.  Its canonical form is `/`, or a slash before each of its components,
none of which is empty, `.` or `..`.  Paths are resolved by their text alone: whether anything is
there is a question to the file tree.
-/
import PortfolioTerminal.Text.Pieces

namespace PortfolioTerminal.Path

/-- The path of the root directory. -/
def root : String := "/"

/-! ## Components -/

/-- The pieces between the slashes that are not empty. -/
def components (path : String) : List String :=
  ((Text.pieces '/' path.toList).filter fun piece => !piece.isEmpty).map String.ofList

/-- The absolute path with the given components. -/
def ofComponents : List String → String
  | [] => root
  | names => String.join (names.map ("/" ++ ·))

/-- Whether a component names something by itself: it is not empty, not `.`, not `..`, and holds no
slash. -/
def isPlainName (name : String) : Bool :=
  name != "" && name != "." && name != ".." && !name.toList.contains '/'

/-- A path in canonical form. -/
def IsCanonical (path : String) : Prop :=
  ∃ names : List String, (∀ name ∈ names, isPlainName name) ∧ path = ofComponents names

/-! ## Normal form -/

/-- One step of a walk along a path.  The places passed so far are listed from the last one back:
`..` leaves the last one, `.` stays, and any other name is entered. -/
def walk (places : List String) (name : String) : List String :=
  if name = ".." then places.drop 1 else if name = "." then places else name :: places

/-- The canonical form of a path; a walk that would leave the root stays there. -/
def normalize (path : String) : String :=
  ofComponents ((components path).foldl walk []).reverse

/-! ## Parents and children -/

/-- The text before the last slash that is not at the end of the path, or the root if that text is
empty. -/
def parent (path : String) : String :=
  let upToSlash := (path.toList.reverse.dropWhile (· == '/')).dropWhile (· != '/')
  match (upToSlash.drop 1).reverse with
  | [] => root
  | above => String.ofList above

/-- The path of the entry `name` in the directory at `directory`. -/
def child (directory name : String) : String :=
  if directory = root then "/" ++ name else directory ++ "/" ++ name

/-- The text after the last slash. -/
def lastName (path : String) : String := String.ofList (Text.lastPiece '/' path.toList)

/-! ## Resolution -/

/-- The absolute path that `path` stands for in the directory `cwd`.  The empty text and `~` are the
root, `~/` and `/` begin an absolute path, `..` is the parent of `cwd`, and all else is relative to
`cwd`. -/
def resolve (cwd path : String) : String :=
  if path = "" ∨ path = "~" ∨ path = root then root
  else if path = ".." then parent cwd
  else
    match path.toList with
    | '~' :: '/' :: rest => normalize (String.ofList rest)
    | '/' :: _ => normalize path
    | _ => normalize (cwd ++ "/" ++ path)

/-- A working directory as the prompt shows it, with `~` for the root. -/
def display (cwd : String) : String := if cwd = root then "~" else "~" ++ cwd

/-! ## Small laws -/

@[simp] theorem ofComponents_nil : ofComponents [] = root := rfl

theorem ofComponents_cons (name : String) (names : List String) :
    ofComponents (name :: names) = String.join ((name :: names).map ("/" ++ ·)) := rfl

@[simp] theorem child_root (name : String) : child root name = "/" ++ name := by simp [child]

theorem isCanonical_root : IsCanonical root := ⟨[], by simp, rfl⟩

theorem isCanonical_ofComponents {names : List String} (h : ∀ name ∈ names, isPlainName name) :
    IsCanonical (ofComponents names) :=
  ⟨names, h, rfl⟩

end PortfolioTerminal.Path
