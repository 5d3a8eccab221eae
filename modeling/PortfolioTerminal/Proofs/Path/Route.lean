/-
# Routes

Resolution looks at how a text begins: some texts are absolute, some have a meaning of their own,
and all else is appended to the working directory.  From a canonical directory this comes down to
one rule.  Each text has a route, the components to be walked from the root, and resolving is
walking the route; the parent, which resolution takes by cutting the text at a slash, is one more
component `..` at its end.

A text that goes on after another one adds its components to the route.  So a plain name after a
text leads to the entry of that name at the place to which the text leads, however the text spells
that place.  A canonical path, as it stands or as the prompt shows it, leads to itself from
anywhere.
-/
import PortfolioTerminal.Proofs.Path

namespace PortfolioTerminal

/-! ## Components of joined texts -/

/-- What stands before a separator and what stands after it are cut apart separately. -/
theorem Text.pieces_append_cons {sep : Char} (before after : List Char) :
    pieces sep (before ++ sep :: after) = pieces sep before ++ pieces sep after := by
  induction before with
  | nil => simp
  | cons c before ih =>
    rw [List.cons_append, pieces, pieces]
    split
    · rw [ih, List.cons_append]
    · obtain ⟨piece, more, hpieces⟩ := List.exists_cons_of_ne_nil (pieces_ne_nil sep before)
      rw [ih, hpieces, List.cons_append]
      rfl

namespace Path

theorem components_join (before after : String) :
    components (before ++ "/" ++ after) = components before ++ components after := by
  have hlist : (before ++ "/" ++ after).toList = before.toList ++ '/' :: after.toList := by simp
  rw [components, hlist, Text.pieces_append_cons, List.filter_append, List.map_append, components,
    components]

/-- A name is its only component. -/
theorem components_of_isEntryName {name : String} (h : isEntryName name = true) :
    components name = [name] := by
  have hpieces := Text.pieces_of_not_mem (isEntryName_iff.mp h).2
  have hne : name ≠ "" := (isEntryName_iff.mp h).1
  rw [components, hpieces]
  simp [hne]

/-! ## Walks -/

/-- A walk along plain names passes all of them. -/
theorem foldl_walk_of_plain {names places : List String}
    (h : ∀ name ∈ names, isPlainName name = true) :
    names.foldl walk places = names.reverse ++ places := by
  induction names generalizing places with
  | nil => rfl
  | cons name names ih =>
    obtain ⟨-, hdot, hdots⟩ := isPlainName_iff.mp (h name List.mem_cons_self)
    rw [List.foldl_cons, walk, if_neg hdots, if_neg hdot,
      ih fun n hn => h n (List.mem_cons_of_mem _ hn), List.reverse_cons, List.append_assoc,
      List.singleton_append]

/-- The place to which a route leads, named from the root on. -/
def places (route : List String) : List String := (route.foldl walk []).reverse

theorem normalize_eq (path : String) :
    normalize path = ofComponents (places (components path)) := rfl

theorem places_of_plain {names : List String} (h : ∀ name ∈ names, isPlainName name = true) :
    places names = names := by
  rw [places, foldl_walk_of_plain h, List.append_nil, List.reverse_reverse]

/-- A plain name at the end of a route is entered last. -/
theorem places_concat {route : List String} {name : String} (h : isPlainName name = true) :
    places (route ++ [name]) = places route ++ [name] := by
  obtain ⟨-, hdot, hdots⟩ := isPlainName_iff.mp h
  rw [places, List.foldl_append, List.foldl_cons, List.foldl_nil, walk, if_neg hdots, if_neg hdot,
    List.reverse_cons, places]

/-- `..` at the end of a route leaves the last place. -/
theorem places_concat_dots (route : List String) :
    places (route ++ [".."]) = (places route).dropLast := by
  rw [places, List.foldl_append, List.foldl_cons, List.foldl_nil, walk, if_pos rfl, List.drop_one,
    places, List.dropLast_reverse]

theorem isPlainName_of_mem_places {route : List String}
    (h : ∀ name ∈ route, isEntryName name = true) :
    ∀ place ∈ places route, isPlainName place = true := fun place hplace =>
  isPlainName_of_mem_foldl_walk (by simp) h place (List.mem_reverse.mp hplace)

/-! ## How a text begins -/

/-- Whether a text is relative to the working directory. -/
def isRelative (path : String) : Bool :=
  match path.toList with
  | [] | ['~'] | '~' :: '/' :: _ | '/' :: _ => false
  | _ => true

/-- A text is the empty one or `~`, goes on from `~`, begins with a slash, or is relative. -/
theorem beginning_cases (path : String) :
    (path = "" ∨ path = "~") ∨ (∃ rest, path = "~/" ++ rest) ∨ (∃ rest, path = "/" ++ rest) ∨
      isRelative path = true := by
  unfold isRelative
  split
  · rename_i h
    exact .inl (.inl (String.toList_inj.mp h))
  · rename_i h
    exact .inl (.inr (String.toList_inj.mp h))
  · rename_i rest h
    exact .inr (.inl ⟨String.ofList rest, String.toList_inj.mp (by simp [h])⟩)
  · rename_i rest h
    exact .inr (.inr (.inl ⟨String.ofList rest, String.toList_inj.mp (by simp [h])⟩))
  · exact .inr (.inr (.inr rfl))

/-- A relative text stays relative whatever comes after it. -/
theorem isRelative_join {path : String} (h : isRelative path = true) (more : String) :
    isRelative (path ++ "/" ++ more) = true := by
  have hlist : (path ++ "/" ++ more).toList = path.toList ++ '/' :: more.toList := by simp
  unfold isRelative at h ⊢
  rw [hlist]
  generalize path.toList = cs at h
  -- two characters decide; the added slash is one of them only after a single one, which is not `~`
  rcases cs with _ | ⟨c, _ | ⟨d, cs⟩⟩
  · contradiction
  · split at h <;> simp_all
  · split at h <;> simp_all

/-! ## Resolution by the beginning of the text -/

theorem components_slash (rest : String) : components ("/" ++ rest) = components rest :=
  components_join "" rest

theorem resolve_home (cwd rest : String) : resolve cwd ("~/" ++ rest) = normalize rest := by
  have hne (p : String) (hp : '/' ∉ p.toList) : "~/" ++ rest ≠ p := by
    rintro rfl
    simp at hp
  have hroot : "~/" ++ rest ≠ root := fun h => by simpa [root] using congrArg String.toList h
  rw [resolve, if_neg (by simp [hne, hroot]), if_neg (hne ".." (by decide))]
  simp

theorem resolve_slash (cwd rest : String) : resolve cwd ("/" ++ rest) = normalize rest := by
  have hnormal : normalize ("/" ++ rest) = normalize rest := by
    rw [normalize_eq, components_slash, normalize_eq]
  unfold resolve
  split
  · rename_i hroot
    have hempty : rest = "" := by
      rcases hroot with h | h | h <;> simpa [root] using congrArg String.toList h
    rw [hempty]
    decide
  · have hdots : "/" ++ rest ≠ ".." := fun h => by simpa using congrArg String.toList h
    rw [if_neg hdots, ← hnormal]
    simp

/-- From a canonical directory, a relative text is appended to the directory, `..` too. -/
theorem resolve_of_isRelative {cwd path : String} (hcwd : IsCanonical cwd)
    (h : isRelative path = true) : resolve cwd path = normalize (cwd ++ "/" ++ path) := by
  unfold resolve
  split
  · rename_i hroot
    rcases hroot with rfl | rfl | rfl <;> contradiction
  · split
    · -- the parent is cut off as text; on names it is what the walk does at `..`
      rename_i hdots
      obtain ⟨names, hnames, rfl⟩ := hcwd
      have hentries := isEntryName_of_mem_plain hnames
      have hcomponents : components ".." = [".."] := by decide
      rw [hdots, parent_ofComponents hentries, normalize_eq, components_join,
        components_ofComponents hentries, hcomponents, places_concat_dots, places_of_plain hnames]
    · unfold isRelative at h
      split <;> simp_all

/-! ## Routes -/

/-- The components to be walked from the root to where a text in the directory `cwd` leads. -/
def route (cwd path : String) : List String :=
  if isRelative path then components cwd ++ components path
  else
    match path.toList with
    | '~' :: rest => components (String.ofList rest)
    | _ => components path

theorem route_home (cwd rest : String) : route cwd ("~/" ++ rest) = components rest := by
  have hrelative : ¬ isRelative ("~/" ++ rest) = true := by simp [isRelative]
  have hrest : String.ofList ('/' :: rest.toList) = "/" ++ rest := String.toList_inj.mp (by simp)
  rw [route, if_neg hrelative, ← components_slash rest, ← hrest]
  simp

theorem route_slash (cwd rest : String) : route cwd ("/" ++ rest) = components rest := by
  have hrelative : ¬ isRelative ("/" ++ rest) = true := by simp [isRelative]
  rw [route, if_neg hrelative, ← components_slash rest]
  simp

theorem route_of_isRelative {cwd path : String} (h : isRelative path = true) :
    route cwd path = components cwd ++ components path := by
  rw [route, if_pos h]

theorem isEntryName_of_mem_route {cwd path : String} :
    ∀ name ∈ route cwd path, isEntryName name = true := by
  intro name hname
  unfold route at hname
  split at hname
  · rcases List.mem_append.mp hname with hname | hname <;>
      exact isEntryName_of_mem_components hname
  · split at hname <;> exact isEntryName_of_mem_components hname

/-- From a canonical directory, resolving a text is walking its route. -/
theorem resolve_eq {cwd : String} (hcwd : IsCanonical cwd) (path : String) :
    resolve cwd path = ofComponents (places (route cwd path)) := by
  rcases beginning_cases path with (rfl | rfl) | ⟨rest, rfl⟩ | ⟨rest, rfl⟩ | hrelative
  · rfl
  · rfl
  · rw [resolve_home, normalize_eq, route_home]
  · rw [resolve_slash, normalize_eq, route_slash]
  · rw [resolve_of_isRelative hcwd hrelative, normalize_eq, components_join,
      route_of_isRelative hrelative]

/-- A text that goes on after another one adds its components to the route. -/
theorem route_join (cwd path more : String) :
    route cwd (path ++ "/" ++ more) = route cwd path ++ components more := by
  rcases beginning_cases path with (rfl | rfl) | ⟨rest, rfl⟩ | ⟨rest, rfl⟩ | hrelative
  · exact route_slash cwd more
  · exact route_home cwd more
  · rw [String.append_assoc, String.append_assoc, route_home, ← String.append_assoc,
      components_join, route_home]
  · rw [String.append_assoc, String.append_assoc, route_slash, ← String.append_assoc,
      components_join, route_slash]
  · rw [route_of_isRelative (isRelative_join hrelative more), components_join,
      route_of_isRelative hrelative, List.append_assoc]

/-- A plain name after a text leads to the entry of that name where the text leads. -/
theorem resolve_join {cwd name : String} (hcwd : IsCanonical cwd) (hname : isPlainName name = true)
    (path : String) : resolve cwd (path ++ "/" ++ name) = child (resolve cwd path) name := by
  have hplaces : ∀ place ∈ places (route cwd path), isEntryName place = true :=
    isEntryName_of_mem_plain (isPlainName_of_mem_places isEntryName_of_mem_route)
  rw [resolve_eq hcwd, resolve_eq hcwd, route_join,
    components_of_isEntryName (isEntryName_of_isPlainName hname), places_concat hname,
    child_ofComponents hplaces]

/-! ## Written forms -/

/-- A canonical path is its own normal form. -/
theorem normalize_of_isCanonical {path : String} (h : IsCanonical path) :
    normalize path = path := by
  obtain ⟨names, hnames, rfl⟩ := h
  rw [normalize_eq, components_ofComponents (isEntryName_of_mem_plain hnames),
    places_of_plain hnames]

/-- A canonical path is a slash and a text of which it is the normal form. -/
theorem exists_slash_of_isCanonical {path : String} (h : IsCanonical path) :
    ∃ rest, path = "/" ++ rest ∧ normalize rest = path := by
  have hslash : ∃ rest, path = "/" ++ rest := by
    obtain ⟨_ | ⟨name, names⟩, -, rfl⟩ := h
    · exact ⟨"", rfl⟩
    · refine ⟨String.ofList (name.toList ++ slashed names), String.toList_inj.mp ?_⟩
      rw [toList_ofComponents (List.cons_ne_nil name names)]
      simp
  obtain ⟨rest, rfl⟩ := hslash
  refine ⟨rest, rfl, ?_⟩
  rw [normalize_eq, ← components_slash, ← normalize_eq, normalize_of_isCanonical h]

/-- From anywhere, a canonical path is resolved to itself. -/
theorem resolve_of_isCanonical {path : String} (h : IsCanonical path) (cwd : String) :
    resolve cwd path = path := by
  obtain ⟨rest, rfl, hrest⟩ := exists_slash_of_isCanonical h
  rw [resolve_slash, hrest]

/-- From anywhere, what the prompt shows is resolved to the directory that it stands for. -/
theorem resolve_display {path : String} (h : IsCanonical path) (cwd : String) :
    resolve cwd (display path) = path := by
  unfold display
  split
  · rename_i hroot
    rw [hroot]
    rfl
  · obtain ⟨rest, rfl, hrest⟩ := exists_slash_of_isCanonical h
    have hhome : "~" ++ ("/" ++ rest) = "~/" ++ rest := String.append_assoc.symm
    rw [hhome, resolve_home, hrest]

end Path

end PortfolioTerminal
