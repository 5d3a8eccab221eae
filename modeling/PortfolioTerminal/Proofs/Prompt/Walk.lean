/-
# Walking through the history

Two keys walk through the completed lines.  The one goes to the next older line and stays at the
oldest one; the other comes back, and beyond the newest line lies the empty prompt.  So a walk keeps
a counter between two stops: how many places before the newest line it is, and -1 where no line is
recalled.

A step is described for a prompt that stands at any place of the counter, whatever text and pane the
walk began with; the walk as a whole is an induction on its keys.
-/
import Mathlib.Data.List.Induction
import PortfolioTerminal.Proofs.Prompt.Pane

namespace PortfolioTerminal

/-! ## The counter -/

namespace Walk

/-- Where a key moves the counter of a walk through `n` lines. -/
def move (n : Nat) (c : Int) : Key → Int
  | .arrowUp => min (c + 1) (n - 1)
  | .arrowDown => max (c - 1) (-1)
  | _ => c

/-- The counter of a walk through `n` lines, which begins where no line is recalled. -/
def counter (n : Nat) (keys : List Key) : Int := keys.foldl (move n) (-1)

theorem counter_concat (n : Nat) (keys : List Key) (k : Key) :
    counter n (keys ++ [k]) = move n (counter n keys) k := by
  simp [counter]

/-- The counter keeps between its stops; without any lines the two are one. -/
theorem counter_mem (n : Nat) (keys : List Key) : -1 ≤ counter n keys ∧ counter n keys < n := by
  induction keys using List.reverseRecOn with
  | nil =>
    show (-1 : Int) ≤ -1 ∧ (-1 : Int) < n
    omega
  | append_singleton keys k ih =>
    rw [counter_concat]
    cases k <;> simp only [move] <;> omega

end Walk

namespace Prompt

variable {p : Prompt} {h : History} {c : Int}

/-! ## Recalled lines -/

/-- Of the prompt before, nothing is left when a line is recalled. -/
theorem load_of_recalled? {offset : Nat} {raw : String} (hraw : h.recalled? offset = some raw)
    (p : Prompt) : p.load h offset = holding raw (some offset) := by
  simp only [load_eq, hraw, Option.elim_some, setBuffer, SuggestionPane.update,
    SuggestionPane.hide, holding]

theorem recallOlder_of_length_eq_zero (hnone : h.length = 0) (p : Prompt) :
    p.recallOlder h = p := by
  rw [recallOlder_eq, if_pos]
  rwa [History.isEmpty, List.isEmpty_iff_length_eq_zero]

theorem recallOlder_of_pos (hpos : 0 < h.length) (p : Prompt) :
    p.recallOlder h = p.load h (min (p.cursor.elim 0 (· + 1)) (h.length - 1)) := by
  rw [recallOlder_eq, if_neg]
  rw [History.isEmpty, List.isEmpty_iff_length_eq_zero]
  exact Nat.ne_of_gt hpos

/-- The first step from a prompt without a recalled line goes to the newest one. -/
theorem recallOlder_newest {raw : String} (hcursor : p.cursor = none)
    (hraw : h.recalled? 0 = some raw) : p.recallOlder h = holding raw (some 0) := by
  have hpos : 0 < h.length := by
    obtain ⟨hlt, -⟩ := List.getElem?_eq_some_iff.mp (h.recalled?_eq 0 ▸ hraw)
    simpa using hlt
  rw [recallOlder_of_pos hpos, hcursor, Option.elim_none, Nat.zero_min, load_of_recalled? hraw]

/-! ## A step of the walk -/

/-- The prompt is where the counter says: from 0 on it holds the line that is so many places before
the newest one, as it was recorded, and its pane is closed. -/
structure StandsAt (p : Prompt) (h : History) (c : Int) : Prop where
  cursor_eq : p.cursor = if c = -1 then none else some c.toNat
  line : 0 ≤ c → h.lines.reverse[c.toNat]? = some p.buffer
  closed : 0 ≤ c → p.pane.visible = false

theorem standsAt_of_cursor_eq_none (hcursor : p.cursor = none) : p.StandsAt h (-1) where
  cursor_eq := by rw [hcursor, if_pos rfl]
  line hc := absurd hc (by decide)
  closed hc := absurd hc (by decide)

theorem standsAt_load {offset : Nat} (hlt : offset < h.length) (p : Prompt) :
    (p.load h offset).StandsAt h offset := by
  obtain ⟨raw, hraw⟩ : ∃ raw, h.lines.reverse[offset]? = some raw :=
    ⟨_, List.getElem?_eq_getElem (by simpa using hlt)⟩
  rw [load_of_recalled? ((h.recalled?_eq offset).trans hraw)]
  exact ⟨by rw [if_neg (by omega)]; rfl, fun _ => hraw, fun _ => rfl⟩

/-- Either no line is recalled, or the cursor is where the counter is. -/
theorem StandsAt.cursor_cases (hs : p.StandsAt h c) (hlow : -1 ≤ c) :
    (c = -1 ∧ p.cursor = none) ∨ ∃ i : Nat, c = i ∧ p.cursor = some i := by
  have hcursor := hs.cursor_eq
  by_cases hc : c = -1
  · rw [if_pos hc] at hcursor
    exact .inl ⟨hc, hcursor⟩
  · rw [if_neg hc] at hcursor
    exact .inr ⟨c.toNat, by omega, hcursor⟩

theorem StandsAt.recallOlder (hs : p.StandsAt h c) (hlow : -1 ≤ c) (hhigh : c < h.length) :
    (p.recallOlder h).StandsAt h (min (c + 1) (h.length - 1)) := by
  rcases Nat.eq_zero_or_pos h.length with hnone | hpos
  · -- without any lines both stops are where the walk began
    have hstay : min (c + 1) ((h.length : Int) - 1) = c := by omega
    rw [recallOlder_of_length_eq_zero hnone, hstay]
    exact hs
  · have hoffset : min (c + 1) ((h.length : Int) - 1) =
        ((min (p.cursor.elim 0 (· + 1)) (h.length - 1) : Nat) : Int) := by
      obtain ⟨hc, hcursor⟩ | ⟨i, hc, hcursor⟩ := hs.cursor_cases hlow
      · simp only [hcursor, Option.elim_none]
        omega
      · simp only [hcursor, Option.elim_some]
        omega
    rw [recallOlder_of_pos hpos, hoffset]
    exact standsAt_load (by omega) p

theorem recallNewer_of_cursor_eq_none (hcursor : p.cursor = none) : p.recallNewer h = p := by
  rw [recallNewer_eq, hcursor]

/-- Beyond the newest line the prompt is empty. -/
theorem recallNewer_of_cursor_eq_zero (hcursor : p.cursor = some 0) : p.recallNewer h = {} := by
  have hpane : p.pane.update "" = {} := by
    have hnothing : suggest "" = [] := rfl
    simp [SuggestionPane.update, hnothing]
  simp only [recallNewer_eq, hcursor, setBuffer, hpane]

theorem StandsAt.recallNewer (hs : p.StandsAt h c) (hlow : -1 ≤ c) (hhigh : c < h.length) :
    (p.recallNewer h).StandsAt h (max (c - 1) (-1)) := by
  obtain ⟨rfl, hcursor⟩ | ⟨i, rfl, hcursor⟩ := hs.cursor_cases hlow
  · rw [recallNewer_of_cursor_eq_none hcursor]
    exact standsAt_of_cursor_eq_none hcursor
  · cases i with
    | zero =>
      rw [recallNewer_of_cursor_eq_zero hcursor]
      exact standsAt_of_cursor_eq_none rfl
    | succ i =>
      have hnewer : max (((i + 1 : Nat) : Int) - 1) (-1) = i := by omega
      have hload : p.recallNewer h = p.load h i := by rw [recallNewer_eq, hcursor]
      rw [hload, hnewer]
      exact standsAt_load (by omega) p

/-! ## The walk -/

/-- A walk stands where its counter says, after every key. -/
theorem standsAt_pressAll (hcursor : p.cursor = none) {keys : List Key}
    (hkeys : ∀ k ∈ keys, k = .arrowUp ∨ k = .arrowDown) :
    (p.pressAll h keys).StandsAt h (Walk.counter h.length keys) := by
  -- from the end, since it is the last key that moves both the prompt and the counter
  induction keys using List.reverseRecOn with
  | nil => exact standsAt_of_cursor_eq_none hcursor
  | append_singleton keys k ih =>
    rw [List.forall_mem_append, List.forall_mem_singleton] at hkeys
    have hs := ih hkeys.1
    obtain ⟨hlow, hhigh⟩ := Walk.counter_mem h.length keys
    rw [pressAll_concat, Walk.counter_concat]
    obtain rfl | rfl := hkeys.2
    · exact hs.recallOlder hlow hhigh
    · exact hs.recallNewer hlow hhigh

/-- **Recalling walks through the history between two stops.**  After every sequence of the two
keys, the prompt stands where the counter says; the step back from the newest line leaves the empty
prompt, and a further one changes nothing.  Without a history the prompt stays as it is. -/
theorem standsAt_counter (hcursor : p.cursor = none) {keys : List Key}
    (hkeys : ∀ k ∈ keys, k = .arrowUp ∨ k = .arrowDown) :
    let c := Walk.counter h.length keys
    let walked := p.pressAll h keys
    walked.StandsAt h c ∧
      (c = 0 → (walked.press h .arrowDown).1 = {}) ∧
      (c = -1 → (walked.press h .arrowDown).1 = walked) ∧
      (h.length = 0 → walked = p) := by
  intro c walked
  have hs : walked.StandsAt h c := standsAt_pressAll hcursor hkeys
  refine ⟨hs, fun hc => ?_, fun hc => ?_, fun hnone => ?_⟩
  · have hzero : walked.cursor = some 0 := by simp [hs.cursor_eq, hc]
    exact recallNewer_of_cursor_eq_zero hzero
  · have hnowhere : walked.cursor = none := by simp [hs.cursor_eq, hc]
    exact recallNewer_of_cursor_eq_none hnowhere
  · refine pressAll_eq_self fun k hk => ?_
    obtain rfl | rfl := hkeys k hk
    · exact recallOlder_of_length_eq_zero hnone p
    · exact recallNewer_of_cursor_eq_none hcursor

/-- A walk up to the oldest of three lines, once more against the stop, and one line back, from a
prompt with an open pane. -/
theorem standsAt_second_of_three :
    let started : History := ({} : History).record "help" (.text .info "")
    let h := (started.record " Pwd" (.text .system "/")).record "ls" (.text .system "")
    let p := (({} : Prompt).setBuffer "c").complete
    let keys : List Key := [.arrowDown, .arrowUp, .arrowUp, .arrowUp, .arrowUp, .arrowDown]
    p.cursor = none ∧ (∀ k ∈ keys, k = .arrowUp ∨ k = .arrowDown) ∧
      (p.pressAll h keys).StandsAt h 1 := by
  intro started h p keys
  have hkeys : ∀ k ∈ keys, k = .arrowUp ∨ k = .arrowDown := by decide
  have hcounter : Walk.counter h.length keys = 1 := by decide
  refine ⟨rfl, hkeys, ?_⟩
  rw [← hcounter]
  exact (standsAt_counter rfl hkeys).1

end Prompt

end PortfolioTerminal
