/-
# The ring of candidates

The arrows move the highlight of an open pane around the ring of its candidates.  Its place is
computed in 64-bit words; the candidates are so few that a step to a neighbour stays among the
words, and so the place is the one that the integers modulo the number of candidates give.  Where
the highlight ends therefore depends only on how many steps were made to either side.

One key opens the pane and, when it is open, takes the highlighted candidate from it.  Between the
two, the pane is described by the text it was opened for and by an integer, the place before it is
reduced; every arrow adds one to it or takes one from it.
-/
import PortfolioTerminal.Proofs.Prompt.Pane

namespace PortfolioTerminal

namespace SuggestionPane

variable {text : String}

/-! ## Places -/

theorem length_suggest_le (text : String) : (suggest text).length ≤ Verb.names.length := by
  unfold suggest
  split
  · simp
  · exact List.length_filter_le _ _

/-- A number of candidates is the same as a word. -/
theorem toInt_ofNat_of_le {n : Nat} (h : n ≤ Verb.names.length) : (Int64.ofNat n).toInt = n :=
  Int64.toInt_ofNat_of_lt (Nat.lt_of_le_of_lt h (by decide))

/-- The sum of a place and a step that is not above all words; none is below them. -/
theorem toInt_ofNat_add_of_le {active : Nat} {step : Int64}
    (hactive : active ≤ Int64.maxValue.toInt)
    (hsum : active + step.toInt ≤ Int64.maxValue.toInt) :
    (Int64.ofNat active + step).toInt = active + step.toInt := by
  have hmin : Int64.minValue.toInt = -9223372036854775808 := by decide
  have hmax : Int64.maxValue.toInt = 9223372036854775807 := by decide
  have hlow : Int64.minValue.toInt ≤ step.toInt := step.minValue_le_toInt
  rw [Int64.toInt_add, Int64.toInt_ofNat_of_lt (by omega)]
  exact Int.bmod_eq_of_le (by omega) (by omega)

/-- A sum that is above all words falls short by their number. -/
theorem toInt_ofNat_add_of_lt {active : Nat} {step : Int64}
    (hactive : active ≤ Int64.maxValue.toInt)
    (hsum : Int64.maxValue.toInt < active + step.toInt) :
    (Int64.ofNat active + step).toInt = active + step.toInt - UInt64.size := by
  have hmax : Int64.maxValue.toInt = 9223372036854775807 := by decide
  have hsize : (UInt64.size : Int) = 18446744073709551616 := by decide
  have hhigh : step.toInt ≤ Int64.maxValue.toInt := step.toInt_le
  have hwrap : (active + step.toInt).bmod UInt64.size = active + step.toInt - UInt64.size := by
    rw [← Int.sub_bmod_right]
    exact Int.bmod_eq_of_le (by omega) (by omega)
  rw [Int64.toInt_add, Int64.toInt_ofNat_of_lt (by omega)]
  exact hwrap

/-! ## The open pane of a text -/

/-- The open pane of a text, with the highlight where the place falls on the ring. -/
def openAt (text : String) (place : Int) : SuggestionPane :=
  ⟨suggest text, (place % (suggest text).length).toNat, true⟩

/-- A pane opens with the first candidate highlighted. -/
theorem reveal_update (hsome : suggest text ≠ []) (p : SuggestionPane) :
    (p.update text).reveal = openAt text 0 := by
  have hopen : (!(suggest text).isEmpty) = true := by simpa using hsome
  simp only [reveal, update, openAt, hopen, Int.zero_emod, Int.toNat_zero]

/-- A step to a neighbour is one in the integers. -/
theorem turn_openAt (hsome : suggest text ≠ []) (place : Int) {step : Int64}
    (high : step.toInt ≤ 1) :
    (openAt text place).turn step = openAt text (place + step.toInt) := by
  have hpos : 0 < (suggest text).length := List.length_pos_iff.mpr hsome
  have hnonneg := Int.emod_nonneg place (b := (suggest text).length) (by omega)
  have hlt := Int.emod_lt_of_pos place (Int.natCast_pos.mpr hpos)
  have hfew : (suggest text).length ≤ Verb.names.length := length_suggest_le text
  have hmax : (Verb.names.length : Int) ≤ Int64.maxValue.toInt := by decide
  -- the highlight is below the number of candidates, so that no sum leaves the words
  have hsum : (Int64.ofNat (place % (suggest text).length).toNat + step).toInt =
      place % (suggest text).length + step.toInt := by
    rw [toInt_ofNat_add_of_le (by omega) (by omega), Int.toNat_of_nonneg hnonneg]
  have hvisible : (openAt text place).visible = true := rfl
  rw [turn_of_visible hvisible hsome]
  simp only [openAt, hsum, Int.emod_add_emod]

/-- There is a candidate wherever the highlight is. -/
theorem exists_highlighted_openAt (hsome : suggest text ≠ []) (place : Int) :
    ∃ name, (openAt text place).highlighted? = some name := by
  have hpos : 0 < (suggest text).length := List.length_pos_iff.mpr hsome
  have hlt := Int.emod_lt_of_pos place (Int.natCast_pos.mpr hpos)
  exact ⟨_, List.getElem?_eq_getElem (show (place % _).toNat < (suggest text).length by omega)⟩

end SuggestionPane

/-! ## Arrows -/

/-- How far the arrows move the highlight: one place on for each of the one kind, one place back for
each of the other. -/
def Key.displacement (arrows : List Key) : Int :=
  arrows.count .arrowRight - arrows.count .arrowLeft

theorem Key.displacement_cons_left (arrows : List Key) :
    displacement (.arrowLeft :: arrows) = -1 + displacement arrows := by
  simp [displacement]
  omega

theorem Key.displacement_cons_right (arrows : List Key) :
    displacement (.arrowRight :: arrows) = 1 + displacement arrows := by
  simp [displacement]
  omega

namespace Prompt

variable {text : String} {cursor : Option Nat} {place : Int}

/-- The prompt that holds a text, with the pane of the text open. -/
def browsing (text : String) (cursor : Option Nat) (place : Int) : Prompt :=
  ⟨text, cursor, .openAt text place⟩

theorem press_arrowLeft_browsing (hsome : suggest text ≠ []) (h : History) :
    ((browsing text cursor place).press h .arrowLeft).1 = browsing text cursor (place + -1) := by
  have hleft : (SuggestionPane.openAt text place).turn (-1) = .openAt text (place + -1) :=
    SuggestionPane.turn_openAt hsome place (by decide)
  simp only [press_arrowLeft, browsing, hleft]

theorem press_arrowRight_browsing (hsome : suggest text ≠ []) (h : History) :
    ((browsing text cursor place).press h .arrowRight).1 = browsing text cursor (place + 1) := by
  have hright : (SuggestionPane.openAt text place).turn 1 = .openAt text (place + 1) :=
    SuggestionPane.turn_openAt hsome place (by decide)
  simp only [press_arrowRight, browsing, hright]

/-- Arrows in any order move the highlight by their displacement. -/
theorem pressAll_browsing (hsome : suggest text ≠ []) (h : History) {arrows : List Key}
    (harrows : ∀ k ∈ arrows, k = .arrowLeft ∨ k = .arrowRight) :
    (browsing text cursor place).pressAll h arrows =
      browsing text cursor (place + Key.displacement arrows) := by
  -- the place is reduced only where the pane is looked at, so that the steps simply add up
  induction arrows generalizing place with
  | nil => simp [Key.displacement]
  | cons k arrows ih =>
    rw [List.forall_mem_cons] at harrows
    obtain rfl | rfl := harrows.1
    · rw [pressAll_cons, press_arrowLeft_browsing hsome, ih harrows.2,
        Key.displacement_cons_left, Int.add_assoc]
    · rw [pressAll_cons, press_arrowRight_browsing hsome, ih harrows.2,
        Key.displacement_cons_right, Int.add_assoc]

/-! ## Opening and accepting -/

/-- The key opens the pane of a text for which there is a suggestion. -/
theorem complete_holding (hsome : suggest text ≠ []) :
    (holding text cursor).complete = browsing text cursor 0 := by
  simp only [complete, holding, Bool.false_eq_true, if_false, browsing,
    SuggestionPane.reveal_update hsome]

/-- In an open pane the key takes the highlighted candidate, and closes the pane. -/
theorem complete_browsing {name : String}
    (hname : (SuggestionPane.openAt text place).highlighted? = some name) :
    (browsing text cursor place).complete = holding name cursor := by
  have hvisible : (SuggestionPane.openAt text place).visible = true := rfl
  simp only [complete, browsing, hvisible, if_true, hname, Option.elim_some, setBuffer,
    SuggestionPane.update, SuggestionPane.hide, holding]

/-- Opening the pane, moving the highlight and accepting leaves the candidate that the highlight
came to. -/
theorem pressAll_tab_arrows_tab (hsome : suggest text ≠ []) (cursor : Option Nat) (h : History)
    {arrows : List Key} (harrows : ∀ k ∈ arrows, k = .arrowLeft ∨ k = .arrowRight) :
    ∃ name, (suggest text)[(Key.displacement arrows % (suggest text).length).toNat]? = some name ∧
      (holding text cursor).pressAll h (.tab :: arrows ++ [.tab]) = holding name cursor := by
  obtain ⟨name, hname⟩ :=
    SuggestionPane.exists_highlighted_openAt hsome (0 + Key.displacement arrows)
  have hopened : ((holding text cursor).press h .tab).1 = browsing text cursor 0 :=
    complete_holding hsome
  have hmoved : (browsing text cursor 0).pressAll h arrows =
      browsing text cursor (0 + Key.displacement arrows) := pressAll_browsing hsome h harrows
  have haccepted : ((browsing text cursor (0 + Key.displacement arrows)).press h .tab).1 =
      holding name cursor := complete_browsing hname
  refine ⟨name, ?_, ?_⟩
  · rwa [Int.zero_add] at hname
  · rw [List.cons_append, pressAll_cons, hopened, pressAll_concat, hmoved, haccepted]

/-- Where nothing is suggested, the pane never opens and these keys do nothing. -/
theorem pressAll_holding_of_suggest_eq_nil (hnone : suggest text = []) (h : History)
    {keys : List Key} (hkeys : ∀ k ∈ keys, k = .tab ∨ k = .arrowLeft ∨ k = .arrowRight) :
    (holding text cursor).pressAll h keys = holding text cursor := by
  refine pressAll_eq_self fun k hk => ?_
  obtain rfl | rfl | rfl := hkeys k hk
  · simp [press, pressM, complete, holding, SuggestionPane.update, SuggestionPane.reveal, hnone]
  · simp only [press_arrowLeft, holding, SuggestionPane.turn_of_hidden]
  · simp only [press_arrowRight, holding, SuggestionPane.turn_of_hidden]

end Prompt

end PortfolioTerminal
