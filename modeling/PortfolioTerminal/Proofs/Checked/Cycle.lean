/-
# Cycling by any step

The keys of the prompt move the highlight to a neighbour, but a pane can be cycled by any word.  The
place of the highlight and the step are added as words, and the remainder is taken of that sum.  No
sum is below the words, since a place is not negative; a sum above them faults.  Everywhere else
cycling is arithmetic in the integers, modulo the number of candidates, and two steps act as the one
that is their sum.

If nothing checks a sum that is above the words, the highlight goes to the place of a sum that falls
short by the number of words, which is another place unless the number of candidates divides that
number.
-/
import PortfolioTerminal.Proofs.Checked.Prompt

namespace PortfolioTerminal

namespace SuggestionPane

variable {p q : SuggestionPane} {text : String} {step a b c : Int64}

/-! ## Sequences of changes -/

/-- What can be done to a pane. -/
inductive Change
  | update (text : String)
  | reveal
  | hide
  | reset
  | cycle (step : Int64)
  deriving DecidableEq, Repr

/-- The pane after a change, unless the change faults. -/
def change (p : SuggestionPane) : Change → Except Fault SuggestionPane
  | .update text => .ok (p.update text)
  | .reveal => .ok p.reveal
  | .hide => .ok p.hide
  | .reset => .ok {}
  | .cycle step => p.cycle step

/-- The pane after a sequence of changes, unless one of them faults. -/
def changeAll (p : SuggestionPane) (changes : List Change) : Except Fault SuggestionPane :=
  changes.foldlM change p

/-- Whatever is done to a pane that is one for a text, it is one for some text. -/
theorem Suits.change (h : p.Suits text) {e : Change} (he : p.change e = .ok q) :
    ∃ text, q.Suits text := by
  cases e with
  | cycle step =>
    obtain ⟨-, rfl⟩ := h.cycle_eq_ok_iff.mp he
    exact ⟨text, h.turn step⟩
  | update text =>
    obtain rfl := Except.ok.inj he
    exact ⟨text, p.suits_update text⟩
  | reveal =>
    obtain rfl := Except.ok.inj he
    exact ⟨text, h.reveal⟩
  | hide =>
    obtain rfl := Except.ok.inj he
    exact ⟨text, h.hide⟩
  | reset =>
    obtain rfl := Except.ok.inj he
    exact ⟨"", suits_empty⟩

theorem Suits.changeAll (h : p.Suits text) {changes : List Change}
    (hq : p.changeAll changes = .ok q) : ∃ text, q.Suits text := by
  induction changes generalizing p text with
  | nil =>
    obtain rfl := Except.ok.inj hq
    exact ⟨text, h⟩
  | cons e changes ih =>
    rw [SuggestionPane.changeAll, List.foldlM_cons] at hq
    obtain ⟨next, hnext, hrest⟩ := Fault.exists_of_bind_eq_ok hq
    obtain ⟨later, hlater⟩ := h.change hnext
    exact ih hlater hrest

/-! ## One step -/

/-- The pane is cycled by the step in the integers, without a fault. -/
structure CyclesInIntegers (p : SuggestionPane) (step : Int64) : Prop where
  /-- In an open pane the highlight, and nothing else, moves to the sum modulo the number of
  candidates. -/
  of_visible : p.visible = true → ∃ place < p.candidates.length,
    (place : Int) = (p.active + step.toInt) % p.candidates.length ∧
      (p.cycle step : Except Fault _) = .ok { p with active := place }
  /-- A closed pane stays as it is. -/
  of_hidden : p.visible = false → (p.cycle step : Except Fault _) = .ok p

/-- If nothing is checked, the step moves the highlight as if the sum were less by the number of
words. -/
def FallsShort (p : SuggestionPane) (step : Int64) : Prop :=
  ∃ place < p.candidates.length,
    (place : Int) = (p.active + step.toInt - UInt64.size) % p.candidates.length ∧
      p.turn step = { p with active := place }

/-- The highlight of an open pane moves to the place of the integer that the sum of words is. -/
theorem Suits.exists_place (h : p.Suits text) (hvisible : p.visible = true) {sum : Int}
    (hsum : (Int64.ofNat p.active + step).toInt = sum) :
    ∃ place < p.candidates.length,
      (place : Int) = sum % p.candidates.length ∧ p.turn step = { p with active := place } := by
  have hne := h.candidates_ne_nil hvisible
  have hpos : 0 < p.candidates.length := List.length_pos_iff.mpr hne
  have hnonneg := Int.emod_nonneg sum (b := p.candidates.length) (by omega)
  have hlt := Int.emod_lt_of_pos sum (Int.natCast_pos.mpr hpos)
  refine ⟨(sum % p.candidates.length).toNat, by omega, Int.toNat_of_nonneg hnonneg, ?_⟩
  rw [turn_of_visible hvisible hne, hsum]

theorem Suits.exists_place_of_not_overflows (h : p.Suits text) (hvisible : p.visible = true)
    (hfits : ¬ p.Overflows step) :
    ∃ place < p.candidates.length,
      (place : Int) = (p.active + step.toInt) % p.candidates.length ∧
        p.turn step = { p with active := place } := by
  have hne := h.candidates_ne_nil hvisible
  have hactive := h.active_lt_maxValue hne
  have hsum : p.active + step.toInt ≤ Int64.maxValue.toInt :=
    Int.not_lt.mp fun hover => hfits ⟨hvisible, hne, hover⟩
  exact h.exists_place hvisible (toInt_ofNat_add_of_le (Int.le_of_lt hactive) hsum)

theorem Suits.cyclesInIntegers_of_not_overflows (h : p.Suits text) (hfits : ¬ p.Overflows step) :
    p.CyclesInIntegers step where
  of_visible hvisible := by
    obtain ⟨place, hlt, hplace, hturn⟩ := h.exists_place_of_not_overflows hvisible hfits
    exact ⟨place, hlt, hplace, by rw [h.cycle_eq_ok hfits, hturn]⟩
  of_hidden hhidden := by rw [h.cycle_eq_ok hfits, turn_of_hidden hhidden]

/-- What is cycled in the integers is cycled without a fault. -/
theorem CyclesInIntegers.exists_cycle_eq (h : p.CyclesInIntegers step) :
    ∃ q, (p.cycle step : Except Fault _) = .ok q := by
  cases hvisible : p.visible with
  | false => exact ⟨p, h.of_hidden hvisible⟩
  | true =>
    obtain ⟨place, -, -, hcycle⟩ := h.of_visible hvisible
    exact ⟨_, hcycle⟩

/-- **Cycling is arithmetic in the integers** exactly if the sum does not overflow. -/
theorem Suits.cyclesInIntegers_iff (h : p.Suits text) :
    p.CyclesInIntegers step ↔ ¬ p.Overflows step := by
  refine ⟨fun hcycles => ?_, h.cyclesInIntegers_of_not_overflows⟩
  obtain ⟨q, hq⟩ := hcycles.exists_cycle_eq
  exact (h.cycle_eq_ok_iff.mp hq).1

/-- The sum that falls short gives the right place only to a number of candidates that divides the
number of words. -/
theorem FallsShort.active_eq_iff (h : p.FallsShort step) :
    ((p.turn step).active : Int) = (p.active + step.toInt) % p.candidates.length ↔
      p.candidates.length ∣ UInt64.size := by
  obtain ⟨place, -, hplace, hturn⟩ := h
  have hdifference : p.active + step.toInt - UInt64.size - (p.active + step.toInt) =
      -(UInt64.size : Int) := by omega
  rw [hturn, hplace, Int.emod_eq_emod_iff_emod_sub_eq_zero, hdifference,
    ← Int.dvd_iff_emod_eq_zero, Int.dvd_neg, Int.natCast_dvd_natCast]

theorem Suits.fallsShort_of_overflows (h : p.Suits text) (hover : p.Overflows step) :
    p.FallsShort step := by
  obtain ⟨hvisible, hne, hsum⟩ := hover
  have hactive := h.active_lt_maxValue hne
  exact h.exists_place hvisible (toInt_ofNat_add_of_lt (Int.le_of_lt hactive) hsum)

/-! ## Two steps -/

/-- Two steps, made one after the other, act as a third one, and none of them faults. -/
def ActAs (p : SuggestionPane) (a b c : Int64) : Prop :=
  ∃ q : SuggestionPane, (do (← p.cycle a).cycle b : Except Fault _) = .ok q ∧
    (p.cycle c : Except Fault _) = .ok q

/-- Steps add up: the remainder may be taken before the second step or after it. -/
theorem Suits.turn_turn (h : p.Suits text) (hsum : c.toInt = a.toInt + b.toInt)
    (ha : ¬ p.Overflows a) (hb : ¬ (p.turn a).Overflows b) (hc : ¬ p.Overflows c) :
    (p.turn a).turn b = p.turn c := by
  cases hvisible : p.visible with
  | false =>
    have hstill : (p.turn a).visible = false := by rw [visible_turn, hvisible]
    rw [turn_of_hidden hstill, turn_of_hidden hvisible, turn_of_hidden hvisible]
  | true =>
    have hstill : (p.turn a).visible = true := by rw [visible_turn, hvisible]
    obtain ⟨i, -, hi, hfirst⟩ := h.exists_place_of_not_overflows hvisible ha
    obtain ⟨j, -, hj, hsecond⟩ := (h.turn a).exists_place_of_not_overflows hstill hb
    obtain ⟨k, -, hk, hthird⟩ := h.exists_place_of_not_overflows hvisible hc
    -- the candidates stay, so that both remainders are taken by the same number
    rw [hfirst] at hj hsecond
    dsimp only at hj hsecond
    have hsame : (j : Int) = k := by
      calc (j : Int) = (i + b.toInt) % p.candidates.length := hj
        _ = ((p.active + a.toInt) % p.candidates.length + b.toInt) % p.candidates.length := by
          rw [hi]
        _ = (p.active + a.toInt + b.toInt) % p.candidates.length := Int.emod_add_emod ..
        _ = (p.active + c.toInt) % p.candidates.length := by rw [hsum, Int.add_assoc]
        _ = k := hk.symm
    rw [hfirst, hsecond, hthird, Int.ofNat_inj.mp hsame]

/-- **Two steps act as their sum** exactly if none of the three overflows. -/
theorem Suits.actAs_iff (h : p.Suits text) (hsum : c.toInt = a.toInt + b.toInt) :
    p.ActAs a b c ↔ ¬ p.Overflows a ∧ ¬ (p.turn a).Overflows b ∧ ¬ p.Overflows c := by
  have hnext : (p.turn a).Suits text := h.turn a
  constructor
  · rintro ⟨q, htwo, hone⟩
    obtain ⟨q', hfirst, hsecond⟩ := Fault.exists_of_bind_eq_ok htwo
    obtain ⟨ha, rfl⟩ := h.cycle_eq_ok_iff.mp hfirst
    exact ⟨ha, (hnext.cycle_eq_ok_iff.mp hsecond).1, (h.cycle_eq_ok_iff.mp hone).1⟩
  · rintro ⟨ha, hb, hc⟩
    refine ⟨p.turn c, ?_, h.cycle_eq_ok hc⟩
    rw [h.cycle_eq_ok ha, Fault.ok_bind, hnext.cycle_eq_ok hb, h.turn_turn hsum ha hb hc]

/-! ## Every pane there can be -/

/-- **Cycling is arithmetic modulo the number of candidates**, whatever was done to the pane before,
by every step whose sum does not overflow; two such steps act as a third such one that is their sum.
A step whose sum overflows faults, and if nothing is checked it falls short. -/
theorem cyclesInIntegers_iff_not_overflows {changes : List Change} {p : SuggestionPane}
    (hp : ({} : SuggestionPane).changeAll changes = .ok p) :
    (∀ step, p.CyclesInIntegers step ↔ ¬ p.Overflows step) ∧
    (∀ step, p.Overflows step →
      (p.cycle step : Except Fault _) = .error .overflow ∧ p.FallsShort step ∧
      (((p.turn step).active : Int) = (p.active + step.toInt) % p.candidates.length ↔
        p.candidates.length ∣ UInt64.size)) ∧
    ∀ a b c : Int64, c.toInt = a.toInt + b.toInt →
      (p.ActAs a b c ↔ ¬ p.Overflows a ∧ ¬ (p.turn a).Overflows b ∧ ¬ p.Overflows c) := by
  obtain ⟨text, h⟩ := suits_empty.changeAll hp
  refine ⟨fun step => h.cyclesInIntegers_iff, fun step hover => ?_, fun a b c hsum => ?_⟩
  · have hshort := h.fallsShort_of_overflows hover
    exact ⟨h.cycle_eq_error hover, hshort, hshort.active_eq_iff⟩
  · exact h.actAs_iff hsum

/-- Steps from the second of three candidates to both ends of the words. -/
theorem cyclesInIntegers_to_ends_of_words :
    let p : SuggestionPane := ⟨["edit", "echo", "exit"], 1, true⟩
    let last : Int64 := Int64.maxValue - 1
    ({} : SuggestionPane).changeAll [.update "e", .reveal, .cycle 1] = .ok p ∧
      p.CyclesInIntegers Int64.minValue ∧ p.CyclesInIntegers last ∧
      p.Overflows Int64.maxValue ∧ p.FallsShort Int64.maxValue ∧
      (-2 : Int64).toInt = last.toInt + Int64.minValue.toInt ∧
      p.ActAs last Int64.minValue (-2) := by
  intro p last
  have hp : ({} : SuggestionPane).changeAll [.update "e", .reveal, .cycle 1] = .ok p := by
    rfl
  obtain ⟨hcycles, hover, hadd⟩ := cyclesInIntegers_iff_not_overflows hp
  have hfirst : ¬ p.Overflows Int64.minValue := by decide +kernel
  have hlast : ¬ p.Overflows last := by decide +kernel
  have habove : p.Overflows Int64.maxValue := by decide +kernel
  have hsum : (-2 : Int64).toInt = last.toInt + Int64.minValue.toInt := by decide +kernel
  have hback : ¬ (p.turn last).Overflows Int64.minValue := by decide +kernel
  have htwo : ¬ p.Overflows (-2) := by decide +kernel
  exact ⟨hp, (hcycles _).mpr hfirst, (hcycles _).mpr hlast, habove, (hover _ habove).2.1, hsum,
    (hadd _ _ _ hsum).mpr ⟨hlast, hback, htwo⟩⟩

/-- The last word is a step too long: the sum leads to the third candidate, and the step faults.
Nor do that step and one back act as the word before it, which does not fault. -/
theorem not_cyclesInIntegers_last_word :
    let p : SuggestionPane := ⟨["edit", "echo", "exit"], 1, true⟩
    let last : Int64 := Int64.maxValue - 1
    ({} : SuggestionPane).changeAll [.update "e", .reveal, .cycle 1] = .ok p ∧
      (p.active + Int64.maxValue.toInt) % p.candidates.length = 2 ∧
      (p.cycle Int64.maxValue : Except Fault _) = .error .overflow ∧
      ¬ p.CyclesInIntegers Int64.maxValue ∧
      last.toInt = Int64.maxValue.toInt + (-1 : Int64).toInt ∧
      p.CyclesInIntegers last ∧ ¬ p.ActAs Int64.maxValue (-1) last := by
  intro p last
  have hp : ({} : SuggestionPane).changeAll [.update "e", .reveal, .cycle 1] = .ok p := by
    rfl
  obtain ⟨text, h⟩ := suits_empty.changeAll hp
  have hfault : (p.cycle Int64.maxValue : Except Fault _) = .error .overflow :=
    h.cycle_eq_error (by decide +kernel)
  refine ⟨hp, by decide +kernel, hfault, fun hcycles => ?_, by decide +kernel, ?_, ?_⟩
  · obtain ⟨q, hq⟩ := hcycles.exists_cycle_eq
    cases hfault.symm.trans hq
  · exact h.cyclesInIntegers_iff.mpr (by decide +kernel)
  · rintro ⟨q, htwo, -⟩
    obtain ⟨next, hfirst, -⟩ := Fault.exists_of_bind_eq_ok htwo
    cases hfault.symm.trans hfirst

end SuggestionPane

end PortfolioTerminal
