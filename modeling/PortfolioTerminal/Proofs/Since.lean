/-
# What has lasted since something happened

The past of a run is a list of events, the latest one last.  `Since happens lasts` says that one of
them was such that `happens`, and that every later one was such that `lasts`.  Whether an event does
so may depend on the events before it, so both properties are told these as well.

A run grows at its end, and so the one law that matters is the one for a run with one more event.
-/
import Mathlib.Data.List.Induction

namespace PortfolioTerminal

variable {α : Type*} {happens lasts : List α → α → Prop}

/-- Some event of the run was such that `happens`, and every event since was such that `lasts`. -/
def Since (happens lasts : List α → α → Prop) (events : List α) : Prop :=
  ∃ before e after, events = before ++ e :: after ∧ happens before e ∧
    ∀ mid e' rest, after = mid ++ e' :: rest → lasts (before ++ e :: mid) e'

namespace Since

@[simp] theorem not_nil : ¬ Since happens lasts [] := by
  rintro ⟨before, e, after, h, -⟩
  simp at h

/-- It has just happened, or it had happened before and the latest event let it last. -/
theorem concat_iff {events : List α} {e : α} :
    Since happens lasts (events ++ [e]) ↔
      happens events e ∨ (Since happens lasts events ∧ lasts events e) := by
  constructor
  · rintro ⟨before, e', after, h, hhappens, hlasts⟩
    -- the last event is the one that happened, or the last of those since
    rcases List.eq_nil_or_concat after with rfl | ⟨after, e'', rfl⟩
    · obtain ⟨rfl, hlast⟩ := List.append_inj' h rfl
      obtain rfl : e = e' := by simpa using hlast
      exact .inl hhappens
    · have h' : events ++ [e] = (before ++ e' :: after) ++ [e''] := by simpa using h
      obtain ⟨rfl, hlast⟩ := List.append_inj' h' rfl
      obtain rfl : e = e'' := by simpa using hlast
      refine .inr ⟨⟨before, e', after, rfl, hhappens, fun mid x rest hmid => ?_⟩, ?_⟩
      · exact hlasts mid x (rest ++ [e]) (by simp [hmid])
      · exact hlasts after e [] (by simp)
  · rintro (hhappens | ⟨⟨before, e', after, rfl, hhappens, hlasts⟩, hlast⟩)
    · exact ⟨events, e, [], rfl, hhappens, by simp⟩
    · refine ⟨before, e', after ++ [e], by simp, hhappens, fun mid x rest hmid => ?_⟩
      rcases List.eq_nil_or_concat rest with rfl | ⟨rest, x', rfl⟩
      · obtain ⟨rfl, hx⟩ := List.append_inj' hmid rfl
        obtain rfl : e = x := by simpa using hx
        exact hlast
      · have hmid' : after ++ [e] = (mid ++ x :: rest) ++ [x'] := by simpa using hmid
        obtain ⟨rfl, -⟩ := List.append_inj' hmid' rfl
        exact hlasts mid x rest rfl

theorem mono {happens' : List α → α → Prop} {events : List α}
    (h : ∀ before e, happens before e → happens' before e) (hs : Since happens lasts events) :
    Since happens' lasts events := by
  obtain ⟨before, e, after, hevents, hhappens, hlasts⟩ := hs
  exact ⟨before, e, after, hevents, h before e hhappens, hlasts⟩

end Since

end PortfolioTerminal
