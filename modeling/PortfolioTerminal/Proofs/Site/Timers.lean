/-
# The timers in flight

The timeline of a site is in order, and its clock never passes a timer.  Since every load timer is
made with the same delay, the load timers fire in the order in which they were made: they are a
queue.  The completion timers are seen as a queue in the same way, though there is never more than
one of them.

Timers of one kind are told apart by a function that reads them, such as the one that reads off when
a load timer is due.  What making a timer adds to the timers of its kind is proved once, for any
such function.
-/
import Mathlib.Data.List.Basic
import Mathlib.Data.List.TakeWhile
import PortfolioTerminal.Proofs.Site.Event

namespace PortfolioTerminal

/-! ## Timelines in order -/

namespace Timeline

/-- No timer comes before one that is due earlier. -/
def InOrder (line : Timeline) : Prop := line.Pairwise fun t u => t.due ≤ u.due

variable {line : Timeline} {t u : Timer}

/-- What the insertion of a timer steps over is due no later, and what it does not step over is due
later. -/
theorem InOrder.lt_of_mem_dropWhile (h : line.InOrder) {due : Nat}
    (hu : u ∈ line.dropWhile (·.due ≤ due)) : due < u.due := by
  induction line with
  | nil => simp at hu
  | cons v line ih =>
    obtain ⟨hv, hline⟩ := List.pairwise_cons.mp h
    by_cases hdue : v.due ≤ due
    · rw [List.dropWhile_cons_of_pos (by simpa using hdue)] at hu
      exact ih hline hu
    · -- the first timer left over is due later, and so are all that follow it
      rw [List.dropWhile_cons_of_neg (by simpa using hdue)] at hu
      rcases List.mem_cons.mp hu with rfl | hu
      · omega
      · have := hv u hu
        omega

theorem InOrder.add (h : line.InOrder) (t : Timer) : (line.add t).InOrder := by
  have hbefore : ∀ u ∈ line.takeWhile (·.due ≤ t.due), u.due ≤ t.due := by
    intro u hu
    simpa using List.mem_takeWhile_imp hu
  have hafter : ∀ u ∈ line.dropWhile (·.due ≤ t.due), t.due < u.due :=
    fun u hu => h.lt_of_mem_dropWhile hu
  refine List.pairwise_append.mpr ⟨h.sublist (List.takeWhile_sublist _), ?_, ?_⟩
  · refine List.pairwise_cons.mpr ⟨fun u hu => Nat.le_of_lt (hafter u hu), ?_⟩
    exact h.sublist (List.dropWhile_sublist _)
  · intro u hu v hv
    have hu := hbefore u hu
    rcases List.mem_cons.mp hv with rfl | hv
    · exact hu
    · have := hafter v hv
      omega

/-- A timer that is due no earlier than the others of its kind is the last of them. -/
theorem filterMap_add {β : Type} {f : Timer → Option β} (h : line.InOrder)
    (hlast : (f t).isSome → ∀ u ∈ line, (f u).isSome → u.due ≤ t.due) :
    (line.add t).filterMap f = line.filterMap f ++ (f t).toList := by
  have hsplit : line.filterMap f =
      (line.takeWhile (·.due ≤ t.due)).filterMap f ++
        (line.dropWhile (·.due ≤ t.due)).filterMap f := by
    rw [← List.filterMap_append, List.takeWhile_append_dropWhile]
  rw [hsplit, Timeline.add, List.filterMap_append, List.filterMap_cons]
  cases hf : f t with
  | none => simp
  | some b =>
    -- whatever is due later is of another kind
    have hnone : (line.dropWhile (·.due ≤ t.due)).filterMap f = [] := by
      refine List.filterMap_eq_nil_iff.mpr fun u hu => ?_
      have hlt := h.lt_of_mem_dropWhile hu
      by_contra hne
      have hle := hlast (by simp [hf]) u ((List.dropWhile_sublist _).subset hu)
        (Option.isSome_iff_ne_none.mpr hne)
      omega
    simp [hnone, Option.toList]

/-- Cancelling an interval leaves the timers of any other kind. -/
theorem filterMap_cancel {β : Type} {f : Timer → Option β} {interval : Nat}
    (hf : ∀ t : Timer, t.task = .tourStop interval → f t = none) :
    (line.cancel interval).filterMap f = line.filterMap f := by
  rw [cancel, List.filterMap_filter]
  refine List.filterMap_congr fun t _ => ?_
  by_cases ht : t.task = .tourStop interval
  · simp [ht, hf t ht]
  · simp [ht]

end Timeline

namespace Site

variable {s : Site}

/-! ## Sites in time -/

/-- The delay of every load timer. -/
def loadDelay (s : Site) : Nat := min s.shell.settings.editorLoadDelay.toNat longestDelay

/-- The timers are in order and the clock has passed none of them, and no load timer is further off
than one that is made now. -/
structure Timed (s : Site) : Prop where
  inOrder : s.timeline.InOrder
  ahead : ∀ t ∈ s.timeline, s.now ≤ t.due
  loadsSoon : ∀ t ∈ s.timeline, t.task = .finishLoading → t.due ≤ s.now + s.loadDelay

theorem timed_start (settings : Settings) (chance : Chance) (clock : CivilTime) :
    (start settings chance clock).Timed :=
  ⟨List.Pairwise.nil, by simp [start], by simp [start]⟩

theorem Timed.schedule (h : s.Timed) {delay : Nat} {task : Task}
    (hload : task = .finishLoading → delay ≤ s.loadDelay) : (s.schedule delay task).Timed where
  inOrder := h.inOrder.add _
  ahead := by
    intro t ht
    rcases Timeline.mem_add.mp ht with rfl | ht
    · exact Nat.le_add_right _ _
    · exact h.ahead t ht
  loadsSoon := by
    intro t ht htask
    rcases Timeline.mem_add.mp ht with rfl | ht
    · exact Nat.add_le_add_left (hload htask) _
    · exact h.loadsSoon t ht htask

theorem Timed.loadEditor (h : s.Timed) : s.loadEditor.Timed := h.schedule fun _ => le_rfl

theorem Timed.awaitStop (h : s.Timed) (interval : Nat) : (s.awaitStop interval).Timed :=
  h.schedule (by simp)

/-- With some of the timers gone, the others are as they were. -/
theorem Timed.of_sublist (h : s.Timed) {line : Timeline} (hline : line.Sublist s.timeline)
    (tour : Option Nat) (intervals : Nat) :
    { s with timeline := line, tour, intervals }.Timed where
  inOrder := h.inOrder.sublist hline
  ahead t ht := h.ahead t (hline.subset ht)
  loadsSoon t ht := h.loadsSoon t (hline.subset ht)

theorem timeline_dropTour_sublist (s : Site) : s.dropTour.timeline.Sublist s.timeline := by
  unfold dropTour
  cases s.tour with
  | none => exact List.Sublist.refl _
  | some interval => exact List.filter_sublist

theorem Timed.dropTour (h : s.Timed) : s.dropTour.Timed :=
  h.of_sublist s.timeline_dropTour_sublist none s.intervals

theorem Timed.startTour (h : s.Timed) : s.startTour.Timed :=
  (h.of_sublist s.timeline_dropTour_sublist (some s.intervals) (s.intervals + 1)).awaitStop _

theorem Timed.rearm (h : s.Timed) (interval : Nat) : (s.rearm interval).Timed := by
  unfold Site.rearm
  split
  · exact h.dropTour
  · split
    · exact h.awaitStop interval
    · exact h

theorem Timed.settle (h : s.Timed) (a : Aftermath) : (s.settle a).Timed := by
  cases a with
  | nothing => exact h
  | await pending => exact h.schedule (by simp)
  | load => exact h.loadEditor
  | launch => exact h.startTour
  | stop interval => exact h.loadEditor.rearm interval

/-- The clock does not pass the timers that are left when an event is reached, and it does not go
back. -/
theorem Timed.reached (h : s.Timed) (e : Event) :
    (s.reached e).Timed ∧ s.now ≤ (s.reached e).now := by
  cases e with
  | act a => exact ⟨h, le_rfl⟩
  | fire =>
    cases hline : s.timeline with
    | nil =>
      rw [reached_fire_of_nil hline]
      exact ⟨h, le_rfl⟩
    | cons t later =>
      rw [reached_fire_of_cons hline]
      have horder : (t :: later).Pairwise fun u v => u.due ≤ v.due := hline ▸ h.inOrder
      have hnow : s.now ≤ t.due := h.ahead t (by simp [hline])
      refine ⟨⟨horder.tail, (List.pairwise_cons.mp horder).1, fun u hu htask => ?_⟩, hnow⟩
      have hsoon := h.loadsSoon u (by simp [hline, hu]) htask
      exact hsoon.trans (Nat.add_le_add_right hnow _)
  | wait milliseconds =>
    have hnow : s.now ≤ (s.wait milliseconds).now := by
      cases hline : s.timeline with
      | nil => simp [Site.wait, hline]
      | cons t later =>
        have := h.ahead t (by simp [hline])
        simp only [Site.wait, hline, List.head?_cons, Option.elim_some]
        omega
    refine ⟨⟨h.inOrder, fun u hu => ?_, fun u hu htask => ?_⟩, hnow⟩
    · -- the first timer is due no later than `u`, and the clock stops there
      change (s.wait milliseconds).now ≤ u.due
      cases hline : s.timeline with
      | nil => simp [Site.reached, Site.wait, hline] at hu
      | cons t later =>
        have htu : t.due ≤ u.due := by
          have horder : (t :: later).Pairwise fun u v => u.due ≤ v.due := hline ▸ h.inOrder
          have hu : u ∈ t :: later := hline ▸ hu
          rcases List.mem_cons.mp hu with rfl | hu
          · exact le_rfl
          · exact (List.pairwise_cons.mp horder).1 u hu
        simp only [Site.wait, hline, List.head?_cons, Option.elim_some]
        omega
    · exact (h.loadsSoon u hu htask).trans (Nat.add_le_add_right hnow _)

theorem settings_happen (s : Site) (e : Event) :
    (s.happen e).shell.settings = s.shell.settings := by
  rw [shell_happen]
  cases s.operation? e with
  | none => rfl
  | some op => exact s.visit.settings_perform op

/-- No run changes the settings. -/
theorem settings_happenAll (s : Site) (events : List Event) :
    (s.happenAll events).shell.settings = s.shell.settings := by
  refine invariant_happenAll (P := fun t => t.shell.settings = s.shell.settings) ?_ rfl events
  intro t e ht
  rw [settings_happen, ht]

@[simp] theorem loadDelay_happen (s : Site) (e : Event) : (s.happen e).loadDelay = s.loadDelay := by
  rw [loadDelay, settings_happen, loadDelay]

@[simp] theorem loadDelay_happenAll (s : Site) (events : List Event) :
    (s.happenAll events).loadDelay = s.loadDelay := by
  rw [loadDelay, settings_happenAll, loadDelay]

@[simp] theorem shell_reached (s : Site) (e : Event) : (s.reached e).shell = s.shell := by
  cases e with
  | fire =>
    cases hline : s.timeline with
    | nil => rw [reached_fire_of_nil hline]
    | cons t later => rw [reached_fire_of_cons hline]
  | _ => rfl

@[simp] theorem loadDelay_reached (s : Site) (e : Event) :
    (s.reached e).loadDelay = s.loadDelay := by
  rw [loadDelay, shell_reached, loadDelay]

theorem Timed.changed (h : s.Timed) (e : Event) : (s.changed e).Timed := by
  obtain ⟨hreached, -⟩ := h.reached e
  have hdelay : (s.changed e).loadDelay = (s.reached e).loadDelay :=
    (s.loadDelay_happen e).trans (s.loadDelay_reached e).symm
  refine ⟨hreached.inOrder, hreached.ahead, fun t ht htask => ?_⟩
  rw [hdelay]
  exact hreached.loadsSoon t ht htask

/-- An event keeps the timers in order, and the clock does not go back. -/
theorem Timed.happen (h : s.Timed) (e : Event) :
    (s.happen e).Timed ∧ s.now ≤ (s.happen e).now := by
  refine ⟨?_, ?_⟩
  · rw [happen_eq]
    exact (h.changed e).settle _
  · rw [now_happen]
    exact (h.reached e).2

theorem Timed.happenAll (h : s.Timed) (events : List Event) :
    (s.happenAll events).Timed ∧ s.now ≤ (s.happenAll events).now := by
  induction events generalizing s with
  | nil => exact ⟨h, le_rfl⟩
  | cons e events ih =>
    obtain ⟨hstep, hnow⟩ := h.happen e
    obtain ⟨hrest, hnow'⟩ := ih hstep
    exact ⟨hrest, hnow.trans hnow'⟩

/-! ## The timers of one kind -/

/-- The timer that settling an aftermath makes, apart from those of the intervals. -/
def timer? (s : Site) : Aftermath → Option Timer
  | .await pending => some ⟨s.now + min pending.delay longestDelay, .complete pending⟩
  | .load | .stop _ => some ⟨s.now + s.loadDelay, .finishLoading⟩
  | .nothing | .launch => none

section Kind

variable {β : Type} {f : Timer → Option β}

theorem filterMap_dropTour (hf : ∀ due interval, f ⟨due, .tourStop interval⟩ = none) (s : Site) :
    s.dropTour.timeline.filterMap f = s.timeline.filterMap f := by
  unfold dropTour
  cases s.tour with
  | none => rfl
  | some interval =>
    refine Timeline.filterMap_cancel fun t ht => ?_
    obtain ⟨due, task⟩ := t
    obtain rfl : task = .tourStop interval := ht
    exact hf due interval

theorem filterMap_awaitStop (hf : ∀ due interval, f ⟨due, .tourStop interval⟩ = none)
    (h : s.Timed) (interval : Nat) :
    (s.awaitStop interval).timeline.filterMap f = s.timeline.filterMap f := by
  rw [Site.awaitStop, timeline_schedule, Timeline.filterMap_add h.inOrder (by simp [hf]), hf]
  simp

theorem filterMap_rearm (hf : ∀ due interval, f ⟨due, .tourStop interval⟩ = none)
    (h : s.Timed) (interval : Nat) :
    (s.rearm interval).timeline.filterMap f = s.timeline.filterMap f := by
  unfold Site.rearm
  split
  · exact filterMap_dropTour hf s
  · split
    · exact filterMap_awaitStop hf h interval
    · rfl

/-- Settling an aftermath adds the timer that it makes to those of its kind, as the last one if it
is due last. -/
theorem filterMap_settle (hf : ∀ due interval, f ⟨due, .tourStop interval⟩ = none) (h : s.Timed)
    (a : Aftermath) (hlast : ∀ t, s.timer? a = some t → (f t).isSome →
      ∀ u ∈ s.timeline, (f u).isSome → u.due ≤ t.due) :
    (s.settle a).timeline.filterMap f = s.timeline.filterMap f ++ ((s.timer? a).bind f).toList := by
  cases a with
  | nothing => simp [Site.settle, timer?]
  | await pending =>
    simp only [timer?, Option.some.injEq, forall_eq'] at hlast
    exact Timeline.filterMap_add h.inOrder hlast
  | load =>
    simp only [timer?, Option.some.injEq, forall_eq'] at hlast
    exact Timeline.filterMap_add h.inOrder hlast
  | launch =>
    have hdropped := (h.of_sublist s.timeline_dropTour_sublist (some s.intervals) (s.intervals + 1))
    have hsame : s.startTour.timeline.filterMap f = s.dropTour.timeline.filterMap f :=
      filterMap_awaitStop hf hdropped s.intervals
    simp [Site.settle, timer?, hsame, filterMap_dropTour hf]
  | stop interval =>
    simp only [timer?, Option.some.injEq, forall_eq'] at hlast
    rw [Site.settle, filterMap_rearm hf h.loadEditor]
    exact Timeline.filterMap_add h.inOrder hlast

/-- The timer that an event makes, apart from those of the intervals. -/
def made? (s : Site) (e : Event) : Option Timer := (s.happen e).timer? (s.aftermath e)

/-- The timers of a kind after an event are those that it finds, and then the one that it makes. -/
theorem filterMap_happen (hf : ∀ due interval, f ⟨due, .tourStop interval⟩ = none) (h : s.Timed)
    (e : Event) (hlast : ∀ t, s.made? e = some t → (f t).isSome →
      ∀ u ∈ (s.reached e).timeline, (f u).isSome → u.due ≤ t.due) :
    (s.happen e).timeline.filterMap f =
      (s.reached e).timeline.filterMap f ++ ((s.made? e).bind f).toList := by
  have hmade : (s.changed e).timer? (s.aftermath e) = s.made? e := by
    have hnow : (s.changed e).now = (s.happen e).now := (s.now_happen e).symm
    have hdelay : (s.changed e).loadDelay = (s.happen e).loadDelay := rfl
    rw [made?]
    cases s.aftermath e <;> simp only [timer?, hnow, hdelay]
  have hkind := filterMap_settle hf (h.changed e) (s.aftermath e)
  rw [hmade] at hkind
  rw [happen_eq]
  exact hkind hlast

end Kind

/-! ## How long a timer lasts -/

variable {t : Timer}

theorem mem_timeline_dropTour (ht : ∀ interval, t.task ≠ .tourStop interval)
    (hmem : t ∈ s.timeline) : t ∈ s.dropTour.timeline := by
  unfold dropTour
  cases s.tour with
  | none => exact hmem
  | some interval => exact Timeline.mem_cancel.mpr ⟨hmem, ht interval⟩

theorem mem_timeline_schedule (hmem : t ∈ s.timeline) (delay : Nat) (task : Task) :
    t ∈ (s.schedule delay task).timeline :=
  Timeline.mem_add.mpr (.inr hmem)

theorem mem_timeline_settle (ht : ∀ interval, t.task ≠ .tourStop interval)
    (hmem : t ∈ s.timeline) (a : Aftermath) : t ∈ (s.settle a).timeline := by
  cases a with
  | nothing => exact hmem
  | await pending => exact mem_timeline_schedule hmem _ _
  | load => exact mem_timeline_schedule hmem _ _
  | launch => exact mem_timeline_schedule (mem_timeline_dropTour ht hmem) _ _
  | stop interval =>
    have hload : t ∈ s.loadEditor.timeline := mem_timeline_schedule hmem _ _
    simp only [Site.settle, Site.rearm]
    split
    · exact mem_timeline_dropTour ht hload
    · split
      · exact mem_timeline_schedule hload _ _
      · exact hload

/-- A timer that no interval made stays until it fires. -/
theorem mem_timeline_happen (ht : ∀ interval, t.task ≠ .tourStop interval)
    (hmem : t ∈ s.timeline) (e : Event) :
    t ∈ (s.happen e).timeline ∨ (e = .fire ∧ s.timeline.head? = some t) := by
  have hreached : t ∈ (s.reached e).timeline ∨ (e = .fire ∧ s.timeline.head? = some t) := by
    cases e with
    | fire =>
      cases hline : s.timeline with
      | nil => simp [hline] at hmem
      | cons u later =>
        rw [hline] at hmem
        rw [reached_fire_of_cons hline]
        rcases List.mem_cons.mp hmem with rfl | hmem
        · exact .inr ⟨rfl, rfl⟩
        · exact .inl hmem
    | _ => exact .inl hmem
  rw [happen_eq]
  exact hreached.imp_left fun h => mem_timeline_settle (s := s.changed e) ht h _

/-- Once the clock has passed a timer that no interval made, it has fired. -/
theorem Timed.exists_fire (h : s.Timed) (ht : ∀ interval, t.task ≠ .tourStop interval)
    (hmem : t ∈ s.timeline) {events : List Event} (hlate : t.due < (s.happenAll events).now) :
    ∃ before after, events = before ++ .fire :: after ∧
      (s.happenAll before).timeline.head? = some t := by
  induction events generalizing s with
  | nil =>
    have := h.ahead t hmem
    rw [happenAll_nil] at hlate
    omega
  | cons e events ih =>
    obtain hkept | ⟨rfl, hhead⟩ := mem_timeline_happen ht hmem e
    · obtain ⟨before, after, rfl, hhead⟩ := ih (h.happen e).1 hkept hlate
      exact ⟨e :: before, after, rfl, hhead⟩
    · exact ⟨[], events, rfl, hhead⟩

end Site

end PortfolioTerminal
