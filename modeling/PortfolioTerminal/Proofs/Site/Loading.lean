/-
# How long the editor loads

Whatever opens the editor sets it loading, and a timer that is made at the same time is to end that
after the load delay.  Load timers are never cancelled and do not know for which opening they were
made: whichever fires first ends the loading of what the editor shows then.

The load timers are a queue.  At an opening it holds the timers of earlier openings, and whatever is
made from then on comes after these and is due no earlier than a load delay later.  Two results
follow.  The editor loads for the whole of the load delay, except if a timer of an earlier opening
fires in that time; and while it loads, the timer of its own opening is in flight.
-/
import PortfolioTerminal.Proofs.Since
import PortfolioTerminal.Proofs.Site.Timers

namespace PortfolioTerminal

/-- When a load timer is due. -/
def Timer.load? (t : Timer) : Option Nat :=
  match t.task with
  | .finishLoading => some t.due
  | .complete _ | .tourStop _ => none

theorem Timer.load?_eq_some_iff {t : Timer} {due : Nat} :
    t.load? = some due ↔ t.task = .finishLoading ∧ t.due = due := by
  cases h : t.task <;> simp [load?, h]

namespace Site

variable {s : Site}

/-! ## The load timers -/

/-- When the load timers in flight are due. -/
def loads (s : Site) : List Nat := s.timeline.filterMap Timer.load?

/-- When the load timer was due that an event fires. -/
def loaded? (s : Site) (e : Event) : Option Nat := (s.fired? e).bind Timer.load?

/-- Whether an aftermath makes a load timer. -/
def Aftermath.makesLoad : Aftermath → Bool
  | .load | .stop _ => true
  | .nothing | .await _ | .launch => false

/-- The load timer that fires is the first one. -/
theorem loads_eq_loaded?_append (s : Site) (e : Event) :
    s.loads = (s.loaded? e).toList ++ (s.reached e).loads :=
  filterMap_timeline _ s e

/-- The clock moves to the load timer that fires. -/
theorem now_happen_of_loaded? {e : Event} {due : Nat} (h : s.loaded? e = some due) :
    (s.happen e).now = due := by
  obtain ⟨t, hfired, hload⟩ := Option.bind_eq_some_iff.mp h
  rw [now_happen, now_reached_of_fired? hfired]
  exact (Timer.load?_eq_some_iff.mp hload).2

/-- When the load timer is due that an event makes, if it makes one. -/
def madeLoads (s : Site) (e : Event) : List Nat :=
  if (s.aftermath e).makesLoad then [(s.happen e).now + s.loadDelay] else []

theorem eq_of_mem_madeLoads {e : Event} {due : Nat} (h : due ∈ s.madeLoads e) :
    due = (s.happen e).now + s.loadDelay := by
  rw [madeLoads] at h
  split at h
  · exact List.mem_singleton.mp h
  · simp at h

/-- The load timer that an event makes is the last one. -/
theorem loads_happen (h : s.Timed) (e : Event) :
    (s.happen e).loads = (s.reached e).loads ++ s.madeLoads e := by
  have hmade : ∀ t, s.made? e = some t → t.load?.isSome →
      t.due = (s.happen e).now + s.loadDelay := by
    intro t ht hsome
    rw [made?] at ht
    cases ha : s.aftermath e with
    | await pending =>
      obtain rfl := Option.some.inj (ha ▸ ht)
      simp [Timer.load?] at hsome
    | load | stop interval =>
      obtain rfl := Option.some.inj (ha ▸ ht)
      rw [loadDelay_happen]
    | nothing | launch => simp [ha, timer?] at ht
  have hkind : (s.happen e).loads =
      (s.reached e).loads ++ ((s.made? e).bind Timer.load?).toList := by
    refine filterMap_happen (fun _ _ => rfl) h e fun t ht hsome u hu husome => ?_
    -- no load timer that is in flight is due later than one that is made now
    obtain ⟨due, hdue⟩ := Option.isSome_iff_exists.mp husome
    have hsoon := (h.reached e).1.loadsSoon u hu (Timer.load?_eq_some_iff.mp hdue).1
    rw [hmade t ht hsome, now_happen]
    rwa [loadDelay_reached] at hsoon
  rw [hkind, made?, madeLoads]
  cases s.aftermath e with
  | load | stop interval => simp [timer?, Timer.load?, Aftermath.makesLoad]
  | _ => rfl

theorem loads_happen_of_loaded?_eq_none (h : s.Timed) {e : Event} (hl : s.loaded? e = none) :
    (s.happen e).loads = s.loads ++ s.madeLoads e := by
  rw [loads_happen h, loads_eq_loaded?_append s e, hl]
  rfl

/-! ## The editor -/

/-- The move that an event makes on the layout. -/
def move? (s : Site) (e : Event) : Option Move := (s.operation? e).bind s.visit.move?

/-- Whether the editor shows its loading text. -/
def isLoading (s : Site) : Bool := s.shell.session.mode.isLoading

/-- Whether an event opens the editor, which may be open already. -/
def opens (s : Site) (e : Event) : Bool := (s.move? e).any s.shell.session.opens

/-- Whether an event takes the editor away: it is closed, or the terminal is hidden. -/
def closes (s : Site) (e : Event) : Bool := (s.move? e).any s.shell.session.closes

/-- A load timer that fires ends the loading, and nothing else does. -/
theorem move?_eq_finishLoading_iff (s : Site) (e : Event) :
    s.move? e = some .finishLoading ↔ (s.loaded? e).isSome := by
  have hmove : s.move? e = some .finishLoading ↔ s.operation? e = some .finishLoading := by
    simp [move?, Option.bind_eq_some_iff, Visit.move?_eq_finishLoading_iff]
  rw [hmove]
  cases e with
  | act a => cases a <;> simp [operation?, SiteAction.operation?, loaded?]
  | fire =>
    rw [operation?, loaded?, fired?_fire]
    cases s.timeline.head? with
    | none => simp
    | some t => cases ht : t.task <;> simp [ht, Task.operation, Timer.load?]
  | wait milliseconds => simp [operation?, loaded?]

/-- The editor loads from when it is opened until it is taken away or a load timer fires. -/
theorem isLoading_happen (s : Site) (e : Event) :
    (s.happen e).isLoading =
      (s.opens e || (s.isLoading && !s.closes e && (s.loaded? e).isNone)) := by
  have hsession : (s.happen e).isLoading =
      (s.move? e).elim s.isLoading fun m => (s.shell.session.move m).mode.isLoading := by
    rw [isLoading, shell_happen, move?]
    cases s.operation? e with
    | none => rfl
    | some op =>
      have hmode := (s.visit.session_perform op).2.1
      rw [Option.elim_some, hmode, Option.bind_some]
      cases s.visit.move? op <;> rfl
  have hloaded : (s.loaded? e).isNone = !decide (s.move? e = some .finishLoading) := by
    simp [move?_eq_finishLoading_iff]
  rw [hsession, hloaded, opens, closes]
  cases hm : s.move? e with
  | none => simp
  | some m =>
    simp only [Option.elim_some, Option.any_some, Session.isLoading_move, Option.some.injEq]
    rfl

/-- The editor is not opened by an event that ends its loading. -/
theorem loaded?_of_opens {e : Event} (h : s.opens e = true) : s.loaded? e = none := by
  by_contra hne
  have hmove := (s.move?_eq_finishLoading_iff e).mpr (Option.isSome_iff_ne_none.mpr hne)
  simp [opens, hmove, Session.opens] at h

/-! ## Openings and their timers -/

/-- Whether the front end offers the event: a line is run by a click on the name of a section, and
only while the terminal is hidden. -/
def offers (s : Site) (e : Event) : Bool :=
  e.runsNamesOnly && (e.line?.isNone || !s.shell.session.shellVisible)

/-- A click on the name of a section does not open the editor while the terminal is hidden. -/
theorem opens_run_of_offers {line : String} (h : s.offers (.act (.run line)) = true) :
    s.opens (.act (.run line)) = false := by
  obtain ⟨hname, hhidden⟩ : (Event.act (.run line)).runsNamesOnly = true ∧
      s.shell.session.shellVisible = false := by
    simpa [offers, Event.line?] using h
  obtain ⟨target, hparse⟩ := Event.exists_parse_eq_goTo hname
  rw [opens, Option.any_eq_false]
  intro m hm
  have hmove : s.visit.move? (.run line s.clock) = some m := hm
  cases hc : s.visit.completion? (.run line s.clock) with
  | none => simp [Visit.move?, hc] at hmove
  | some c =>
    obtain ⟨-, rfl⟩ := Visit.completion?_run_eq_some_iff.mp hc
    rw [Visit.move?_of_completion? hc] at hmove
    have hcommand := (Shell.move?_effect _ _ _).symm.trans hmove
    obtain rfl : Move.goTo target = m := by
      simpa [Shell.pendingOf, hparse, Command.move?] using hcommand
    simp [Session.opens, hhidden]

/-- A task that moves somewhere makes a load timer. -/
theorem makesLoad_aftermath_of_move? {t : Timer} {m : Move}
    (hhead : s.timeline.head? = some t) (hm : s.move? .fire = some m) (hne : m ≠ .finishLoading) :
    t.task.aftermath.makesLoad = true := by
  have hmove : s.visit.move? (t.task.operation s.clock) = some m := by
    simpa [move?, operation?, hhead] using hm
  cases ht : t.task with
  | complete p =>
    rw [Visit.move?_of_completion? (completion?_of_head? hhead ht)] at hmove
    have hcommand : p.command.move? = some m := (Shell.move?_effect _ _ _).symm.trans hmove
    have hlaunch : p.command ≠ .decoration .launchPortfolio := by
      intro hlaunch
      simp [hlaunch, Command.move?] at hcommand
    simp [Task.aftermath, Command.aftermath, hlaunch, hcommand, Aftermath.makesLoad]
  | finishLoading =>
    rw [ht, Task.operation, Visit.move?, Option.some.injEq] at hmove
    exact absurd hmove.symm hne
  | tourStop interval => rfl

/-- Whatever opens the editor makes a load timer with it. -/
theorem makesLoad_of_opens {e : Event} (hopens : s.opens e = true) (hoffers : s.offers e = true) :
    (s.aftermath e).makesLoad = true := by
  obtain ⟨m, hm, hopen⟩ := (Option.any_eq_true _ _).mp hopens
  cases e with
  | act a =>
    cases a with
    | key k =>
      -- a key may close the editor only
      have hmove : s.visit.move? (.key k) = some m := hm
      obtain ⟨-, hclose⟩ := Option.ite_none_right_eq_some.mp hmove
      obtain rfl := Option.some.inj hclose
      simp [Session.opens] at hopen
    | openFile file =>
      obtain ⟨target, htarget, -⟩ := Option.map_eq_some_iff.mp hm
      simp [aftermath, htarget, Aftermath.makesLoad]
    | toggleShellView =>
      obtain rfl : Move.toggleShellView = m := Option.some.inj hm
      have hhidden : s.shell.session.shellVisible = false := by simpa [Session.opens] using hopen
      simp [aftermath, hhidden, Aftermath.makesLoad]
    | run line => simp [opens_run_of_offers hoffers] at hopens
    | closeEditor =>
      obtain rfl : Move.closeEditor = m := Option.some.inj hm
      simp [Session.opens] at hopen
    | saveAndExit =>
      obtain rfl : Move.closeEditor = m := Option.some.inj hm
      simp [Session.opens] at hopen
    | _ => simp [move?, operation?, SiteAction.operation?, Visit.move?, Visit.completion?] at hm
  | fire =>
    have hne : m ≠ .finishLoading := by
      rintro rfl
      simp [Session.opens] at hopen
    cases hhead : s.timeline.head? with
    | none => simp [move?, operation?, hhead] at hm
    | some t =>
      rw [aftermath, hhead, Option.elim_some]
      exact makesLoad_aftermath_of_move? hhead hm hne
  | wait milliseconds => simp [move?, operation?] at hm

/-! ## What the editor shows and since when -/

/-- An event of a run that neither opens the editor nor takes it away. -/
def LeavesEditor (s : Site) (before : List Event) (e : Event) : Prop :=
  (s.happenAll before).opens e = false ∧ (s.happenAll before).closes e = false

/-- What the editor shows was opened at that time, when the load timers in flight were due at
`earlier`; since then the editor was neither opened again nor taken away. -/
def OpenedAt (s : Site) (time : Nat) (earlier : List Nat) : List Event → Prop :=
  Since
    (fun before e => (s.happenAll before).opens e = true ∧
      (s.happenAll (before ++ [e])).now = time ∧ (s.happenAll before).loads = earlier)
    s.LeavesEditor

/-- A load timer that was due at `due` fired when the editor showed what was opened at `time`, and
it still shows that. -/
def ClearedBy (s : Site) (time : Nat) (earlier : List Nat) (due : Nat) : List Event → Prop :=
  Since
    (fun before e => s.OpenedAt time earlier before ∧ (s.happenAll before).loaded? e = some due)
    s.LeavesEditor

/-- What the editor shows, if anything, loads until the load delay has passed. -/
def LoadsInFull (s : Site) (events : List Event) : Prop :=
  ∀ time earlier, s.OpenedAt time earlier events →
    (s.happenAll events).now < time + s.loadDelay → (s.happenAll events).isLoading = true

variable {time due : Nat} {earlier : List Nat} {events : List Event}

/-- A load timer neither opens the editor nor takes it away. -/
theorem leavesEditor_of_loaded? {e : Event} (h : (s.happenAll events).loaded? e = some due) :
    s.LeavesEditor events e := by
  have hmove : (s.happenAll events).move? e = some .finishLoading := by
    rw [move?_eq_finishLoading_iff, h, Option.isSome_some]
  rw [LeavesEditor, opens, closes, hmove]
  exact ⟨rfl, rfl⟩

theorem openedAt_of_clearedBy (h : s.ClearedBy time earlier due events) :
    s.OpenedAt time earlier events := by
  induction events using List.reverseRecOn with
  | nil => exact absurd h Since.not_nil
  | append_singleton events e ih =>
    refine Since.concat_iff.mpr (.inr ?_)
    rcases Since.concat_iff.mp h with ⟨hopened, hloaded⟩ | ⟨hcleared, hleaves⟩
    · exact ⟨hopened, leavesEditor_of_loaded? hloaded⟩
    · exact ⟨ih hcleared, hleaves⟩

/-- Once a load timer has fired, what the editor shows is loaded. -/
theorem isLoading_of_clearedBy (h : s.ClearedBy time earlier due events) :
    (s.happenAll events).isLoading = false := by
  induction events using List.reverseRecOn with
  | nil => exact absurd h Since.not_nil
  | append_singleton events e ih =>
    rw [happenAll_concat, isLoading_happen]
    rcases Since.concat_iff.mp h with ⟨-, hloaded⟩ | ⟨hcleared, hleaves⟩
    · simp [(leavesEditor_of_loaded? hloaded).1, hloaded]
    · simp [hleaves.1, ih hcleared]

theorem le_now_of_openedAt (h : s.Timed) (hopened : s.OpenedAt time earlier events) :
    time ≤ (s.happenAll events).now := by
  induction events using List.reverseRecOn with
  | nil => exact absurd hopened Since.not_nil
  | append_singleton events e ih =>
    rcases Since.concat_iff.mp hopened with ⟨-, hnow, -⟩ | ⟨hopened, -⟩
    · exact hnow.ge
    · have hbefore := ih hopened
      have hnow := ((h.happenAll events).1.happen e).2
      rw [happenAll_concat]
      exact hbefore.trans hnow

/-! ## The whole of the load delay -/

/-- The editor loads, and apart from the earlier load timers none is due before the deadline. -/
structure LoadsUntil (s : Site) (deadline : Nat) (earlier : List Nat) : Prop where
  isLoading : s.isLoading = true
  loads : ∃ more, s.loads = earlier ++ more ∧ ∀ due ∈ more, deadline ≤ due

/-- The editor loads when it is opened. -/
theorem loadsUntil_of_opens (h : s.Timed) {e : Event} (hopens : s.opens e = true) :
    (s.happen e).LoadsUntil ((s.happen e).now + s.loadDelay) s.loads where
  isLoading := by rw [isLoading_happen, hopens, Bool.true_or]
  loads := ⟨s.madeLoads e, loads_happen_of_loaded?_eq_none h (loaded?_of_opens hopens),
    fun _ hdue => (eq_of_mem_madeLoads hdue).ge⟩

/-- It loads on until it is taken away or a load timer fires. -/
theorem LoadsUntil.happen {deadline : Nat} (hloads : s.LoadsUntil deadline earlier) (h : s.Timed)
    {e : Event} (hcloses : s.closes e = false) (hl : s.loaded? e = none)
    (hdeadline : deadline ≤ s.now + s.loadDelay) : (s.happen e).LoadsUntil deadline earlier := by
  obtain ⟨more, hmore, hdue⟩ := hloads.loads
  have hnow := (h.happen e).2
  refine ⟨?_, more ++ s.madeLoads e, ?_, fun due hmem => ?_⟩
  · rw [isLoading_happen, hloads.isLoading, hcloses, hl]
    simp
  · rw [loads_happen_of_loaded?_eq_none h hl, hmore, List.append_assoc]
  · rcases List.mem_append.mp hmem with hmem | hmem
    · exact hdue due hmem
    · have := eq_of_mem_madeLoads hmem
      omega

/-- As long as what the editor shows loads, the load timers are those that were in flight when it
was opened, and then timers that are due after the load delay; and when it does not load any more,
one of them has fired. -/
theorem loadsUntil_or_exists_clearedBy (h : s.Timed) (hopened : s.OpenedAt time earlier events) :
    (s.happenAll events).LoadsUntil (time + s.loadDelay) earlier ∨
      ∃ due ≤ (s.happenAll events).now, s.ClearedBy time earlier due events ∧
        (due ∈ earlier ∨ time + s.loadDelay ≤ due) := by
  induction events using List.reverseRecOn with
  | nil => exact absurd hopened Since.not_nil
  | append_singleton events e ih =>
    have htimed := (h.happenAll events).1
    rw [happenAll_concat]
    rcases Since.concat_iff.mp hopened with ⟨hopens, htime, hearlier⟩ | ⟨hopened, hleaves⟩
    · have hloads := loadsUntil_of_opens htimed hopens
      rw [happenAll_concat] at htime
      rw [htime, loadDelay_happenAll, hearlier] at hloads
      exact .inl hloads
    · rcases ih hopened with hloads | ⟨due, hle, hcleared, hdue⟩
      · cases hl : (s.happenAll events).loaded? e with
        | none =>
          have htime := le_now_of_openedAt h hopened
          refine .inl (hloads.happen htimed hleaves.2 hl ?_)
          rw [loadDelay_happenAll]
          omega
        | some due =>
          -- the timer that fires is the first one in flight
          obtain ⟨more, hmore, hlate⟩ := hloads.loads
          have hmem : due ∈ earlier ++ more := by
            rw [← hmore, loads_eq_loaded?_append _ e, hl]
            exact List.mem_cons_self
          refine .inr ⟨due, (now_happen_of_loaded? hl).ge,
            Since.concat_iff.mpr (.inl ⟨hopened, hl⟩), ?_⟩
          exact (List.mem_append.mp hmem).imp_right (hlate due)
      · have hnow := (htimed.happen e).2
        exact .inr ⟨due, hle.trans hnow, Since.concat_iff.mpr (.inr ⟨hcleared, hleaves⟩), hdue⟩

variable (settings : Settings) (chance : Chance) (clock : CivilTime)

/-- **What the editor shows loads for the whole of the load delay**, except where a load timer that
was in flight already when it was opened has fired since. -/
theorem loadsInFull_iff_not_clearedByEarlier (events : List Event) :
    let fresh := start settings chance clock
    fresh.LoadsInFull events ↔
      ¬ ∃ time earlier due, due ∈ earlier ∧ fresh.ClearedBy time earlier due events ∧
        (fresh.happenAll events).now < time + fresh.loadDelay := by
  intro fresh
  constructor
  · rintro hfull ⟨time, earlier, due, -, hcleared, hnow⟩
    have hloading := hfull time earlier (openedAt_of_clearedBy hcleared) hnow
    rw [isLoading_of_clearedBy hcleared] at hloading
    contradiction
  · intro hnot time earlier hopened hnow
    rcases loadsUntil_or_exists_clearedBy (timed_start settings chance clock) hopened with
      hloads | ⟨due, hle, hcleared, hearlier | hlate⟩
    · exact hloads.isLoading
    · exact absurd ⟨time, earlier, due, hearlier, hcleared, hnow⟩ hnot
    · -- it was due after the load delay, and that has not passed yet
      have hpassed : time + fresh.loadDelay ≤ (fresh.happenAll events).now := hlate.trans hle
      omega

/-- The timer that was made when the terminal was shown again ends the loading of a file that is
clicked a little later. -/
theorem not_loadsInFull_of_second_opening :
    ¬ (start {} .least ⟨2024, 3, 9, 14, 5, 0⟩).LoadsInFull
      [.act .toggleShellView, .act .toggleShellView, .wait 100, .act (.openFile "about.md"),
        .fire] := by
  let shown : List Event := [.act .toggleShellView, .act .toggleShellView, .wait 100]
  intro h
  have hclick : (start {} .least ⟨2024, 3, 9, 14, 5, 0⟩).OpenedAt 100 [300]
      (shown ++ [.act (.openFile "about.md")]) :=
    Since.concat_iff.mpr (.inl (by decide +kernel))
  have hfire : (start {} .least ⟨2024, 3, 9, 14, 5, 0⟩).OpenedAt 100 [300]
      (shown ++ [.act (.openFile "about.md")] ++ [.fire]) :=
    Since.concat_iff.mpr (.inr ⟨hclick, by decide +kernel, by decide +kernel⟩)
  have hloading := h 100 [300] hfire (by decide +kernel)
  revert hloading
  decide +kernel

/-! ## The end of the loading -/

/-- While the editor loads, the load timer of its opening follows those that were in flight then. -/
theorem exists_openedAt_of_isLoading (h : s.Timed) (hidle : s.isLoading = false)
    (hoffers : s.always offers events = true) (hloading : (s.happenAll events).isLoading = true) :
    ∃ time earlier more, s.OpenedAt time earlier events ∧
      (s.happenAll events).loads = earlier ++ (time + s.loadDelay) :: more := by
  induction events using List.reverseRecOn with
  | nil =>
    rw [happenAll_nil, hidle] at hloading
    contradiction
  | append_singleton events e ih =>
    have htimed := (h.happenAll events).1
    obtain ⟨hbefore, hoffer⟩ : s.always offers events = true ∧
        (s.happenAll events).offers e = true := by
      simpa [always_concat] using hoffers
    rw [happenAll_concat, isLoading_happen] at hloading
    cases hopens : (s.happenAll events).opens e with
    | true =>
      have hmade : (s.happenAll events).madeLoads e =
          [((s.happenAll events).happen e).now + s.loadDelay] := by
        rw [madeLoads, makesLoad_of_opens hopens hoffer, if_pos rfl, loadDelay_happenAll]
      refine ⟨_, _, [], Since.concat_iff.mpr (.inl ⟨hopens, rfl, rfl⟩), ?_⟩
      rw [happenAll_concat, ← hmade]
      exact loads_happen_of_loaded?_eq_none htimed (loaded?_of_opens hopens)
    | false =>
      simp only [hopens, Bool.false_or, Bool.and_eq_true, Bool.not_eq_true',
        Option.isNone_iff_eq_none]
        at hloading
      obtain ⟨⟨hloading, hcloses⟩, hl⟩ := hloading
      obtain ⟨time, earlier, more, hopened, hloads⟩ := ih hbefore hloading
      refine ⟨time, earlier, more ++ (s.happenAll events).madeLoads e,
        Since.concat_iff.mpr (.inr ⟨hopened, hopens, hcloses⟩), ?_⟩
      rw [happenAll_concat, loads_happen_of_loaded?_eq_none htimed hl, hloads]
      simp

/-- **While the editor loads, the timer is in flight that was made when it was opened**, behind
those that were in flight already, if the names of sections are clicked only while the terminal is
hidden.  So the loading ends by the time the load delay has passed. -/
theorem exists_load_of_isLoading (events : List Event)
    (hoffers : (start settings chance clock).always offers events = true) :
    let fresh := start settings chance clock
    let s := fresh.happenAll events
    s.isLoading = true → ∃ time earlier more, fresh.OpenedAt time earlier events ∧
      s.loads = earlier ++ (time + fresh.loadDelay) :: more ∧ s.now ≤ time + fresh.loadDelay := by
  intro fresh s hloading
  have hstart : fresh.Timed := timed_start settings chance clock
  obtain ⟨time, earlier, more, hopened, hloads⟩ :=
    exists_openedAt_of_isLoading hstart rfl hoffers hloading
  refine ⟨time, earlier, more, hopened, hloads, ?_⟩
  have hmem : time + fresh.loadDelay ∈ s.loads := by
    rw [hloads]
    simp
  obtain ⟨t, ht, hload⟩ := List.mem_filterMap.mp hmem
  rw [← (Timer.load?_eq_some_iff.mp hload).2]
  exact (hstart.happenAll events).1.ahead t ht

/-- A section is clicked, the terminal is shown again, and the file of another section is clicked
while the editor still loads. -/
theorem exists_load_of_second_opening :
    let fresh := start {} .least ⟨2024, 3, 9, 14, 5, 0⟩
    let events : List Event := [.act .toggleShellView, .act (.run "about"), .act .toggleShellView,
      .wait 100, .act (.openFile "blog.txt")]
    ∃ time earlier more, fresh.OpenedAt time earlier events ∧
      (fresh.happenAll events).loads = earlier ++ (time + fresh.loadDelay) :: more ∧
      (fresh.happenAll events).now ≤ time + fresh.loadDelay := by
  intro fresh events
  refine exists_load_of_isLoading {} .least ⟨2024, 3, 9, 14, 5, 0⟩ events ?_ ?_
  · decide +kernel
  · decide +kernel

/-- A click that is not offered opens the editor without a timer. -/
example :
    let s := (start {} .least ⟨2024, 3, 9, 14, 5, 0⟩).happenAll [.act (.run "about")]
    s.isLoading = true ∧ s.loads = [] := by
  decide +kernel

end Site

end PortfolioTerminal
