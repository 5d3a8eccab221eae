/-
# Completing a line

The tab key twice, with arrows in between, replaces what is typed by one of the names that begin
with it: the first tab opens the pane, the arrows choose, and the second tab accepts.  The name
chosen is the one that the arrows came to on the ring of candidates.  A line so completed is one
that the terminal knows, and it begins with what was typed, in lower case; where nothing is
suggested, the keys do nothing.

The pane is followed on the prompt alone: of an idle visit, these keys reach nothing else.
-/
import PortfolioTerminal.Proofs.Command.Words
import PortfolioTerminal.Proofs.Prompt.Ring
import PortfolioTerminal.Proofs.Visit.Typing

namespace PortfolioTerminal

/-- The command is a line completed from the text: one that the terminal knows, and one that begins
with the text in lower case, without the blanks in front. -/
structure Pending.CompletedFrom (p : Pending) (text : String) : Prop where
  command_eq : p.command = Command.parse p.raw
  known : ∀ typed, p.command ≠ .unknown typed
  lowerChars_prefix : Text.lowerChars (Text.trimStart text.toList) <+: p.raw.toList

theorem Shell.completedFrom_pendingOf (s : Shell) {text name : String} (h : name ∈ suggest text) :
    (s.pendingOf name).CompletedFrom text := by
  obtain ⟨-, hname, hprefix⟩ := mem_suggest_iff.mp h
  have hraw : (s.pendingOf name).raw = name := rfl
  have hcommand := s.command_pendingOf name
  refine ⟨hcommand, fun typed => ?_, by rwa [hraw]⟩
  rw [hcommand, hraw]
  exact Command.parse_ne_unknown_of_mem_names hname typed

/-- What is suggested is not blank. -/
theorem isAllBlank_of_mem_suggest {text name : String} (h : name ∈ suggest text) :
    Text.isAllBlank name = false := by
  obtain ⟨hne, hword⟩ := Verb.isWord_of_mem_names name (mem_suggest_iff.mp h).2.1
  obtain ⟨c, cs, hcons, hc⟩ := Text.exists_cons_of_word hne hword
  exact Text.isAllBlank_eq_false_iff.mpr ⟨c, by simp [hcons], hc⟩

/-- A tab, arrows and a tab are tabs and arrows. -/
theorem Key.eq_tab_or_arrow_of_mem {arrows : List Key}
    (harrows : ∀ k ∈ arrows, k = .arrowLeft ∨ k = .arrowRight) :
    ∀ k ∈ .tab :: arrows ++ [.tab], k = .tab ∨ k = .arrowLeft ∨ k = .arrowRight := by
  simp only [List.cons_append, List.mem_cons, List.mem_append, List.not_mem_nil, or_false]
  rintro k (rfl | hk | rfl)
  · exact .inl rfl
  · exact .inr (harrows k hk)
  · exact .inl rfl

namespace Visit

variable {v : Visit} {text : String} {arrows keys : List Key}

/-! ## From a text in the prompt -/

/-- With the pane closed, a text that is set and tabs and arrows behind it work on the prompt that
holds the text. -/
theorem performAll_setInput_keys (hidle : v.shell.session.processing = false)
    (hclosed : v.shell.prompt.pane.visible = false) (text : String)
    (hkeys : ∀ k ∈ keys, k = .tab ∨ k = .arrowLeft ∨ k = .arrowRight) :
    v.performAll (.setInput text :: keys.map .key) =
      v.withPrompt ((Prompt.holding text v.shell.prompt.cursor).pressAll v.shell.history keys) := by
  have hstay : ∀ k ∈ keys, k.staysInPrompt = true := by
    intro k hk
    obtain rfl | rfl | rfl := hkeys k hk <;> rfl
  rw [performAll_cons, perform_setInput hidle, Prompt.setBuffer_of_closed hclosed]
  exact performAll_keys (v := v.withPrompt (.holding text v.shell.prompt.cursor)) hidle hstay

/-- Where nothing is suggested, tabs and arrows do nothing. -/
theorem performAll_setInput_of_suggest_eq_nil (hidle : v.shell.session.processing = false)
    (hclosed : v.shell.prompt.pane.visible = false) (hnone : suggest text = [])
    (hkeys : ∀ k ∈ keys, k = .tab ∨ k = .arrowLeft ∨ k = .arrowRight) :
    v.performAll (.setInput text :: keys.map .key) =
      v.withPrompt (.holding text v.shell.prompt.cursor) := by
  rw [performAll_setInput_keys hidle hclosed text hkeys,
    Prompt.pressAll_holding_of_suggest_eq_nil hnone _ hkeys]

/-- Where something is suggested, the prompt comes to hold the name that the arrows lead to. -/
theorem performAll_setInput_of_suggest_ne_nil (hidle : v.shell.session.processing = false)
    (hclosed : v.shell.prompt.pane.visible = false) (hsome : suggest text ≠ [])
    (harrows : ∀ k ∈ arrows, k = .arrowLeft ∨ k = .arrowRight) :
    ∃ name, (suggest text)[(Key.displacement arrows % (suggest text).length).toNat]? = some name ∧
      v.performAll (.setInput text :: (.tab :: arrows ++ [.tab] : List Key).map .key) =
        v.withPrompt (.holding name v.shell.prompt.cursor) := by
  obtain ⟨name, hname, hpressed⟩ :=
    Prompt.pressAll_tab_arrows_tab hsome v.shell.prompt.cursor v.shell.history harrows
  refine ⟨name, hname, ?_⟩
  rw [performAll_setInput_keys hidle hclosed text (Key.eq_tab_or_arrow_of_mem harrows), hpressed]

/-- The enter key submits a completed line. -/
theorem perform_enter_of_mem_suggest (hidle : v.shell.session.processing = false)
    (h : v.shell.prompt.buffer ∈ suggest text) :
    ∃ p, (v.perform (.key .enter)).answer = .pressed (some p) ∧
      p.raw = v.shell.prompt.buffer ∧ p.CompletedFrom text := by
  have henter := (perform_enter hidle (isAllBlank_of_mem_suggest h)).2
  exact ⟨_, henter, rfl, Shell.completedFrom_pendingOf _ h⟩

/-! ## To a command -/

/-- **Completing a line, end to end.**  Two tabs with arrows in between leave the pane closed, and
in the prompt the name at the place that the arrows add up to; the enter key then submits it.  Where
nothing is suggested, the text stays, and the pane is not opened at any time. -/
theorem tab_completes (hidle : v.shell.session.processing = false)
    (hclosed : v.shell.prompt.pane.visible = false) (text : String)
    (harrows : ∀ k ∈ arrows, k = .arrowLeft ∨ k = .arrowRight) :
    let keys : List Key := .tab :: arrows ++ [.tab]
    let typed (keys : List Key) := v.performAll (.setInput text :: keys.map .key)
    let n := (suggest text).length
    let place := ((arrows.count .arrowRight : Int) - arrows.count .arrowLeft) % n
    (typed keys).shell.prompt.pane.visible = false ∧
      (0 < n →
        (suggest text)[place.toNat]? = some (typed keys).shell.prompt.buffer ∧
        ∃ p, ((typed keys).perform (.key .enter)).answer = .pressed (some p) ∧
          p.raw = (typed keys).shell.prompt.buffer ∧ p.CompletedFrom text) ∧
      (n = 0 →
        (typed keys).shell.prompt.buffer = text ∧
        ∀ begun, begun <+: keys → (typed begun).shell.prompt.pane.visible = false) := by
  intro keys typed n place
  have hkeys := Key.eq_tab_or_arrow_of_mem harrows
  by_cases hnone : suggest text = []
  · -- so far as the keys were pressed, nothing has happened
    have hsame : ∀ begun, begun <+: keys →
        typed begun = v.withPrompt (.holding text v.shell.prompt.cursor) := fun begun hbegun =>
      performAll_setInput_of_suggest_eq_nil hidle hclosed hnone
        fun k hk => hkeys k (hbegun.subset hk)
    have hclosed' : ∀ begun, begun <+: keys → (typed begun).shell.prompt.pane.visible = false := by
      intro begun hbegun
      rw [hsame begun hbegun]
      rfl
    have hbuffer : (typed keys).shell.prompt.buffer = text := by
      rw [hsame keys List.prefix_rfl]
      rfl
    have hzero : n = 0 := List.length_eq_zero_iff.mpr hnone
    exact ⟨hclosed' keys List.prefix_rfl, fun hpos => absurd hzero hpos.ne',
      fun _ => ⟨hbuffer, hclosed'⟩⟩
  · obtain ⟨name, hname, hdone⟩ :=
      performAll_setInput_of_suggest_ne_nil hidle hclosed hnone harrows
    have henter := perform_enter_of_mem_suggest
      (v := v.withPrompt (.holding name v.shell.prompt.cursor)) hidle (List.mem_of_getElem? hname)
    have hpos : n ≠ 0 := fun hzero => hnone (List.length_eq_zero_iff.mp hzero)
    have htyped : typed keys = v.withPrompt (.holding name v.shell.prompt.cursor) := hdone
    refine ⟨?_, fun _ => ?_, fun hzero => absurd hzero hpos⟩
    · rw [htyped]
      rfl
    · rw [htyped]
      exact ⟨hname, henter⟩

/-- Two steps back among three names, from a text with a capital and blanks in front; and a text for
which nothing is suggested. -/
theorem tab_completes_echo :
    let v := start {} .least
    let keys : List Key := [.tab, .arrowLeft, .arrowLeft, .tab]
    let typed (text : String) := v.performAll (.setInput text :: keys.map .key)
    (typed "  E").shell.prompt.buffer = "echo" ∧
      (∃ p, ((typed "  E").perform (.key .enter)).answer = .pressed (some p) ∧
        p.CompletedFrom "  E") ∧
      (typed "zz").shell.prompt.buffer = "zz" := by
  intro v keys typed
  have harrows : ∀ k ∈ [Key.arrowLeft, .arrowLeft], k = .arrowLeft ∨ k = .arrowRight := by decide
  have hthree : suggest "  E" = ["edit", "echo", "exit"] := by decide +kernel
  have hnone : (suggest "zz").length = 0 := by decide +kernel
  obtain ⟨-, hsome, -⟩ := tab_completes (v := v) rfl rfl "  E" harrows
  obtain ⟨-, -, hsame⟩ := tab_completes (v := v) rfl rfl "zz" harrows
  obtain ⟨hplace, p, hp, -, hfrom⟩ := hsome (by rw [hthree]; decide)
  rw [hthree] at hplace
  exact ⟨(Option.some.inj hplace).symm, ⟨p, hp, hfrom⟩, (hsame hnone).1⟩

end Visit

end PortfolioTerminal
