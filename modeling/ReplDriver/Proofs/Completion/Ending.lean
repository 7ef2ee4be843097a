import ReplDriver.Proofs.Completion.Erasure
import ReplDriver.Proofs.Session.Silence

/-!
# Which completions end

A REPL answers each of the two tabs of a probe with nothing, with a line that the input line is
completed to in place, or with a listing and the redrawn prompt, and the keys that erase the line
with its prompt. The first wait takes a completed line for the end of the answer, if the probe
begins with no blank. The second one does not: behind a line that the second tab completes in place
it waits for ever. And nothing ends at a prompt of more than one line.

* `TabAnswer.Shows.first_ends`, `TabAnswer.Shows.second_ends`, `EndsInPrompt.third_ends`: which
  answers end the waits.
* `complete_ends_iff`: a completion returns exactly if all three waits end, or the cache answers.
-/

namespace ReplDriver.Completion

open Terminal
open Text (isBlank)

/-! ## Answers to a probe -/

/-- What a tab is answered with: nothing, a line that the input line is completed to, or a listing
with the prompt after it. -/
inductive TabAnswer
  | nothing
  | line (shown : Text)
  | listing

/-- The prompt is drawn at the end of a text, perhaps with something on the input line. -/
def EndsInPrompt (prompt s : Text) : Prop :=
  ∃ before input move : Text, s = before ++ (promptLead ++ prompt ++ (input ++ move)) ∧
    '\n' ∉ input ∧ ColumnMove move []

/-- The texts that are printed for an answer. -/
def TabAnswer.Shows (prompt : Text) : TabAnswer → Text → Prop
  | .nothing, s => s = []
  | .line shown, s => lastLineOf s = shown ∧ shown ≠ [] ∧ ¬ DrawsPrompt prompt shown
  | .listing, s => EndsInPrompt prompt s

/-- A REPL answers the texts that are typed for a probe, each by printing. A line that the first tab
completes goes on where the probe stops. -/
structure Probed (rules : ReplyRules) (text : Text) (d : Desk) (first second : TabAnswer) :
    Prop where
  onFirst : ∃ events, Desk.Prints rules d [] (.probe (text ++ tab)) events ∧
    first.Shows rules.prompt (printed events)
  extends_probe : ∀ shown, first = .line shown → text <+: shown
  onSecond : ∃ events, Desk.Prints rules d [text ++ tab] (.exchange tab false) events ∧
    second.Shows rules.prompt (printed events)
  onClear : ∃ events, Desk.Prints rules d [text ++ tab, tab] (.exchange lineClear false) events ∧
    EndsInPrompt rules.prompt (printed events)

/-! ## Lines that end a wait -/

variable {prompt s : Text}

/-- A prompt of one line that a text ends in is drawn on its last line. -/
theorem EndsInPrompt.drawsPrompt (h : EndsInPrompt prompt s) (hprompt : '\n' ∉ prompt) :
    DrawsPrompt prompt (lastLineOf s) := by
  obtain ⟨before, input, move, rfl, hinput, hmove⟩ := h
  have hline : '\n' ∉ prompt ++ input := by simp [hprompt, hinput]
  have hdrawn := drawsPrompt_lastLineOf hline before hmove
  rw [← List.append_assoc promptLead, List.append_assoc (promptLead ++ prompt)] at hdrawn
  -- what is on the input line counts as part of the prompt there
  obtain ⟨start, rest, hlast, input', move', after, rfl, hinput', hmove'⟩ := hdrawn
  refine ⟨start, _, hlast, input ++ input', move', after, ?_, by simp [hinput, hinput'], hmove'⟩
  simp

/-- The last line of a text that ends in a prompt ends in the letter of a control sequence. -/
theorem EndsInPrompt.lastLineOf (h : EndsInPrompt prompt s) :
    ∃ start, Terminal.lastLineOf s = start ++ ['G'] := by
  obtain ⟨before, input, move, rfl, -, digits, -, hdigits, rfl⟩ := h
  have hdecimal : Text.isDecimal '\n' = false := by decide +kernel
  have hline : '\n' ∉ '\x1b' :: '[' :: digits := by
    have hfeed : '\n' ∉ digits := fun h => Bool.false_ne_true (hdecimal.symm.trans (hdigits _ h))
    simp [hfeed]
  obtain ⟨start, hlast⟩ :=
    lastLineOf_move (before ++ (promptLead ++ prompt ++ input)) hline
  refine ⟨start ++ '\x1b' :: '[' :: digits, ?_⟩
  rw [List.append_assoc start, ← hlast]
  simp

/-- A probe that begins with no blank is sent as it is, up to blanks at its end. -/
theorem trim_append_tab {c : Char} {r : Text} (hc : isBlank c = false) :
    Text.trim (c :: r ++ tab) ≠ [] ∧ Text.trim (c :: r ++ tab) <+: c :: r := by
  have htrim : Text.trim (c :: r ++ tab) = Text.dropRightWhile isBlank (c :: r) := by
    have hleft : Text.trimLeft (c :: r ++ tab) = c :: r ++ tab :=
      Text.dropWhile_stops (.cons hc _)
    rw [Text.trim, hleft, Text.trimRight, Text.dropRightWhile, List.reverse_append]
    show (List.dropWhile isBlank ('\t' :: (c :: r).reverse)).reverse = _
    rw [List.dropWhile_cons_of_pos (by decide)]
    rfl
  have hparts := Text.dropRightWhile_append_takeRightWhile isBlank (c :: r)
  rw [htrim]
  refine ⟨fun hempty => ?_, ⟨_, hparts⟩⟩
  rw [hempty, List.nil_append] at hparts
  have hblank : isBlank c = true :=
    Text.mem_takeRightWhile (s := c :: r) (by rw [hparts]; exact List.mem_cons_self)
  rw [hc] at hblank
  cases hblank

/-- A line that goes on where the probe stops ends the first wait exactly if the probe begins with a
character that is not blank. -/
theorem line_ends_iff {text shown : Text} (hextends : text <+: shown) (hne : shown ≠ [])
    (hdrawn : ¬ DrawsPrompt prompt shown) :
    Call.Ends prompt (.probe (text ++ tab)) shown ↔
      ∃ c, text.head? = some c ∧ isBlank c = false := by
  have htrimmed := Text.trimmed_trim (text ++ tab)
  constructor
  · intro hends
    -- what is sent begins with no blank, and as the line does
    have hsame : (Text.trim (text ++ tab)).head? = shown.head? ∧ text ≠ [] := by
      have hempty : text = [] → Text.trim (text ++ tab) = [] := by
        rintro rfl
        decide
      rcases hends with hdraws | ⟨rest, hrest⟩ | ⟨hsent, rest, hrest⟩
      · exact absurd hdraws hdrawn
      · obtain ⟨c, r, rfl⟩ := List.exists_cons_of_ne_nil hne
        rw [← hrest]
        refine ⟨rfl, fun htext => ?_⟩
        rw [hempty htext] at hrest
        cases hrest
      · obtain ⟨c, r, hcr⟩ := List.exists_cons_of_ne_nil hsent
        rw [← hrest, hcr]
        exact ⟨rfl, fun htext => hsent (hempty htext)⟩
    obtain ⟨c, r, rfl⟩ := List.exists_cons_of_ne_nil hsame.2
    obtain ⟨rest, rfl⟩ := hextends
    exact ⟨c, rfl, htrimmed.1 c hsame.1⟩
  · rintro ⟨c, hhead, hc⟩
    cases text with
    | nil => cases hhead
    | cons d r =>
      cases hhead
      obtain ⟨hsent, hprefix⟩ := trim_append_tab (r := r) hc
      exact .inr (.inr ⟨hsent, hprefix.trans hextends⟩)

section Probed

variable {rules : ReplyRules} {text : Text} {d : Desk} {first second : TabAnswer}

/-- Whether the first wait ends with an answer: a line must go on from a probe that begins with no
blank. -/
def TabAnswer.EndsFirst (text : Text) : TabAnswer → Prop
  | .line _ => ∃ c, text.head? = some c ∧ isBlank c = false
  | _ => True

theorem TabAnswer.Shows.first_ends {answer : TabAnswer} (h : answer.Shows prompt s)
    (hextends : ∀ shown, answer = .line shown → text <+: shown) (hprompt : '\n' ∉ prompt) :
    Call.Ends prompt (.probe (text ++ tab)) (lastLineOf s) ↔ answer.EndsFirst text := by
  cases answer with
  | nothing =>
    obtain rfl : s = [] := h
    exact iff_of_true (.inr (.inl List.nil_prefix)) trivial
  | line shown =>
    obtain ⟨rfl, hne, hdrawn⟩ := h
    exact line_ends_iff (hextends _ rfl) hne hdrawn
  | listing => exact iff_of_true (.inl (EndsInPrompt.drawsPrompt h hprompt)) trivial

/-- The second wait ends with an answer unless that is a line. -/
theorem TabAnswer.Shows.second_ends {answer : TabAnswer} (h : answer.Shows prompt s)
    (hprompt : '\n' ∉ prompt) :
    Call.Ends prompt (.exchange tab false) (lastLineOf s) ↔ ∀ shown, answer ≠ .line shown := by
  cases answer with
  | nothing =>
    obtain rfl : s = [] := h
    exact iff_of_true (.inr List.nil_prefix) nofun
  | line shown =>
    obtain ⟨rfl, hne, hdrawn⟩ := h
    refine iff_of_false ?_ fun hother => hother _ rfl
    rintro (hdraws | hprefix)
    · exact hdrawn hdraws
    · exact hne (List.prefix_nil.mp hprefix)
  | listing => exact iff_of_true (.inl (EndsInPrompt.drawsPrompt h hprompt)) nofun

/-- The third wait ends exactly with a prompt of one line. -/
theorem EndsInPrompt.third_ends (h : EndsInPrompt prompt s) :
    Call.Ends prompt (.exchange lineClear false) (Terminal.lastLineOf s) ↔ '\n' ∉ prompt := by
  constructor
  · rintro (hdraws | ⟨rest, hprefix⟩) hprompt
    · exact not_drawsPrompt hprompt (not_mem_lastLineOf s) hdraws
    · obtain ⟨start, hlast⟩ := h.lastLineOf
      have hletter : 'G' ∈ Text.trim lineClear := by
        rw [← hprefix, hlast]
        simp
      exact absurd hletter (by decide)
  · exact fun hprompt => .inl (h.drawsPrompt hprompt)

/-- The three waits of a probe end exactly if the prompt is one line, a line that the first tab
completes goes on from no blank, and the second tab completes none. -/
theorem TabAnswer.Shows.end_iff {s₁ s₂ s₃ : Text} (h₁ : first.Shows prompt s₁)
    (hextends : ∀ shown, first = .line shown → text <+: shown) (h₂ : second.Shows prompt s₂)
    (h₃ : EndsInPrompt prompt s₃) :
    Call.Ends prompt (.probe (text ++ tab)) (lastLineOf s₁) ∧
        Call.Ends prompt (.exchange tab false) (lastLineOf s₂) ∧
        Call.Ends prompt (.exchange lineClear false) (lastLineOf s₃) ↔
      '\n' ∉ prompt ∧ first.EndsFirst text ∧ ∀ shown, second ≠ .line shown := by
  rw [h₃.third_ends]
  constructor
  · rintro ⟨hfirst, hsecond, hprompt⟩
    exact ⟨hprompt, (h₁.first_ends hextends hprompt).mp hfirst,
      (h₂.second_ends hprompt).mp hsecond⟩
  · rintro ⟨hprompt, hfirst, hsecond⟩
    exact ⟨(h₁.first_ends hextends hprompt).mpr hfirst, (h₂.second_ends hprompt).mpr hsecond,
      hprompt⟩

/-! ## Probes and completions -/

/-- A probe at a silent desk is answered if its three waits end; otherwise it never returns. -/
theorem probe_ends (hsilent : d.Silent) (hunits : 0 < rules.interval.units)
    (h : Probed rules text d first second) :
    ('\n' ∉ rules.prompt ∧ first.EndsFirst text ∧ (∀ shown, second ≠ .line shown) →
      ∃ reply, Answers rules text reply d) ∧
    (¬ ('\n' ∉ rules.prompt ∧ first.EndsFirst text ∧ ∀ shown, second ≠ .line shown) →
      (probe rules text d).1 = .error .blocked) := by
  obtain ⟨events₁, hprints₁, hshows₁⟩ := h.onFirst
  obtain ⟨events₂, hprints₂, hshows₂⟩ := h.onSecond
  obtain ⟨events₃, hprints₃, hshows₃⟩ := h.onClear
  rw [← hshows₁.end_iff h.extends_probe hshows₂ hshows₃]
  simp only [Answers, probe_eq]
  have htext : (Call.probe (text ++ tab)).text ≠ [] :=
    List.append_ne_nil_of_right_ne_nil _ (by decide)
  obtain ⟨hends₁, hblocked₁⟩ := hsilent.run hunits hprints₁ htext
  by_cases h₁ : Call.Ends rules.prompt (.probe (text ++ tab)) (lastLineOf (printed events₁))
  · obtain ⟨d₁, hcall₁, hsilent₁⟩ := hends₁ h₁
    obtain ⟨hends₂, hblocked₂⟩ := hsilent₁.run hunits hprints₂ (List.cons_ne_nil _ _)
    by_cases h₂ : Call.Ends rules.prompt (.exchange tab false) (lastLineOf (printed events₂))
    · obtain ⟨d₂, hcall₂, hsilent₂⟩ := hends₂ h₂
      obtain ⟨hends₃, hblocked₃⟩ := hsilent₂.run hunits hprints₃ (List.cons_ne_nil _ _)
      rw [Op.bind_ok hcall₁, Op.bind_ok hcall₂]
      by_cases h₃ : Call.Ends rules.prompt (.exchange lineClear false)
          (lastLineOf (printed events₃))
      · obtain ⟨d₃, hcall₃, -⟩ := hends₃ h₃
        rw [Op.bind_ok hcall₃]
        exact ⟨fun _ => ⟨_, rfl⟩, fun hnot => absurd ⟨h₁, h₂, h₃⟩ hnot⟩
      · refine ⟨fun hall => absurd hall.2.2 h₃, fun _ => ?_⟩
        rw [Op.bind_error (Prod.ext (hblocked₃ h₃) rfl)]
    · refine ⟨fun hall => absurd hall.2.1 h₂, fun _ => ?_⟩
      rw [Op.bind_ok hcall₁, Op.bind_error (Prod.ext (hblocked₂ h₂) rfl)]
  · refine ⟨fun hall => absurd hall.1 h₁, fun _ => ?_⟩
    rw [Op.bind_error (Prod.ext (hblocked₁ h₁) rfl)]

variable {token : Text} {inModulePath : Bool}

/-- A completion at a silent desk, before a REPL that answers its probe in any of these ways. It
returns exactly if the cache answers or the three waits end: the prompt is one line, the first tab
completes a line only from a probe that begins with no blank, and the second tab completes none.
Otherwise it waits for ever. -/
theorem complete_ends_iff (hsilent : d.Silent) (hunits : 0 < rules.interval.units)
    (h : Probed rules (probeText token inModulePath) d first second) :
    let text := probeText token inModulePath
    let outcome := (complete rules token inModulePath d).1
    ((∃ found, outcome = .ok found) ↔ (∃ found, d.session.cache.lookup? text = some found) ∨
      '\n' ∉ rules.prompt ∧ first.EndsFirst text ∧ ∀ shown, second ≠ .line shown) ∧
    ((∃ found, outcome = .ok found) ∨ outcome = .error .blocked) := by
  intro text outcome
  obtain ⟨hends, hblocks⟩ := probe_ends hsilent hunits h
  rcases hlookup : d.session.cache.lookup? text with _ | found
  · by_cases hall : '\n' ∉ rules.prompt ∧ first.EndsFirst text ∧ ∀ shown, second ≠ .line shown
    · obtain ⟨reply, hreply⟩ := hends hall
      obtain ⟨d', hsent⟩ := complete_sent hlookup hreply
      have hok : ∃ found, outcome = .ok found := ⟨_, congrArg Prod.fst hsent⟩
      exact ⟨iff_of_true hok (.inr hall), .inl hok⟩
    · have hblocked : outcome = .error .blocked :=
        (complete_missed rules hlookup).2.2 _ (hblocks hall)
      rw [hblocked]
      exact ⟨iff_of_false nofun (not_or_intro nofun hall), .inr rfl⟩
  · have hok : ∃ found, outcome = .ok found :=
      ⟨found, congrArg Prod.fst (complete_recalled hlookup)⟩
    exact ⟨iff_of_true hok (.inl ⟨found, rfl⟩), .inl hok⟩

end Probed

/-- A REPL that completes the input line in place at both tabs. Behind the echo of what was typed it
takes a moment for what it adds. -/
def inPlaceDesk : Desk where
  session := .start "javascript" "node" (.start ⟨[], none, none⟩ (.scripted "> " [] []
    [("par\t", .ok [.output "par", .delayed (.finite (mkRat 1 50)) "se"]),
      ("\t", .ok [.output "Int"])]))
  clock := .zero .exact
  notes := []

/-- The token is completed at the first tab and what is left of the name at the second one, and the
completion never returns. -/
theorem complete_ends_iff_inPlace :
    let rules : ReplyRules := ⟨"> ", (Settings.default []).pollInterval⟩
    inPlaceDesk.Silent ∧ 0 < rules.interval.units ∧
      Probed rules (probeText "par" false) inPlaceDesk (.line "parse") (.line "Int") ∧
      (complete rules "par" false inPlaceDesk).1 = .error .blocked := by
  intro rules
  have hsilent : inPlaceDesk.Silent := ⟨rfl, rfl, rfl, rfl, rfl, rfl⟩
  have hunits : 0 < rules.interval.units := by decide +kernel
  have hprints {texts : List Text} {call : Call} {s : Text} (hs : s ≠ [])
      (hrespond : inPlaceDesk.session.process.behaviour.respond (inPlaceDesk.written ++ texts)
        call.text = .ok [.output s]) : Desk.Prints rules inPlaceDesk texts call [.output s] := by
    refine ⟨hrespond, by simp [Event.Prints], ?_, fun h => absurd hs h, trivial⟩
    rintro e he
    cases he
    exact hs
  -- the echo would end the first wait, but the moment behind it is shorter than the interval
  have hfirst : Desk.Prints rules inPlaceDesk [] (.probe ("par".toList ++ tab))
      [.output "par", .delayed (.finite (mkRat 1 50)) "se"] := by
    have hmoment : rules.interval.lt (.finite (mkRat 1 50)) = false := by decide +kernel
    refine ⟨rfl, ?_, ?_, fun h => absurd nofun h, fun h => absurd ⟨nofun, hmoment⟩ h, trivial⟩
    · intro e he
      simp only [List.mem_cons, List.not_mem_nil, or_false] at he
      rcases he with rfl | rfl
      · trivial
      · exact ⟨rfl, mkRat 1 50, rfl⟩
    · intro e he
      cases he
      exact nofun
  have hline {shown : Text} (hnot : hasPrompt "> " shown = false) : ¬ DrawsPrompt "> " shown :=
    fun h => Bool.false_ne_true (hnot.symm.trans (hasPrompt_iff.mpr h))
  have hmove : ColumnMove "\x1b[3G" [] := by
    refine ⟨"3", by decide, ?_, rfl⟩
    intro c hc
    rw [List.mem_singleton.mp hc]
    decide +kernel
  have hprobed : Probed rules (probeText "par" false) inPlaceDesk (.line "parse") (.line "Int") := {
    onFirst := ⟨_, hfirst, by decide +kernel, by decide, hline (by decide +kernel)⟩
    extends_probe := by
      rintro shown heq
      cases heq
      decide
    onSecond := ⟨_, hprints (s := "Int") (by decide) rfl, by decide +kernel, by decide,
      hline (by decide +kernel)⟩
    onClear := ⟨_, hprints (s := drawPrompt "> ") (by decide) rfl, [], [], _, rfl, nofun, hmove⟩ }
  obtain ⟨hiff, hor⟩ := complete_ends_iff hsilent hunits hprobed
  refine ⟨hsilent, hunits, hprobed, hor.resolve_left fun hok => ?_⟩
  obtain ⟨found, hfound⟩ | ⟨-, -, hsecond⟩ := hiff.mp hok
  · cases hfound
  · exact hsecond _ rfl

end ReplDriver.Completion
