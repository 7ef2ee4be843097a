import ReplDriver.Completion.Candidates
import ReplDriver.Proofs.Terminal.Sequences
import ReplDriver.Proofs.Text.Cutting

/-!
# Replies without previews

A preview may be drawn under any line of a reply. It is taken away with the line end before it, so
that what comes after it goes on directly behind the line. It is the line end after the line, and
not the one that the preview begins with, that separates the line from the next.

* `Preview`: a preview as the REPL draws it.
* `removePreviews_line`: of a line under which previews are drawn, the line is left.
* `shownText_line`: what a reply shows of its first line, and of what comes after it.
-/

namespace ReplDriver.Completion

open Terminal (stripControl EndsLine)

/-! ## Previews -/

/-- A preview of a result: a dimmed line under the input, from which the cursor goes back to a
column, perhaps, and up. -/
structure Preview where
  /-- The carriage returns before the line feed. -/
  returns : Text
  content : Text
  column : Option Text
  /-- By how many lines the cursor goes up. -/
  rise : Text
  returns_all : ∀ c ∈ returns, c = '\r'
  content_plain : '\n' ∉ content ∧ '\x1b' ∉ content
  column_digits : ∀ digits ∈ column, digits ≠ [] ∧ ∀ c ∈ digits, Text.isDecimal c = true
  rise_digits : ∀ c ∈ rise, Text.isDecimal c = true

namespace Preview

/-- The way back: to the column, if there is one, and up. -/
def moves (p : Preview) : Text :=
  (p.column.elim [] fun digits => '\x1b' :: '[' :: (digits ++ ['G'])) ++
    '\x1b' :: '[' :: (p.rise ++ ['A'])

/-- A preview as it is drawn. -/
def text (p : Preview) : Text :=
  p.returns ++ "\n\x1b[90m" ++ p.content ++ "\x1b[39m" ++ p.moves

end Preview

/-! ### Reading a preview -/

theorem cursorUp?_digits {digits : Text} (h : ∀ c ∈ digits, Text.isDecimal c = true) (rest : Text) :
    Terminal.cursorUp? ('\x1b' :: '[' :: (digits ++ 'A' :: rest)) = some rest := by
  have hdrop := Text.dropWhile_run h (.cons (c := 'A') (by decide +kernel) rest)
  simp [Terminal.cursorUp?, hdrop]

theorem columnMove?_digits {digits : Text} (hne : digits ≠ [])
    (h : ∀ c ∈ digits, Text.isDecimal c = true) (rest : Text) :
    Terminal.columnMove? ('\x1b' :: '[' :: (digits ++ 'G' :: rest)) = some rest := by
  obtain ⟨c, r, rfl⟩ := List.exists_cons_of_ne_nil hne
  have hdrop := Text.dropWhile_run (fun d hd => h d (List.mem_cons_of_mem c hd))
    (.cons (c := 'G') (by decide +kernel) rest)
  simp [Terminal.columnMove?, h c List.mem_cons_self, hdrop]

/-- A move upwards is no move to a column. -/
theorem columnMove?_rise {digits : Text} (h : ∀ c ∈ digits, Text.isDecimal c = true)
    (rest : Text) : Terminal.columnMove? ('\x1b' :: '[' :: (digits ++ 'A' :: rest)) = none := by
  have hletter : Text.isDecimal 'A' = false := by decide +kernel
  cases digits with
  | nil => simp [Terminal.columnMove?, hletter]
  | cons c r =>
    have hdrop := Text.dropWhile_run (fun d hd => h d (List.mem_cons_of_mem c hd))
      (.cons hletter rest)
    simp [Terminal.columnMove?, hdrop]

theorem previewEnd?_moves (p : Preview) (rest : Text) :
    previewEnd? ("\x1b[39m" ++ (p.moves ++ rest)) = some rest := by
  have hcolour : Text.after? "\x1b[39m" ("\x1b[39m" ++ (p.moves ++ rest)) =
      some (p.moves ++ rest) := Text.after?_eq_some.mpr rfl
  have hrise := cursorUp?_digits p.rise_digits rest
  rw [previewEnd?, hcolour]
  simp only [Option.bind_eq_bind, Option.bind_some]
  cases hcolumn : p.column with
  | none =>
    have hmoves : p.moves ++ rest = '\x1b' :: '[' :: (p.rise ++ 'A' :: rest) := by
      simp [Preview.moves, hcolumn]
    rw [hmoves, columnMove?_rise p.rise_digits]
    exact hrise
  | some digits =>
    obtain ⟨hne, hdigits⟩ := p.column_digits digits hcolumn
    have hmoves : p.moves ++ rest = '\x1b' :: '[' ::
        (digits ++ 'G' :: '\x1b' :: '[' :: (p.rise ++ 'A' :: rest)) := by
      simp [Preview.moves, hcolumn]
    rw [hmoves, columnMove?_digits hne hdigits]
    exact hrise

/-- What is dimmed is passed over up to the way back. -/
theorem afterPreview?_content {content : Text} (hfeed : '\n' ∉ content) (hescape : '\x1b' ∉ content)
    (p : Preview) (rest : Text) :
    afterPreview? (content ++ ("\x1b[39m" ++ (p.moves ++ rest))) = some rest := by
  induction content with
  | nil => rw [List.nil_append, afterPreview?.eq_def, previewEnd?_moves]
  | cons c r ih =>
    have hnone (s : Text) : previewEnd? (c :: s) = none := by
      have hcolour : Text.after? "\x1b[39m" (c :: s) = none := by
        rw [show ("\x1b[39m" : Text) = '\x1b' :: "[39m" by decide, Text.after?]
        exact if_neg (by simpa using List.ne_of_not_mem_cons hescape)
      rw [previewEnd?, hcolour]
      rfl
    rw [List.cons_append, afterPreview?.eq_def, hnone]
    simp only
    rw [if_neg (by simpa using Ne.symm (List.ne_of_not_mem_cons hfeed))]
    exact ih (List.not_mem_of_not_mem_cons hfeed) (List.not_mem_of_not_mem_cons hescape)

/-- A preview is known behind any carriage returns. -/
theorem preview?_text {returns : Text} (h : ∀ c ∈ returns, c = '\r') (p : Preview) (rest : Text) :
    preview? (returns ++ (p.text ++ rest)) = some rest := by
  have hreturns : ∀ c ∈ returns ++ p.returns, (c == '\r') = true := by
    intro c hc
    rcases List.mem_append.mp hc with hc | hc
    · exact beq_iff_eq.mpr (h c hc)
    · exact beq_iff_eq.mpr (p.returns_all c hc)
  have htext : returns ++ (p.text ++ rest) = (returns ++ p.returns) ++
      ("\n\x1b[90m" ++ (p.content ++ ("\x1b[39m" ++ (p.moves ++ rest)))) := by
    simp [Preview.text]
  have hstop (s : Text) : Text.StopsAt (· == '\r') ("\n\x1b[90m" ++ s) := by
    rw [show ("\n\x1b[90m" : Text) = '\n' :: "\x1b[90m" by decide]
    exact .cons (by decide) _
  rw [htext, preview?, Text.dropWhile_run hreturns (hstop _), Text.after?_eq_some.mpr rfl]
  exact afterPreview?_content p.content_plain.1 p.content_plain.2 p rest

/-! ### Taking previews away -/

/-- A text begins with the colour of previews. -/
def Dimmed (s : Text) : Prop := ("\x1b[90m" : Text) <+: s

/-- No preview begins here, or behind carriage returns that stand here. -/
def NoPreview (s : Text) : Prop := ¬ ("\n\x1b[90m" : Text) <+: s.dropWhile (· == '\r')

section

variable {s t u text : Text}

theorem NoPreview.preview?_eq_none (h : NoPreview s) : preview? s = none := by
  rw [preview?]
  cases hafter : Text.after? "\n\x1b[90m" (s.dropWhile (· == '\r')) with
  | none => rfl
  | some r => exact absurd ⟨r, (Text.after?_eq_some.mp hafter).symm⟩ h

theorem noPreview_nil : NoPreview [] := by
  rw [NoPreview, List.dropWhile_nil, List.prefix_nil]
  decide

theorem noPreview_cons {c : Char} (hreturn : c ≠ '\r') (hfeed : c ≠ '\n') (s : Text) :
    NoPreview (c :: s) := by
  rw [NoPreview, List.dropWhile_cons_of_neg (by simpa using hreturn),
    show ("\n\x1b[90m" : Text) = '\n' :: "\x1b[90m" by decide, List.cons_prefix_cons]
  exact fun h => hfeed h.1.symm

theorem noPreview_return : NoPreview ('\r' :: s) ↔ NoPreview s := by
  rw [NoPreview, List.dropWhile_cons_of_pos (by decide), NoPreview]

/-- A line end is no preview unless what comes after it is dimmed. -/
theorem noPreview_feed {returns : Text} (hreturns : ∀ c ∈ returns, c = '\r')
    (h : ¬ Dimmed s) : NoPreview (returns ++ '\n' :: s) := by
  rw [NoPreview, Text.dropWhile_run (by simpa using hreturns) (.cons (by decide) s),
    show ("\n\x1b[90m" : Text) = '\n' :: "\x1b[90m" by decide, List.cons_prefix_cons]
  exact fun hprefix => h hprefix.2

/-- No preview begins on a line where none begins at its end. -/
theorem NoPreview.append (h : NoPreview t) (hfeed : '\n' ∉ u) : NoPreview (u ++ t) := by
  induction u with
  | nil => exact h
  | cons c r ih =>
    by_cases hc : c = '\r'
    · subst hc
      exact noPreview_return.mpr (ih (List.not_mem_of_not_mem_cons hfeed))
    · exact noPreview_cons hc (Ne.symm (List.ne_of_not_mem_cons hfeed)) _

/-- No preview begins on a line whose end is not a carriage return, whatever comes after it. -/
theorem noPreview_of_getLast? (hne : u ≠ []) (hfeed : '\n' ∉ u) (hlast : u.getLast? ≠ some '\r')
    (t : Text) : NoPreview (u ++ t) := by
  obtain ⟨before, c, rfl⟩ := (List.eq_nil_or_concat u).resolve_left hne
  rw [List.concat_eq_append] at hfeed hlast ⊢
  rw [List.getLast?_concat] at hlast
  rw [List.append_assoc]
  refine (noPreview_cons (by simpa using hlast) (fun hc => ?_) t).append fun hmem => ?_
  · exact hfeed (hc ▸ List.mem_append_right _ (List.mem_singleton_self c))
  · exact hfeed (List.mem_append_left _ hmem)

@[simp] theorem removePreviews_nil : removePreviews [] = [] := by
  rw [removePreviews]
  split
  · next h => cases noPreview_nil.preview?_eq_none.symm.trans h
  · rfl

theorem removePreviews_of_some (h : preview? s = some t) : removePreviews s = removePreviews t := by
  rw [removePreviews]
  split
  · next h' => rw [Option.some.inj (h.symm.trans h')]
  · next h' => cases h.symm.trans h'

theorem removePreviews_cons {c : Char} (h : NoPreview (c :: s)) :
    removePreviews (c :: s) = c :: removePreviews s := by
  rw [removePreviews]
  split
  · next h' => cases h.preview?_eq_none.symm.trans h'
  · rfl

/-- A text stays in which no preview begins. -/
theorem removePreviews_append (h : ∀ v, v ≠ [] → v <:+ u → NoPreview (v ++ t)) :
    removePreviews (u ++ t) = u ++ removePreviews t := by
  induction u with
  | nil => rfl
  | cons c r ih =>
    have hcons : NoPreview (c :: (r ++ t)) := h (c :: r) (List.cons_ne_nil c r) (List.suffix_refl _)
    rw [List.cons_append, removePreviews_cons hcons,
      ih fun v hne hv => h v hne (hv.trans (List.suffix_cons c r)), List.cons_append]

theorem removePreviews_previews (previews : List Preview) (t : Text) :
    removePreviews (previews.flatMap Preview.text ++ t) = removePreviews t := by
  induction previews with
  | nil => rfl
  | cons p previews ih =>
    have hpreview := preview?_text (List.forall_mem_nil _) p (previews.flatMap Preview.text ++ t)
    rw [List.flatMap_cons, List.append_assoc]
    exact (removePreviews_of_some hpreview).trans ih

/-- Of a line under which previews are drawn the line is left, perhaps without the carriage returns
at its end. -/
theorem removePreviews_line (hfeed : '\n' ∉ text) (previews : List Preview) (ht : NoPreview t) :
    ∃ kept returns, text = kept ++ returns ∧ (∀ c ∈ returns, c = '\r') ∧
      removePreviews (text ++ (previews.flatMap Preview.text ++ t)) = kept ++ removePreviews t := by
  cases previews with
  | nil =>
    refine ⟨text, [], by simp, by simp, removePreviews_append fun v _ hv => ?_⟩
    exact ht.append fun hmem => hfeed (hv.subset hmem)
  | cons p previews =>
    have hline := Text.dropRightWhile_append_takeRightWhile (· == '\r') text
    have hreturns : ∀ c ∈ Text.takeRightWhile (· == '\r') text, c = '\r' :=
      fun c hc => by simpa using Text.mem_takeRightWhile hc
    have hlast : (Text.dropRightWhile (· == '\r') text).getLast? ≠ some '\r' :=
      fun hlast => absurd (Text.getLast?_dropRightWhile hlast) (by decide)
    generalize Text.dropRightWhile (· == '\r') text = kept at hline hlast
    generalize Text.takeRightWhile (· == '\r') text = returns at hline hreturns
    subst hline
    refine ⟨kept, returns, rfl, hreturns, ?_⟩
    rw [List.flatMap_cons, List.append_assoc, List.append_assoc, removePreviews_append,
      removePreviews_of_some (preview?_text hreturns p _), removePreviews_previews]
    intro v hne hv
    refine noPreview_of_getLast? hne (fun hmem => hfeed ?_) (fun hv' => hlast ?_) _
    · exact List.mem_append_left _ (hv.subset hmem)
    · obtain ⟨before, rfl⟩ := hv
      rw [List.getLast?_append, hv', Option.some_or]

theorem endsLine_returns {returns : Text} (h : ∀ c ∈ returns, c = '\r') (t : Text) :
    EndsLine (returns ++ '\n' :: t) := by
  cases returns with
  | nil => exact .cons (.inr rfl) t
  | cons c r => exact .cons (.inl (h c List.mem_cons_self)) _

theorem endsLine_previews (previews : List Preview) (h : EndsLine t) :
    EndsLine (previews.flatMap Preview.text ++ t) := by
  cases previews with
  | nil => exact h
  | cons p previews =>
    have hpreview := endsLine_returns p.returns_all
      ("\x1b[90m" ++ p.content ++ "\x1b[39m" ++ p.moves ++ previews.flatMap Preview.text ++ t)
    have hfeed : ("\n\x1b[90m" : Text) = '\n' :: "\x1b[90m" := by decide
    simpa [Preview.text, hfeed] using hpreview

/-- Where no preview begins, a text ends a line still when previews are taken away. -/
theorem endsLine_removePreviews (h : NoPreview t) (ht : EndsLine t) :
    EndsLine (removePreviews t) := by
  cases t with
  | nil => rwa [removePreviews_nil]
  | cons c t => rw [removePreviews_cons h]; exact .cons (ht c rfl) _

end

/-! ## What a reply shows -/

/-- What a line shows: neither control sequences nor carriage returns. -/
def shownLine (line : Text) : Text := Text.without '\r' (stripControl line)

/-- How a line ends: with previews under it, and with carriage returns before the line feed. -/
structure Ending where
  previews : List Preview
  returns : Text
  returns_all : ∀ c ∈ returns, c = '\r'

/-- An ending as it is written. -/
def Ending.text (ending : Ending) : Text :=
  ending.previews.flatMap Preview.text ++ (ending.returns ++ ['\n'])

section

variable {s t text returns : Text}

theorem without_returns (h : ∀ c ∈ returns, c = '\r') : Text.without '\r' returns = [] :=
  List.filter_eq_nil_iff.mpr (by simpa using h)

theorem escape_not_mem_returns (h : ∀ c ∈ returns, c = '\r') : '\x1b' ∉ returns :=
  fun hmem => absurd (h _ hmem) (by decide)

theorem shownLine_append_returns (h : ∀ c ∈ returns, c = '\r') (text : Text) :
    shownLine (text ++ returns) = shownLine text := by
  have hends : EndsLine returns := fun c hc => .inl (h c (List.mem_of_mem_head? hc))
  rw [shownLine, Terminal.stripControl_append_end hends,
    Terminal.stripControl_eq_self (escape_not_mem_returns h), Text.without_append,
    without_returns h, List.append_nil, shownLine]

@[simp] theorem shownText_nil : shownText [] = [] := by
  rw [shownText, removePreviews_nil, Terminal.stripControl_nil]
  rfl

/-- What a line shows does not depend on the previews under it. -/
theorem shownText_previews (hfeed : '\n' ∉ text) (previews : List Preview) (h : NoPreview t)
    (ht : EndsLine t) :
    shownText (text ++ (previews.flatMap Preview.text ++ t)) = shownLine text ++ shownText t := by
  obtain ⟨kept, returns, rfl, hreturns, hkept⟩ := removePreviews_line hfeed previews h
  rw [shownText, hkept, Terminal.stripControl_append_end (endsLine_removePreviews h ht),
    Text.without_append, shownLine_append_returns hreturns, shownLine, shownText]

/-- A line end shows as a line feed. -/
theorem shownText_feed (hreturns : ∀ c ∈ returns, c = '\r') (h : ¬ Dimmed s) :
    shownText (returns ++ '\n' :: s) = '\n' :: shownText s := by
  have hkept : removePreviews (returns ++ '\n' :: s) = returns ++ '\n' :: removePreviews s := by
    have hfeed : NoPreview ('\n' :: s) := noPreview_feed (List.forall_mem_nil _) h
    rw [removePreviews_append, removePreviews_cons hfeed]
    exact fun v _ hv => noPreview_feed (fun c hc => hreturns c (hv.subset hc)) h
  rw [shownText, hkept, Terminal.stripControl_append (escape_not_mem_returns hreturns),
    Terminal.stripControl_cons (by decide), Text.without_append, without_returns hreturns]
  rfl

/-- A line shows without the previews under it and without the carriage returns at its end, unless
what comes after it is dimmed. -/
theorem shownText_line (hfeed : '\n' ∉ text) (ending : Ending) (h : ¬ Dimmed s) :
    shownText (text ++ (ending.text ++ s)) = shownLine text ++ '\n' :: shownText s := by
  have hprevious := shownText_previews hfeed ending.previews (noPreview_feed ending.returns_all h)
    (endsLine_returns ending.returns_all s)
  rw [shownText_feed ending.returns_all h] at hprevious
  simpa [Ending.text] using hprevious

theorem Ending.endsLine (ending : Ending) (s : Text) : EndsLine (ending.text ++ s) := by
  have hends := endsLine_previews ending.previews (endsLine_returns ending.returns_all s)
  simpa [Ending.text] using hends

/-- Neither does a text begin with the colour of previews where a line ends within it. -/
theorem not_dimmed_append_end (hs : ¬ Dimmed s) (ht : EndsLine t) : ¬ Dimmed (s ++ t) := by
  -- what a line end would have to complete is the rest of the colour
  suffices hrest : ∀ {p s : Text}, (∀ c ∈ p, c ≠ '\r' ∧ c ≠ '\n') → p <+: s ++ t → p <+: s from
    fun h => hs (hrest (by simp) h)
  intro p s hp h
  induction s generalizing p with
  | nil =>
    cases p with
    | nil => exact List.prefix_rfl
    | cons c p =>
      obtain ⟨hreturn, hfeed⟩ := hp c List.mem_cons_self
      obtain ⟨rest, rfl⟩ : ∃ rest, c :: p ++ rest = t := h
      rcases ht c rfl with hc | hc
      · exact absurd hc hreturn
      · exact absurd hc hfeed
  | cons d s ih =>
    cases p with
    | nil => exact List.nil_prefix
    | cons c p =>
      rw [List.cons_append, List.cons_prefix_cons] at h
      rw [List.cons_prefix_cons]
      exact ⟨h.1, ih (fun e he => hp e (List.mem_cons_of_mem c he)) h.2⟩

theorem not_dimmed_of_escape_not_mem (h : '\x1b' ∉ s) : ¬ Dimmed s :=
  fun hdimmed => h (hdimmed.subset (by simp))

end

end ReplDriver.Completion
