import ReplDriver.Proofs.Text.Characters
import ReplDriver.Terminal.Prompt

/-!
# Texts without their control sequences

Control sequences are taken away from left to right. A text that is put together from parts loses
those of its parts, where no sequence goes on from one part to the next.

* `stripControl_sequence`: a sequence is taken away whole.
* `stripControl_append`, `stripControl_append_end`: nothing goes on from a text without the escape
  character, and nothing goes on over a line end.
* `stripControl_prompt`: what is left of a drawn prompt.
-/

namespace ReplDriver.Terminal

/-- A control sequence is taken away whole. -/
theorem stripControl_sequence {parameters : Text} {letter : Char}
    (hparameters : ∀ c ∈ parameters, isParameter c = true) (hletter : letter.isAlpha = true)
    (hstop : isParameter letter = false) (rest : Text) :
    stripControl ('\x1b' :: '[' :: (parameters ++ letter :: rest)) = stripControl rest := by
  have hdrop : (parameters ++ letter :: rest).dropWhile isParameter = letter :: rest :=
    Text.dropWhile_run hparameters (.cons hstop rest)
  have hsequence : sequence? ('\x1b' :: '[' :: (parameters ++ letter :: rest)) = some rest := by
    simp [sequence?, hdrop, hletter]
  rw [stripControl]
  split
  · next h => rw [Option.some.inj (hsequence.symm.trans h)]
  · next h => cases hsequence.symm.trans h

theorem stripControl_append {s : Text} (h : '\x1b' ∉ s) (t : Text) :
    stripControl (s ++ t) = s ++ stripControl t := by
  induction s with
  | nil => rfl
  | cons c s ih =>
    rw [List.cons_append, stripControl_cons (Ne.symm (List.ne_of_not_mem_cons h)),
      ih (List.not_mem_of_not_mem_cons h), List.cons_append]

theorem suffix_of_sequence? {s rest : Text} (h : sequence? s = some rest) : rest <:+ s := by
  unfold sequence? at h
  split at h
  · next r =>
    split at h
    · next letter after hdrop =>
      split at h
      · cases h
        have hrest : letter :: rest <:+ r := hdrop ▸ List.dropWhile_suffix isParameter
        exact (List.suffix_cons letter rest).trans
          (hrest.trans ((List.suffix_cons _ r).trans (List.suffix_cons _ _)))
      · cases h
    · cases h
  · cases h

/-- Nothing is added when control sequences are taken away. -/
theorem stripControl_subset (s : Text) : stripControl s ⊆ s := by
  fun_induction stripControl s with
  | case1 s rest hrest ih => exact List.Subset.trans ih (suffix_of_sequence? hrest).subset
  | case2 => exact List.Subset.refl _
  | case3 c r _ ih => exact List.cons_subset_cons c ih

/-- A text ends a line: it is empty or begins with a carriage return or a line feed. -/
def EndsLine (s : Text) : Prop := ∀ c, s.head? = some c → c = '\r' ∨ c = '\n'

theorem EndsLine.nil : EndsLine [] := nofun

theorem EndsLine.cons {c : Char} (h : c = '\r' ∨ c = '\n') (s : Text) : EndsLine (c :: s) := by
  rintro d hd
  cases hd
  exact h

theorem EndsLine.head {c : Char} {s : Text} (h : EndsLine (c :: s)) :
    c.isAlpha = false ∧ isParameter c = false ∧ c ≠ '[' ∧ c ≠ '\x1b' := by
  rcases h c rfl with rfl | rfl <;> decide

theorem sequence?_escape {c : Char} (h : c ≠ '[') (s : Text) :
    sequence? ('\x1b' :: c :: s) = none := by
  rw [sequence?.eq_def]
  split
  · next heq => exact absurd (List.cons.inj (List.cons.inj heq).2).1 h
  · rfl

/-- No control sequence goes on over a line end. -/
theorem sequence?_append_end {t : Text} (ht : EndsLine t) (s : Text) :
    sequence? (s ++ t) = (sequence? s).map (· ++ t) := by
  cases t with
  | nil => cases h : sequence? s <;> simp [h]
  | cons e t =>
    obtain ⟨hletter, hparameter, hbracket, hescape⟩ := ht.head
    cases s with
    | nil => exact sequence?_cons hescape
    | cons c s =>
      by_cases hc : c = '\x1b'
      · subst hc
        cases s with
        | nil => exact sequence?_escape hbracket t
        | cons d s =>
          by_cases hd : d = '['
          · subst hd
            simp only [List.cons_append, sequence?, List.dropWhile_append]
            rcases s.dropWhile isParameter with _ | ⟨letter, rest⟩
            · simp [hparameter, hletter]
            · cases hfinal : letter.isAlpha <;> simp [hfinal]
          · rw [List.cons_append, List.cons_append, sequence?_escape hd, sequence?_escape hd]
            rfl
      · rw [List.cons_append, sequence?_cons hc, sequence?_cons hc]
        rfl

/-- Nothing is taken away over a line end. -/
theorem stripControl_append_end {t : Text} (ht : EndsLine t) (s : Text) :
    stripControl (s ++ t) = stripControl s ++ stripControl t := by
  fun_induction stripControl s with
  | case1 s rest hrest ih =>
    rw [← ih, stripControl]
    have happend := sequence?_append_end ht s
    rw [hrest, Option.map_some] at happend
    split
    · next h => rw [Option.some.inj (happend.symm.trans h)]
    · next h => cases happend.symm.trans h
  | case2 hnone => rfl
  | case3 c r hnone ih =>
    rw [List.cons_append, List.cons_append, ← ih, stripControl]
    have happend := sequence?_append_end ht (c :: r)
    rw [hnone, Option.map_none] at happend
    split
    · next h => cases happend.symm.trans h
    · rfl

/-- A drawn prompt is only the prompt without control sequences. -/
theorem stripControl_prompt {prompt : Text} (h : '\x1b' ∉ prompt) (column : Nat) :
    stripControl (promptLead ++ prompt ++ '\x1b' :: '[' :: (Text.ofNat column ++ ['G'])) =
      prompt := by
  have hdigits : ∀ c ∈ Text.ofNat column, isParameter c = true := by
    intro c hc
    simp [isParameter, Nat.isDigit_of_mem_toDigits (by decide) (by decide) hc]
  have hlead (rest : Text) : stripControl (promptLead ++ rest) = stripControl rest := by
    have hcolumn := @stripControl_sequence ['1'] 'G' (by simp [isParameter]) (by decide) (by decide)
    have herase := @stripControl_sequence ['0'] 'J' (by simp [isParameter]) (by decide) (by decide)
    exact (hcolumn ('\x1b' :: '[' :: '0' :: 'J' :: rest)).trans (herase rest)
  have hmove := @stripControl_sequence _ 'G' hdigits (by decide) (by decide) []
  rw [List.append_assoc, hlead, stripControl_append h, hmove, stripControl_nil, List.append_nil]

end ReplDriver.Terminal
