import ReplDriver.Proofs.Expression.Cut

/-!
# What surrounds an expression

The boundary of an expression is a matter of the expression and of what stands before it. What
comes after the cursor has no part in it, nor have the blanks and the separator that the cursor may
stand behind; and once it is found, neither has what stands before it.

* `boundary_cursor`: only the text before the cursor counts, and blanks and one separator at its
  end do not.
* `boundary_slice`: the text of an expression is complete in itself: scanned again, all of it is
  found.
-/

namespace ReplDriver.Expression

open Text (isBlank isIdentChar isBlankText StopsAt)

/-! ## At the cursor -/

/-- The end of a text before its blanks. -/
theorem stopsAt_separator {t : Text} (h : (Text.trimRight t).getLast? ≠ some ';') :
    StopsAt isSeparator (skipBlanks t.reverse) := by
  intro c hc
  have hlast : (Text.trimRight t).getLast? = some c := by
    rw [Text.trimRight, Text.dropRightWhile, List.getLast?_reverse]
    exact hc
  rw [hlast] at h
  simpa [isSeparator] using h

/-- What comes after the cursor has no part in where the scan begins. -/
theorem beforeCursor_take {text : Text} {point : Nat} (h : point ≤ text.length) (other : Text) :
    beforeCursor (text.take point ++ other) point = beforeCursor text point := by
  have htake : (text.take point ++ other).take point = text.take point :=
    List.take_left' (by rw [List.length_take, Nat.min_eq_left h])
  rw [beforeCursor, beforeCursor, htake]

/-- Only the text before the cursor counts: with any other text after the cursor the boundary is
the same, or it fails in the same way. And after a text that does not end with a separator, blanks
and one separator are neutral: with the cursor behind them, too, the boundary is the same, or no
expression is found. -/
theorem boundary_cursor :
    (∀ {text : Text} {point : Nat}, point ≤ text.length → ∀ other : Text,
      boundary (text.take point ++ other) point = boundary text point) ∧
    ∀ {t w w' : Text}, (Text.trimRight t).getLast? ≠ some ';' →
      isBlankText w = true → isBlankText w' = true →
      (∃ start, boundary t t.length = .ok start ∧
        boundary (t ++ w) (t ++ w).length = .ok start ∧
        boundary (t ++ (w ++ ';' :: w')) (t ++ (w ++ ';' :: w')).length = .ok start) ∨
      (boundary t t.length = .error (.noExpression t.length) ∧
        boundary (t ++ w) (t ++ w).length = .error (.noExpression (t ++ w).length) ∧
        boundary (t ++ (w ++ ';' :: w')) (t ++ (w ++ ';' :: w')).length =
          .error (.noExpression (t ++ (w ++ ';' :: w')).length)) := by
  constructor
  · intro text point h other
    have hinside : point ≤ (text.take point ++ other).length := by
      rw [List.length_append, List.length_take]
      omega
    rw [boundary_eq hinside, boundary_eq h, beforeCursor_take h]
  · intro t w w' ht hw hw'
    have hend := stopsAt_separator ht
    -- wherever the cursor stands, the scan begins at the end of the text before its blanks
    have hscan {v : Text} (hv : Trailing v) :
        beforeCursor (t ++ v) (t ++ v).length = skipBlanks t.reverse := by
      simpa using beforeCursor_append hend hv []
    have hnone := hscan (.blanks (w := []) rfl)
    rw [List.append_nil] at hnone
    rw [boundary_eq (Nat.le_refl _), boundary_eq (Nat.le_refl _), boundary_eq (Nat.le_refl _),
      hnone, hscan (.blanks hw), hscan (.separator hw hw')]
    cases beforeExpression (skipBlanks t.reverse) with
    | some before => exact .inl ⟨before.length, rfl, rfl, rfl⟩
    | none => exact .inr ⟨rfl, rfl, rfl⟩

/-- With the cursor in `y = f(x) + g(z)` after the call of `f`, and in a text that goes on with an
open string there, the boundary is the same; so it is before blanks and a semicolon. -/
theorem boundary_cursor_call :
    boundary "y = f(x) 'z".toList 8 = boundary "y = f(x) + g(z)".toList 8 ∧
      ((∃ start, boundary "y = f(x)".toList 8 = .ok start ∧
          boundary "y = f(x)\n".toList 9 = .ok start ∧
          boundary "y = f(x)\n; ".toList 11 = .ok start) ∨
        (boundary "y = f(x)".toList 8 = .error (.noExpression 8) ∧
          boundary "y = f(x)\n".toList 9 = .error (.noExpression 9) ∧
          boundary "y = f(x)\n; ".toList 11 = .error (.noExpression 11))) := by
  obtain ⟨hafter, hneutral⟩ := boundary_cursor
  have hother := @hafter "y = f(x) + g(z)".toList 8 (by decide) " 'z".toList
  have hseparated := @hneutral "y = f(x)".toList "\n".toList " ".toList (by decide) rfl rfl
  exact ⟨hother, hseparated⟩

/-! ## Before the boundary -/

/-- No expression ends with a separator. -/
theorem beforeExpression_separator (s : Text) : beforeExpression (';' :: s) = none := rfl

/-- A boundary is found only with the cursor in the text. -/
theorem inside_of_boundary {text : Text} {point : Int} {start : Nat}
    (h : boundary text point = .ok start) : ∃ n : Nat, point = n ∧ n ≤ text.length := by
  unfold boundary at h
  split at h
  · cases h
  · next hinside =>
    simp only [Bool.or_eq_true, decide_eq_true_eq, not_or, Int.not_lt] at hinside
    obtain ⟨n, rfl⟩ := Int.eq_ofNat_of_zero_le hinside.1
    exact ⟨n, rfl, by omega⟩

/-- The text up to the cursor is cut at the boundary, and what comes after the cut is found from
the cursor on its own. -/
theorem boundary_cut {text : Text} {point start : Nat} (hpoint : point ≤ text.length)
    (h : boundary text point = .ok start) :
    ∃ p y : Text, text.take point = p ++ y ∧ p.length = start ∧ boundary y y.length = .ok 0 := by
  obtain ⟨w, htext, hw, hblank, -⟩ := beforeCursor_trimmed text point
  rw [boundary_eq hpoint] at h
  generalize beforeCursor text point = s at h htext hblank
  split at h
  · next p hp =>
    obtain ⟨x, rfl, hx⟩ := beforeExpression_cut hp
    rw [List.reverse_reverse] at hblank
    cases x with
    | nil => cases hx
    | cons e r =>
      have hsep : e ≠ ';' := by
        rintro rfl
        rw [beforeExpression_separator] at hx
        cases hx
      have hrev : (e :: r).reverse.reverse = e :: r := List.reverse_reverse _
      -- alone, too, the scan begins at the end of the expression
      have hcursor := beforeCursor_trailing (r := []) hrev (hblank e rfl) hsep hw
      rw [List.append_nil] at hcursor
      refine ⟨p.reverse, (e :: r).reverse ++ w, ?_, by simpa using h, ?_⟩
      · rw [htext, List.reverse_append, List.append_assoc]
      · rw [boundary_eq (Nat.le_refl _), hcursor, hrev, hx]
        rfl
  · cases h

/-- An expression is complete in itself: in its own text, up to the cursor, the scanner finds all
of it again. -/
theorem boundary_slice {text : Text} {point : Int} {start : Nat}
    (h : boundary text point = .ok start) :
    boundary (text.slice start point) (point - start) = .ok 0 ∧
      last (text.slice start point) (point - start) = .ok (0, text.slice start point) := by
  obtain ⟨point, rfl, hpoint⟩ := inside_of_boundary h
  obtain ⟨p, y, htext, rfl, hy⟩ := boundary_cut hpoint h
  have hlength := congrArg List.length htext
  rw [List.length_take, List.length_append, Nat.min_eq_left hpoint] at hlength
  have hslice : text.slice p.length point = y := by
    rw [Text.slice_eq (by omega) hpoint, htext, List.drop_left' rfl]
  have hend : (point : Int) - p.length = y.length := by omega
  have hwhole : y.slice (0 : Nat) y.length = y := by
    rw [Text.slice_eq (Nat.zero_le _) (Nat.le_refl _), List.drop_zero, List.take_length]
  rw [hslice, hend]
  refine ⟨hy, ?_⟩
  rw [last, hy]
  show Except.ok (0, y.slice (0 : Nat) y.length) = _
  rw [hwhole]

/-- In `y = !f('(') ;` the expression before the semicolon begins with its sign, and so it does when
it is scanned alone. -/
theorem boundary_slice_sign :
    boundary "y = !f('(') ;".toList 13 = .ok 4 ∧
      boundary "!f('(') ;".toList 9 = .ok 0 ∧
      last "!f('(') ;".toList 9 = .ok (0, "!f('(') ;".toList) := by
  have hbefore : beforeExpression ")'('(f! = y".toList = some " = y".toList := by
    have hcall : Operand.of ")'('(f! = y".toList = some ⟨'(', "f! = y".toList⟩ := by decide
    have hname : Operand.chainStep ⟨'(', "f! = y".toList⟩ = .on ⟨'f', "! = y".toList⟩ := rfl
    have hstay : Operand.chainStep ⟨'f', "! = y".toList⟩ = .stay := rfl
    have hsign : unaryStep "! = y".toList = some " = y".toList := by decide
    have hnone : unaryStep " = y".toList = none := by decide
    have harrow : Operand.arrowFunction ")'('(f! = y".toList = none := by decide
    have hextend : Operand.extend ⟨'(', "f! = y".toList⟩ = ⟨'f', "! = y".toList⟩ := by
      rw [Operand.extend_on hname, Operand.extend_stay hstay]
    have hskip : skipUnary "! = y".toList = " = y".toList := by
      rw [skipUnary_some hsign, skipUnary_none hnone]
    rw [beforeExpression, harrow, hcall]
    show some (skipUnary (Operand.extend ⟨'(', "f! = y".toList⟩).before) = _
    rw [hextend, hskip]
  have hcursor : beforeCursor "y = !f('(') ;".toList 13 = ")'('(f! = y".toList := by decide
  have hfound : boundary "y = !f('(') ;".toList ((13 : Nat) : Int) = .ok 4 := by
    rw [boundary_eq (by decide), hcursor, hbefore]
    rfl
  exact ⟨hfound, boundary_slice hfound⟩

end ReplDriver.Expression
