import ReplDriver.Proofs.Module.Rendering

/-!
# JSON values on one line

A value is written in printable ASCII only, whatever it holds. So a written value stands on one
line, and a line feed may end it.

* `Json.plain_render`: a written value is printable ASCII.
* `Json.not_mem_render`: a written value has no line feeds.
-/

namespace ReplDriver.Json

/-- The text is printable ASCII. -/
def Plain (s : Text) : Prop := ∀ c ∈ s, isPlain c = true

theorem plain_nil : Plain [] := fun _ => nofun

theorem Plain.append {s t : Text} (hs : Plain s) (ht : Plain t) : Plain (s ++ t) :=
  fun c hc => (List.mem_append.mp hc).elim (hs c) (ht c)

theorem Plain.of_all {s : Text} (h : s.all isPlain = true) : Plain s :=
  List.all_eq_true.mp h

/-- Whatever is left of a text is as plain as the text. -/
theorem Plain.sublist {s t : Text} (hs : Plain s) (h : List.Sublist t s) : Plain t :=
  fun c hc => hs c (h.mem hc)

theorem plain_zeroes (n : Nat) : Plain (List.replicate n '0') := by
  intro c hc
  obtain rfl := List.eq_of_mem_replicate hc
  decide

theorem plain_ite {p : Prop} [Decidable p] {s t : Text} (hs : Plain s) (ht : Plain t) :
    Plain (if p then s else t) := by
  split
  · exact hs
  · exact ht

theorem plain_word {p : Prop} [Decidable p] {s t : String} (hs : s.toList.all isPlain = true)
    (ht : t.toList.all isPlain = true) : Plain (if p then s else t).toList := by
  split
  · exact .of_all hs
  · exact .of_all ht

/-! ## Numbers -/

theorem plain_ofNat (n : Nat) : Plain (Text.ofNat n) := isPlain_toDigits (by decide) n

theorem plain_ofInt (n : Int) : Plain (Text.ofInt n) := by
  cases n with
  | ofNat n => exact plain_ofNat n
  | negSucc n => exact .append (s := ['-']) (.of_all (by decide)) (plain_ofNat (n + 1))

theorem plain_shortest (x : Rat) : Plain (Double.shortest x).1 := by
  unfold Double.shortest
  simp only
  split
  · next digits exponent _ =>
    have hdropped := List.dropWhile_sublist (· == '0') (l := (Nat.toDigits 10 digits).reverse)
    have hkept := hdropped.reverse
    rw [List.reverse_reverse] at hkept
    exact (plain_ofNat digits).sublist hkept
  · exact .of_all (by decide)

theorem plain_layOut {digits : Text} (h : Plain digits) (point : Int) :
    Plain (Double.layOut digits point) := by
  have htake (n : Nat) : Plain (digits.take n) := h.sublist (List.take_sublist n digits)
  have hdrop (n : Nat) : Plain (digits.drop n) := h.sublist (List.drop_sublist n digits)
  unfold Double.layOut
  refine plain_ite (plain_ite ?_ (plain_ite ?_ ?_)) ?_
  · exact ((Plain.of_all (by decide)).append (plain_zeroes _)).append h
  · exact (h.append (plain_zeroes _)).append (.of_all (by decide))
  · exact ((htake _).append (.of_all (by decide))).append (hdrop _)
  · have hfraction : Plain (if digits.length ≤ 1 then [] else "." ++ digits.drop 1) :=
      plain_ite plain_nil (.append (s := ['.']) (.of_all (by decide)) (hdrop 1))
    have hsign : Plain (if point - 1 < 0 then "-" else "+").toList :=
      plain_word (by decide) (by decide)
    refine .append (.append (.append (.append ((htake 1).append hfraction) ?_) hsign)
      (plain_zeroes _)) (plain_ofNat _)
    exact .of_all (by decide)

theorem plain_double (x : Double) : Plain (x.text specialWords) := by
  cases x with
  | nan => exact .of_all (by decide)
  | infinite negative => cases negative <;> exact .of_all (by decide)
  | negativeZero => exact .of_all (by decide)
  | finite q =>
    refine plain_ite (.of_all (by decide)) ?_
    show Plain ((if q < 0 then "-" else "").toList ++
      Double.layOut (Double.shortest (if q < 0 then -q else q)).1
        (Double.shortest (if q < 0 then -q else q)).2)
    exact (plain_word (by decide) (by decide)).append (plain_layOut (plain_shortest _) _)

/-! ## Values -/

theorem plain_renderText (s : Text) : Plain (renderText s) :=
  fun _ hc => isPlain_of_mem_renderText hc

mutual

/-- A written value is printable ASCII. -/
theorem plain_render (v : Json) : Plain (render v) := by
  cases v with
  | null => exact .of_all (by decide)
  | bool b => cases b <;> exact .of_all (by decide)
  | int n => exact plain_ofInt n
  | double x => exact plain_double x
  | text s => exact plain_renderText s
  | list items =>
    exact ((Plain.of_all (by decide)).append (plain_renderItems items)).append (.of_all (by decide))
  | object members =>
    exact ((Plain.of_all (by decide)).append (plain_renderMembers members)).append
      (.of_all (by decide))

theorem plain_renderItems (items : List Json) : Plain (renderItems items) := by
  match items with
  | [] => exact plain_nil
  | [v] => exact plain_render v
  | v :: next :: rest =>
    exact ((plain_render v).append (.of_all (by decide))).append (plain_renderItems (next :: rest))

theorem plain_renderMembers (members : List (Text × Json)) : Plain (renderMembers members) := by
  match members with
  | [] => exact plain_nil
  | [(k, v)] => exact ((plain_renderText k).append (.of_all (by decide))).append (plain_render v)
  | (k, v) :: next :: rest =>
    exact ((((plain_renderText k).append (.of_all (by decide))).append (plain_render v)).append
      (.of_all (by decide))).append (plain_renderMembers (next :: rest))

end

/-- A written value has no line feeds. -/
theorem not_mem_render (v : Json) : '\n' ∉ render v := fun h =>
  absurd (plain_render v '\n' h) (by decide)

end ReplDriver.Json
