import ReplDriver.Module.Bindings
import ReplDriver.Proofs.Text.Characters

/-!
# Written imports stay on one line

The dynamic import that an import statement becomes has no line feeds, whatever the path is: a
string is written in printable ASCII only, and names and attributes stand on one line themselves.

* `Json.isPlain_of_mem_renderText`: a written string is printable ASCII.
* `Import.not_mem_render`: a written import has no line feeds.
-/

namespace ReplDriver

/-! ## Strings -/

namespace Json

/-- Printable ASCII characters. -/
def isPlain (c : Char) : Bool := ' ' ≤ c && c ≤ '~'

theorem isPlain_digitChar (n : Nat) : isPlain n.digitChar = true := by
  match n with
  | 0 | 1 | 2 | 3 | 4 | 5 | 6 | 7 | 8 | 9 | 10 | 11 | 12 | 13 | 14 | 15 => decide
  | m + 16 =>
    have hstar : (m + 16).digitChar = '*' := Nat.digitChar_eq_star.mpr (by omega)
    rw [hstar]
    decide

theorem isPlain_toDigits {base : Nat} (hbase : 1 < base) (n : Nat) :
    ∀ c ∈ Nat.toDigits base n, isPlain c = true := by
  induction n using Nat.strongRecOn with
  | ind n ih =>
    intro c hc
    rw [Nat.toDigits_eq_if hbase] at hc
    split at hc
    · obtain rfl := List.mem_singleton.mp hc
      exact isPlain_digitChar n
    · next hle =>
      rcases List.mem_append.mp hc with hc | hc
      · exact ih (n / base) (Nat.div_lt_self (by omega) hbase) c hc
      · obtain rfl := List.mem_singleton.mp hc
        exact isPlain_digitChar (n % base)

theorem isPlain_escapeUnit (n : Nat) : ∀ c ∈ escapeUnit n, isPlain c = true := by
  intro c hc
  have hmark : ∀ c ∈ "\\u".toList, isPlain c = true := Text.forall_mem_eq (by decide)
  rcases List.mem_append.mp hc with hc | hc
  · exact hmark c hc
  · rcases List.mem_append.mp hc with hc | hc
    · obtain rfl := List.eq_of_mem_replicate hc
      decide
    · exact isPlain_toDigits (by decide) n c hc

theorem isPlain_ite {p : Prop} [Decidable p] {s t : Text} (hs : p → ∀ c ∈ s, isPlain c = true)
    (ht : ∀ c ∈ t, isPlain c = true) : ∀ c ∈ if p then s else t, isPlain c = true := by
  split
  · next h => exact hs h
  · exact ht

theorem isPlain_escapeChar (c : Char) : ∀ d ∈ escapeChar c, isPlain d = true := by
  have hplain : (' ' ≤ c && c ≤ '~') = true → ∀ d ∈ [c], isPlain d = true := by
    intro h d hd
    obtain rfl := List.mem_singleton.mp hd
    exact h
  have hpair : ∀ m n, ∀ d ∈ escapeUnit m ++ escapeUnit n, isPlain d = true := by
    intro m n d hd
    rcases List.mem_append.mp hd with hd | hd
    · exact isPlain_escapeUnit m d hd
    · exact isPlain_escapeUnit n d hd
  unfold escapeChar
  apply isPlain_ite fun _ => Text.forall_mem_eq (by decide)
  apply isPlain_ite fun _ => Text.forall_mem_eq (by decide)
  apply isPlain_ite fun _ => Text.forall_mem_eq (by decide)
  apply isPlain_ite fun _ => Text.forall_mem_eq (by decide)
  apply isPlain_ite fun _ => Text.forall_mem_eq (by decide)
  apply isPlain_ite fun _ => Text.forall_mem_eq (by decide)
  apply isPlain_ite fun _ => Text.forall_mem_eq (by decide)
  apply isPlain_ite hplain
  exact isPlain_ite (fun _ => isPlain_escapeUnit _) (hpair _ _)

/-- A written string is printable ASCII. -/
theorem isPlain_of_mem_renderText {s : Text} {c : Char} (h : c ∈ renderText s) :
    isPlain c = true := by
  have hquote : ∀ c ∈ "\x22".toList, isPlain c = true := Text.forall_mem_eq (by decide)
  rcases List.mem_append.mp h with h | h
  · rcases List.mem_append.mp h with h | h
    · exact hquote c h
    · obtain ⟨d, -, h⟩ := List.mem_flatMap.mp h
      exact isPlain_escapeChar d c h
  · exact hquote c h

end Json

/-! ## Dynamic imports -/

namespace Module

open Text (isIdent)

theorem not_mem_ident {name : Text} (h : isIdent name = true) : '\n' ∉ name := by
  intro hmem
  exact absurd ((Text.isIdentChar_of_isIdent h).2 _ hmem) (by decide)

/-- The names that an import binds, and those of the exports that it binds them to. -/
def Import.names (i : Import) : List Text :=
  i.default.toList ++ i.whole.toList ++ i.named.flatMap fun b => [b.name, b.localName]

theorem not_mem_append {s t : Text} (hs : '\n' ∉ s) (ht : '\n' ∉ t) : '\n' ∉ s ++ t :=
  fun h => (List.mem_append.mp h).elim hs ht

theorem not_mem_join {sep : Text} {parts : List Text} (hsep : '\n' ∉ sep)
    (hparts : ∀ part ∈ parts, '\n' ∉ part) : '\n' ∉ Text.join sep parts := by
  induction parts with
  | nil => exact List.not_mem_nil
  | cons part rest ih =>
    have hpart := hparts part List.mem_cons_self
    have hrest := ih fun p hp => hparts p (List.mem_cons_of_mem part hp)
    cases rest with
    | nil => simpa [Text.join, List.intercalate] using hpart
    | cons next more =>
      have hjoin : Text.join sep (part :: next :: more) =
          part ++ (sep ++ Text.join sep (next :: more)) := by simp [Text.join, List.intercalate]
      rw [hjoin]
      exact not_mem_append hpart (not_mem_append hsep hrest)

/-- The statements that copy the bindings have no line feeds if the names have none. -/
theorem Import.not_mem_assignments {i : Import} (h : ∀ name ∈ i.names, '\n' ∉ name) :
    ∀ line ∈ i.assignments, '\n' ∉ line := by
  intro line hline
  simp only [assignments, List.mem_append, Option.mem_toList, Option.map_eq_some_iff, List.mem_map,
    List.mem_filter] at hline
  rcases hline with (⟨name, hname, rfl⟩ | ⟨name, hname, rfl⟩) | ⟨b, ⟨hb, -⟩, rfl⟩
  · have hfree : '\n' ∉ name := h name (by simp [names, hname])
    exact not_mem_append (not_mem_append (by decide) hfree) (by decide)
  · have hfree : '\n' ∉ name := h name (by simp [names, hname])
    exact not_mem_append (not_mem_append (by decide) hfree) (by decide)
  · have hfree : '\n' ∉ b.name := h b.name (by simp [names]; grind)
    have hfree' : '\n' ∉ b.localName := h b.localName (by simp [names]; grind)
    have hstart : '\n' ∉ "g." ++ b.localName ++ " = m." ++ b.name :=
      not_mem_append (not_mem_append (not_mem_append (by decide) hfree') (by decide)) hfree
    exact not_mem_append (not_mem_append (not_mem_append hstart (by decide)) hfree) (by decide)

/-- A written import has no line feeds if the names and the attributes have none. -/
theorem Import.not_mem_render {i : Import} {attributes : Option Text}
    (hnames : ∀ name ∈ i.names, '\n' ∉ name) (hattributes : ∀ a, attributes = some a → '\n' ∉ a) :
    '\n' ∉ i.render attributes := by
  have hpath : '\n' ∉ Json.renderText i.path := fun hmem =>
    absurd (Json.isPlain_of_mem_renderText hmem) (by decide)
  have hlines : '\n' ∉ Text.join " " i.assignments :=
    not_mem_join (by decide) (Import.not_mem_assignments hnames)
  have hwritten : ∀ body options : Text, '\n' ∉ body → '\n' ∉ options →
      '\n' ∉ "((g, m) => \x7b" ++ body ++ "\x7d)(globalThis, await import(" ++
        Json.renderText i.path ++ options ++ "));" := by
    intro body options hbody hoptions
    have hstart : '\n' ∉ "((g, m) => \x7b" ++ body ++ "\x7d)(globalThis, await import(" :=
      not_mem_append (not_mem_append (by decide) hbody) (by decide)
    exact not_mem_append (not_mem_append (not_mem_append hstart hpath) hoptions) (by decide)
  unfold render
  apply hwritten
  · cases hassign : i.assignments with
    | nil => decide
    | cons line rest =>
      rw [hassign] at hlines
      exact not_mem_append (not_mem_append (by decide) hlines) (by decide)
  · cases attributes with
    | none => exact List.not_mem_nil
    | some a =>
      have hoptions : '\n' ∉ ", \x7b with: " ++ a ++ " \x7d" :=
        not_mem_append (not_mem_append (by decide) (hattributes a rfl)) (by decide)
      dsimp only
      split
      · exact List.not_mem_nil
      · exact hoptions

end Module

end ReplDriver
