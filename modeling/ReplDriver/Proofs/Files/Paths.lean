import ReplDriver.Files.Path
import ReplDriver.Proofs.Text.Cutting

/-!
# Paths in normal form

The components of a text are pushed one by one; in a path that begins at a root all that is left are
names. The text of such a path is cut into its names again, so bringing it into normal form changes
nothing.

* `Path.absolute_rooted`: a path that is made absolute is in normal form.
* `Path.absolute_parts`: its components are those of the text, pushed where the text begins.
* `Path.foldl_push_text`: what the text of a path in normal form pushes are its components.
* `Path.joinText_text`: the path of something in a directory.
-/

namespace ReplDriver.Path

open Text

/-! ## Names -/

/-- A text that names something in a directory. -/
structure IsName (part : Text) : Prop where
  nonempty : part ≠ []
  notHere : part ≠ "."
  notAbove : part ≠ ".."
  noSlash : '/' ∉ part

instance (part : Text) : Decidable (IsName part) :=
  decidable_of_iff (part ≠ [] ∧ part ≠ "." ∧ part ≠ ".." ∧ '/' ∉ part)
    ⟨fun ⟨h, h', h'', h'''⟩ => ⟨h, h', h'', h'''⟩,
      fun h => ⟨h.nonempty, h.notHere, h.notAbove, h.noSlash⟩⟩

/-- A path in normal form that begins at a root. -/
structure Rooted (p : Path) : Prop where
  slashes : p.slashes = 1 ∨ p.slashes = 2
  names : ∀ part ∈ p.parts, IsName part

/-- So is the path of something in it. -/
theorem Rooted.child {p : Path} {name : Text} (h : p.Rooted) (hname : IsName name) :
    Rooted ⟨p.slashes, p.parts ++ [name]⟩ where
  slashes := h.slashes
  names part hpart := by
    rcases List.mem_append.mp hpart with hpart | hpart
    · exact h.names part hpart
    · rw [List.mem_singleton.mp hpart]
      exact hname

/-- So is every path above it. -/
theorem Rooted.above {p : Path} {parts : List Text} (h : p.Rooted) (habove : parts <+: p.parts) :
    Rooted ⟨p.slashes, parts⟩ :=
  ⟨h.slashes, fun part hpart => h.names part (habove.subset hpart)⟩

variable {p cwd : Path} {part name s : Text} {parts done : List Text} {rooted : Bool}

/-! ## Pushing components -/

@[simp] theorem push_empty (rooted : Bool) (done : List Text) : push rooted done [] = done := rfl

@[simp] theorem push_here (rooted : Bool) (done : List Text) : push rooted done "." = done := by
  rfl

/-- The way up takes the last name away. -/
theorem push_above (done : List Text) (h : "..".toList ∉ done) :
    push true done ".." = done.tail := by
  cases done with
  | nil => rfl
  | cons last rest =>
    have hlast : last ≠ "..".toList := fun hlast => h (by rw [hlast]; exact List.mem_cons_self)
    show (if last == "..".toList then _ else rest) = rest
    rw [if_neg (by simpa using hlast)]

theorem IsName.push (h : IsName part) (rooted : Bool) (done : List Text) :
    push rooted done part = part :: done := by
  have hempty : (part == []) = false := beq_eq_false_iff_ne.mpr h.nonempty
  have hhere : (part == ".".toList) = false := beq_eq_false_iff_ne.mpr h.notHere
  have habove : (part == "..".toList) = false := beq_eq_false_iff_ne.mpr h.notAbove
  unfold Path.push
  rw [hempty, hhere, habove]
  rfl

theorem IsName.isAbsoluteText (h : IsName name) : isAbsoluteText name = false := by
  cases name with
  | nil => rfl
  | cons c rest =>
    refine beq_eq_false_iff_ne.mpr fun hslash => h.noSlash ?_
    rw [Option.some.inj hslash]
    exact List.mem_cons_self

/-- Names are all kept. -/
theorem foldl_push_names (h : ∀ part ∈ parts, IsName part) (rooted : Bool) (done : List Text) :
    parts.foldl (push rooted) done = parts.reverse ++ done := by
  induction parts generalizing done with
  | nil => rfl
  | cons part parts ih =>
    rw [List.foldl_cons, (h part List.mem_cons_self).push,
      ih fun other hother => h other (List.mem_cons_of_mem part hother)]
    simp

theorem foldl_push_empties (n : Nat) (rooted : Bool) (done : List Text) :
    (List.replicate n []).foldl (push rooted) done = done := by
  induction n with
  | zero => rfl
  | succ n ih => rw [List.replicate_succ, List.foldl_cons, push_empty, ih]

/-- Below a root, nothing but names is left of the pieces between slashes. -/
theorem names_foldl_push {pieces : List Text} (hpieces : ∀ piece ∈ pieces, '/' ∉ piece)
    (hdone : ∀ part ∈ done, IsName part) :
    ∀ part ∈ pieces.foldl (push true) done, IsName part := by
  induction pieces generalizing done with
  | nil => exact hdone
  | cons piece pieces ih =>
    rw [List.foldl_cons]
    apply ih
    · intro other hother
      exact hpieces other (List.mem_cons_of_mem piece hother)
    intro part hpart
    by_cases hempty : piece = []
    · rw [hempty, push_empty] at hpart
      exact hdone part hpart
    by_cases hhere : piece = "."
    · rw [hhere, push_here] at hpart
      exact hdone part hpart
    by_cases habove : piece = ".."
    · rw [habove, push_above done fun h => (hdone _ h).notAbove rfl] at hpart
      exact hdone part (List.mem_of_mem_tail hpart)
    · have hname : IsName piece := ⟨hempty, hhere, habove, hpieces piece List.mem_cons_self⟩
      rw [hname.push] at hpart
      rcases List.mem_cons.mp hpart with rfl | hpart
      · exact hname
      · exact hdone part hpart

/-! ## Absolute paths -/

theorem slashes_ofText (h : isAbsoluteText s = true) :
    (ofText s).slashes = 1 ∨ (ofText s).slashes = 2 := by
  cases s with
  | nil => cases h
  | cons c rest =>
    obtain rfl : c = '/' := by simpa [isAbsoluteText] using h
    generalize hleading : (('/' :: rest).takeWhile (· == '/')).length = leading
    have hpositive : 1 ≤ leading := by
      rw [← hleading, List.takeWhile_cons_of_pos rfl, List.length_cons]
      omega
    have hslashes : (ofText ('/' :: rest)).slashes = if leading == 2 then 2 else min leading 1 := by
      rw [← hleading]
      rfl
    rw [hslashes]
    split
    · exact .inr rfl
    · exact .inl (by omega)

/-- The components of a text that begins at a root. -/
theorem parts_ofText (h : isAbsoluteText s = true) :
    (ofText s).parts = ((splitOn '/' s).foldl (push true) []).reverse := by
  have hrooted : ((ofText s).slashes != 0) = true := by
    rcases slashes_ofText h with hone | htwo
    · rw [hone]; rfl
    · rw [htwo]; rfl
  rw [← hrooted]
  rfl

theorem ofText_rooted (h : isAbsoluteText s = true) : (ofText s).Rooted where
  slashes := slashes_ofText h
  names part hpart := by
    rw [parts_ofText h, List.mem_reverse] at hpart
    exact names_foldl_push (fun piece => not_mem_splitOn '/')
      (fun part h => absurd h List.not_mem_nil) part hpart

/-- A path in normal form begins with a slash or two, and goes on with its names. -/
theorem Rooted.text_eq (h : p.Rooted) :
    p.text = List.replicate p.slashes '/' ++ join "/" p.parts := by
  have hslashes : (p.slashes == 0) = false := by
    rcases h.slashes with hone | htwo
    · rw [hone]; rfl
    · rw [htwo]; rfl
  unfold Path.text
  rw [hslashes]
  rfl

theorem Rooted.isAbsoluteText (h : p.Rooted) (rest : Text) :
    isAbsoluteText (p.text ++ rest) = true := by
  rw [h.text_eq]
  rcases h.slashes with hone | htwo
  · rw [hone]; rfl
  · rw [htwo]; rfl

theorem Rooted.text_isEmpty (h : p.Rooted) : p.text.isEmpty = false := by
  rw [h.text_eq]
  rcases h.slashes with hone | htwo
  · rw [hone]; rfl
  · rw [htwo]; rfl

/-- Slashes in front of a text are empty pieces. -/
theorem splitOn_slashes (n : Nat) (s : Text) :
    splitOn '/' (List.replicate n '/' ++ s) = List.replicate n [] ++ splitOn '/' s := by
  induction n with
  | zero => rfl
  | succ n ih =>
    rw [List.replicate_succ, List.cons_append, splitOn_cons_self, ih, List.replicate_succ,
      List.cons_append]

/-- The pieces of the text of a path: empty ones for the slashes, and its names. -/
theorem Rooted.splitOn_text (h : p.Rooted) (hne : p.parts ≠ []) :
    splitOn '/' p.text = List.replicate p.slashes [] ++ p.parts := by
  rw [h.text_eq, splitOn_slashes]
  exact congrArg _ (splitOn_join hne fun part hpart => (h.names part hpart).noSlash)

/-- The text of a path in normal form pushes its names. -/
theorem foldl_push_text (h : p.Rooted) :
    (splitOn '/' p.text).foldl (push true) [] = p.parts.reverse := by
  by_cases hne : p.parts = []
  · have htext : p.text = List.replicate p.slashes '/' ++ [] := by
      rw [h.text_eq, hne]
      rfl
    rw [htext, splitOn_slashes, List.foldl_append, foldl_push_empties, hne]
    rfl
  · rw [h.splitOn_text hne, List.foldl_append, foldl_push_empties, foldl_push_names h.names,
      List.append_nil]

/-- The text of a path ends with a slash if and only if the path is a root. -/
theorem Rooted.getLast?_text (h : p.Rooted) : p.text.getLast? = some '/' ↔ p.parts = [] := by
  rw [h.text_eq]
  constructor
  · intro hslash
    rcases List.eq_nil_or_concat p.parts with hroot | ⟨before, last, hparts⟩
    · exact hroot
    · rw [List.concat_eq_append] at hparts
      have hlast : IsName last := h.names last (by simp [hparts])
      obtain ⟨rest, hrest⟩ := suffix_join_concat "/" before last
      obtain ⟨c, hc⟩ := Option.isSome_iff_exists.mp (List.getLast?_isSome.mpr hlast.nonempty)
      rw [hparts, ← hrest, ← List.append_assoc, List.getLast?_append, hc] at hslash
      obtain rfl : c = '/' := Option.some.inj hslash
      exact absurd (List.mem_of_getLast? hc) hlast.noSlash
  · intro hroot
    rw [hroot]
    rcases h.slashes with hone | htwo
    · rw [hone]; rfl
    · rw [htwo]; rfl

/-- The pieces of a text that goes on from a directory. -/
theorem Rooted.splitOn_joinText (h : p.Rooted) (hs : Path.isAbsoluteText s = false) :
    ∃ pieces, splitOn '/' (joinText p.text s) = pieces ++ splitOn '/' s ∧
      pieces.foldl (push true) [] = p.parts.reverse := by
  have hbase : p.text.isEmpty = false := h.text_isEmpty
  by_cases hroot : p.parts = []
  · -- behind a root there is no other slash
    have hlast : p.text.getLast? = some '/' := h.getLast?_text.mpr hroot
    refine ⟨List.replicate p.slashes [], ?_, ?_⟩
    · have htext : p.text = List.replicate p.slashes '/' := by
        rw [h.text_eq, hroot]
        exact List.append_nil _
      unfold joinText
      rw [hs, hbase, hlast, htext]
      exact splitOn_slashes p.slashes s
    · rw [foldl_push_empties, hroot]
      rfl
  · have hlast : (p.text.getLast? == some '/') = false :=
      beq_eq_false_iff_ne.mpr fun hlast => hroot (h.getLast?_text.mp hlast)
    refine ⟨splitOn '/' p.text, ?_, foldl_push_text h⟩
    unfold joinText
    rw [hs, hbase, hlast]
    show splitOn '/' (p.text ++ ['/'] ++ s) = _
    rw [List.append_assoc]
    exact splitOn_append_cons '/' p.text s

theorem isAbsoluteText_joinText (h : p.Rooted) (s : Text) :
    Path.isAbsoluteText (joinText p.text s) = true := by
  unfold joinText
  by_cases hs : Path.isAbsoluteText s = true
  · rw [if_pos hs]
    exact hs
  · rw [if_neg hs]
    split
    · exact h.isAbsoluteText s
    · rw [List.append_assoc]
      exact h.isAbsoluteText _

theorem absolute_rooted (hcwd : cwd.Rooted) (s : Text) : (absolute cwd.text s).Rooted :=
  ofText_rooted (isAbsoluteText_joinText hcwd s)

/-- The components of a path that is made absolute: a relative path begins at the working
directory. -/
theorem absolute_parts (hcwd : cwd.Rooted) (s : Text) :
    (absolute cwd.text s).parts = ((splitOn '/' s).foldl (push true)
      (if Path.isAbsoluteText s then [] else cwd.parts).reverse).reverse := by
  rw [absolute, parts_ofText (isAbsoluteText_joinText hcwd s)]
  by_cases hs : Path.isAbsoluteText s = true
  · rw [if_pos hs, joinText, if_pos hs]
    rfl
  · obtain ⟨pieces, hsplit, hpieces⟩ := hcwd.splitOn_joinText (by simpa using hs)
    rw [if_neg hs, hsplit, List.foldl_append, hpieces]

/-- Making a path in normal form absolute changes nothing. -/
theorem absolute_text {base : Text} (h : p.Rooted) : (absolute base p.text).parts = p.parts := by
  have habsolute : Path.isAbsoluteText p.text = true := by
    have htext := h.isAbsoluteText []
    rwa [List.append_nil] at htext
  rw [absolute, joinText, if_pos habsolute, parts_ofText habsolute, foldl_push_text h,
    List.reverse_reverse]

/-- The last piece of a text. -/
theorem splitOn_baseName (s : Text) : ∃ pieces, splitOn '/' s = pieces ++ [baseName s] := by
  have hbase : '/' ∉ baseName s := fun h => by simpa using mem_takeRightWhile h
  have hwhole : dropRightWhile (· != '/') s ++ baseName s = s :=
    dropRightWhile_append_takeRightWhile _ s
  rcases List.eq_nil_or_concat (dropRightWhile (· != '/') s) with hnone | ⟨before, last, hbefore⟩
  · rw [hnone, List.nil_append] at hwhole
    refine ⟨[], ?_⟩
    rw [List.nil_append, ← splitOn_of_not_mem hbase, hwhole]
  · rw [List.concat_eq_append] at hbefore
    have hlast : last = '/' := by
      have hstops := getLast?_dropRightWhile (p := (· != '/')) (s := s) (c := last)
        (by rw [hbefore, List.getLast?_concat])
      simpa using hstops
    refine ⟨splitOn '/' before, ?_⟩
    rw [hbefore, hlast, List.append_assoc] at hwhole
    rw [← splitOn_of_not_mem hbase, ← splitOn_append_cons]
    exact congrArg (splitOn '/') hwhole.symm

/-- A path whose text ends with a name ends with it. -/
theorem absolute_baseName (hcwd : cwd.Rooted) (hname : IsName (baseName s)) :
    ∃ parts, (absolute cwd.text s).parts = parts ++ [baseName s] := by
  obtain ⟨pieces, hpieces⟩ := splitOn_baseName s
  rw [absolute_parts hcwd, hpieces, List.foldl_append, List.foldl_cons, List.foldl_nil, hname.push,
    List.reverse_cons]
  exact ⟨_, rfl⟩

/-- The path of something in a directory. -/
theorem joinText_text (h : p.Rooted) (hname : IsName name) :
    joinText p.text name = (⟨p.slashes, p.parts ++ [name]⟩ : Path).text := by
  rw [(h.child hname).text_eq]
  unfold joinText
  rw [if_neg (by simp [hname.isAbsoluteText])]
  cases hparts : p.parts with
  | nil =>
    rw [if_pos (by simp [h.getLast?_text.mpr hparts]), h.text_eq, hparts]
    simp [join]
  | cons first rest =>
    have hlast : (p.text.getLast? == some '/') = false := by
      rw [beq_eq_false_iff_ne, ne_eq, h.getLast?_text, hparts]
      exact List.cons_ne_nil first rest
    have hnonempty : p.text.isEmpty = false := h.text_isEmpty
    have hjoin : join ['/'] ((first :: rest) ++ [name]) =
        join ['/'] (first :: rest) ++ '/' :: name := by
      rw [List.cons_append, join_cons, join_cons, List.flatMap_append]
      simp
    rw [if_neg (by simp [hnonempty, hlast]), h.text_eq, hparts]
    show _ = _ ++ join ['/'] ((first :: rest) ++ [name])
    rw [hjoin, List.append_assoc, List.append_assoc]
    rfl

end ReplDriver.Path
