import ReplDriver.Completion.Context
import ReplDriver.Proofs.Text.Characters

/-!
# What the context at a cursor names

An editor replaces the slice that a context gives by a candidate for its token. So the slice has to
be the token: the member chain before the cursor, or the part of a module path before it.

One line feed at the end of what stands before the cursor is passed over. A token that is read
behind it is not the text between the offsets that are given with it.

* `AsksForModule`, `OpensPath`: where a quote opens a module path, told from left to right.
* `Names`: a context gives the text that it names.
* `Reads`: what is read of a text before a cursor.
* `contextAt_names`: the context names its text, unless a line feed directly before the cursor comes
  after something that could be completed.
-/

namespace ReplDriver

/-! ## The longest run at the end -/

namespace Text

/-- The longest run of characters of a class that a text ends with. -/
structure LongestRun (p : Char → Bool) (s run : Text) : Prop where
  ends : run <:+ s
  inside : ∀ c ∈ run, p c = true
  longest : ∀ other, other <:+ s → (∀ c ∈ other, p c = true) → other <:+ run

theorem longestRun_takeRightWhile (p : Char → Bool) (s : Text) :
    LongestRun p s (takeRightWhile p s) where
  ends := ⟨_, dropRightWhile_append_takeRightWhile p s⟩
  inside _ := mem_takeRightWhile
  longest other hother hall := by
    obtain ⟨before, rfl⟩ := hother
    have hrun : ∀ c ∈ other.reverse, p c = true := fun c hc => hall c (List.mem_reverse.mp hc)
    rw [takeRightWhile, List.reverse_append, List.takeWhile_append_of_pos hrun,
      List.reverse_append, List.reverse_reverse]
    exact List.suffix_append ..

/-- The run is empty exactly when the text does not end with a character of the class. -/
theorem LongestRun.eq_nil_iff {p : Char → Bool} {s run : Text} (h : LongestRun p s run) :
    run = [] ↔ ∀ c, s.getLast? = some c → p c = false := by
  constructor
  · rintro rfl c hlast
    obtain ⟨before, rfl⟩ := List.getLast?_eq_some_iff.mp hlast
    refine Bool.eq_false_iff.mpr fun hc => ?_
    have hsuffix := h.longest [c] (List.suffix_append ..) (by simpa using hc)
    cases List.suffix_nil.mp hsuffix
  · intro hlast
    obtain ⟨before, rfl⟩ := h.ends
    rcases List.eq_nil_or_concat run with hnil | ⟨others, c, rfl⟩
    · exact hnil
    · rw [List.concat_eq_append] at hlast h
      have hc := h.inside c (List.mem_append_right _ (List.mem_singleton_self c))
      rw [hlast c (by simp)] at hc
      cases hc

theorem longestRun_nil {p : Char → Bool} {s : Text} (h : ∀ c, s.getLast? = some c → p c = false) :
    LongestRun p s [] := by
  have hrun := longestRun_takeRightWhile p s
  rwa [hrun.eq_nil_iff.mpr h] at hrun

end Text

namespace Completion

open Text (isBlank LongestRun StopsAt)

/-! ## Module paths -/

/-- After these texts a quote opens a module path: after `require` or `import` and an opening
parenthesis, or after `from` or `import` and blanks. -/
inductive AsksForModule : Text → Prop
  | call {before word gap inner : Text} (hword : word = "require" ∨ word = "import")
      (hstart : Text.atWordStart before.getLast? = true) (hgap : ∀ c ∈ gap, isBlank c = true)
      (hinner : ∀ c ∈ inner, isBlank c = true) :
      AsksForModule (before ++ word ++ gap ++ '(' :: inner)
  | keyword {before word gap : Text} (hword : word = "from" ∨ word = "import")
      (hstart : Text.atWordStart before.getLast? = true) (hne : gap ≠ [])
      (hgap : ∀ c ∈ gap, isBlank c = true) : AsksForModule (before ++ word ++ gap)

/-- A text ends within a module path, of which this part stands before the end. -/
def OpensPath (text path : Text) : Prop :=
  ∃ before quote, text = before ++ quote :: path ∧ (quote = '\x27' ∨ quote = '\x22') ∧
    AsksForModule before ∧ ∀ c ∈ path, isPathChar c = true

theorem endsWithWord_iff {word s : Text} : endsWithWord word s.reverse = true ↔
    ∃ before, s = before ++ word ∧ Text.atWordStart before.getLast? = true := by
  rw [endsWithWord]
  constructor
  · intro h
    split at h
    · next r hr =>
      rw [Text.after?_eq_some] at hr
      refine ⟨r.reverse, ?_, by rwa [List.getLast?_reverse]⟩
      rw [← List.reverse_inj, hr, List.reverse_append, List.reverse_reverse]
    · cases h
  · rintro ⟨before, rfl, hstart⟩
    have hafter : Text.after? word.reverse (before ++ word).reverse = some before.reverse := by
      rw [Text.after?_eq_some, List.reverse_append]
    rw [hafter]
    simpa using hstart

/-- A text ends with one of two words. -/
theorem endsWithEither_iff {first second s : Text} :
    (endsWithWord first s.reverse || endsWithWord second s.reverse) = true ↔
      ∃ before word, (word = first ∨ word = second) ∧ s = before ++ word ∧
        Text.atWordStart before.getLast? = true := by
  rw [Bool.or_eq_true, endsWithWord_iff, endsWithWord_iff]
  constructor
  · rintro (⟨before, h⟩ | ⟨before, h⟩)
    · exact ⟨before, first, .inl rfl, h⟩
    · exact ⟨before, second, .inr rfl, h⟩
  · rintro ⟨before, word, rfl | rfl, h⟩
    · exact .inl ⟨before, h⟩
    · exact .inr ⟨before, h⟩

/-- A text that ends with an identifier ends neither with a blank nor with a parenthesis. -/
theorem exists_reverse_word {word : Text} (hword : Text.isIdent word = true) (before : Text) :
    ∃ c r, (before ++ word).reverse = c :: r ∧ isBlank c = false ∧ c ≠ '(' := by
  obtain ⟨hne, hall⟩ := Text.isIdentChar_of_isIdent hword
  obtain ⟨c, r, hr⟩ := List.exists_cons_of_ne_nil (List.reverse_ne_nil_iff.mpr hne)
  have hc : Text.isIdentChar c = true := hall c (List.mem_reverse.mp (hr ▸ List.mem_cons_self))
  exact ⟨c, r ++ before.reverse, by rw [List.reverse_append, hr, List.cons_append],
    Text.isBlank_of_isIdentChar hc, Text.ne_of_class hc (by decide)⟩

/-- Blanks at the end of a text that ends with an identifier are passed over. -/
theorem dropBlanks_word {before word gap : Text} (hword : Text.isIdent word = true)
    (hgap : ∀ c ∈ gap, isBlank c = true) :
    (gap.reverse ++ (before ++ word).reverse).dropWhile isBlank = (before ++ word).reverse := by
  obtain ⟨c, r, hlast, hc, -⟩ := exists_reverse_word hword before
  rw [hlast]
  exact Text.dropWhile_run (by simpa using hgap) (.cons hc r)

theorem AsksForModule.asks {s : Text} (h : AsksForModule s) : asksForModule s.reverse = true := by
  cases h with
  | @call before word gap inner hword hstart hgap hinner =>
    have hident : Text.isIdent word = true := by rcases hword with rfl | rfl <;> decide
    have hreverse : (before ++ word ++ gap ++ '(' :: inner).reverse =
        inner.reverse ++ '(' :: (gap.reverse ++ (before ++ word).reverse) := by simp
    have hopening := Text.dropWhile_run (p := isBlank) (w := inner.reverse) (by simpa using hinner)
      (.cons (c := '(') (by decide) (gap.reverse ++ (before ++ word).reverse))
    rw [asksForModule, hreverse, hopening]
    simp only
    rw [dropBlanks_word hident hgap]
    exact endsWithEither_iff.mpr ⟨before, word, hword, rfl, hstart⟩
  | @keyword before word gap hword hstart hne hgap =>
    have hident : Text.isIdent word = true := by rcases hword with rfl | rfl <;> decide
    obtain ⟨c, r, hlast, -, hparen⟩ := exists_reverse_word hident before
    rw [asksForModule, List.reverse_append, dropBlanks_word hident hgap]
    split
    · next heq => exact absurd (List.cons.inj (hlast.symm.trans heq)).1 hparen
    · have hpos := List.length_pos_iff.mpr hne
      rw [Bool.and_eq_true]
      exact ⟨by simpa using hpos, endsWithEither_iff.mpr ⟨before, word, hword, rfl, hstart⟩⟩

theorem AsksForModule.of_asks {s : Text} (h : asksForModule s.reverse = true) :
    AsksForModule s := by
  have hblanks (t : Text) : ∀ c ∈ (t.takeWhile isBlank).reverse, isBlank c = true := fun c hc =>
    List.all_eq_true.mp List.all_takeWhile c (List.mem_reverse.mp hc)
  have hsplit (t : Text) : t.reverse = (t.dropWhile isBlank).reverse ++
      (t.takeWhile isBlank).reverse := by
    rw [← List.reverse_append, List.takeWhile_append_dropWhile]
  have hs := hsplit s.reverse
  rw [List.reverse_reverse] at hs
  rw [asksForModule] at h
  split at h
  · next r hr =>
    -- before the parenthesis stands the word that is called, perhaps with blanks after it
    rw [← List.reverse_reverse (r.dropWhile isBlank)] at h
    obtain ⟨before, word, hword, hbefore, hstart⟩ := endsWithEither_iff.mp h
    rw [hr, List.reverse_cons, List.append_assoc, List.singleton_append, hsplit r, hbefore] at hs
    rw [hs]
    exact .call hword hstart (hblanks r) (hblanks s.reverse)
  · obtain ⟨hlength, hends⟩ := Bool.and_eq_true_iff.mp h
    rw [← List.reverse_reverse (s.reverse.dropWhile isBlank)] at hends
    obtain ⟨before, word, hword, hbefore, hstart⟩ := endsWithEither_iff.mp hends
    have hgap : (s.reverse.takeWhile isBlank).reverse ≠ [] := by
      intro hnil
      rw [hnil, List.append_nil] at hs
      have hsame := congrArg List.length hs
      rw [decide_eq_true_iff] at hlength
      simp only [List.length_reverse] at hsame hlength
      omega
    rw [hs, hbefore]
    exact .keyword hword hstart hgap (hblanks s.reverse)

theorem asksForModule_iff {s : Text} : asksForModule s.reverse = true ↔ AsksForModule s :=
  ⟨AsksForModule.of_asks, AsksForModule.asks⟩

theorem isPathChar_eq_false {c : Char} :
    isPathChar c = false ↔ c = '\x27' ∨ c = '\x22' ∨ c = '\n' := by
  simp [isPathChar, Classical.or_iff_not_imp_left]

theorem modulePath?_eq_some {s path : Text} :
    modulePath? s.reverse = some path ↔ OpensPath s path := by
  rw [modulePath?]
  constructor
  · intro h
    split at h
    · next q r hq =>
      split at h
      · next hopens =>
        cases h
        obtain ⟨hfeed, hasks⟩ := Bool.and_eq_true_iff.mp hopens
        have hs : s = r.reverse ++ q :: (s.reverse.takeWhile isPathChar).reverse := by
          have hwhole := congrArg List.reverse
            (List.takeWhile_append_dropWhile (p := isPathChar) (l := s.reverse))
          rw [hq] at hwhole
          simpa using hwhole.symm
        have hquote := isPathChar_eq_false.mp
          (Text.stopsAt_dropWhile (p := isPathChar) s.reverse q (by rw [hq]; rfl))
        rw [← List.reverse_reverse r, asksForModule_iff] at hasks
        refine ⟨r.reverse, q, hs, ?_, hasks, fun c hc => ?_⟩
        · rcases hquote with hquote | hquote | rfl
          · exact .inl hquote
          · exact .inr hquote
          · cases hfeed
        · exact List.all_eq_true.mp List.all_takeWhile c (List.mem_reverse.mp hc)
      · cases h
    · cases h
  · rintro ⟨before, quote, rfl, hquote, hasks, hpath⟩
    have hreverse : (before ++ quote :: path).reverse =
        path.reverse ++ quote :: before.reverse := by simp
    have hstop : isPathChar quote = false := by rcases hquote with rfl | rfl <;> rfl
    have hrun : ∀ c ∈ path.reverse, isPathChar c = true := by simpa using hpath
    have hfeed : (quote != '\n') = true := by rcases hquote with rfl | rfl <;> rfl
    rw [hreverse, Text.dropWhile_run hrun (.cons hstop _), Text.takeWhile_run hrun (.cons hstop _)]
    simp only
    rw [hfeed, asksForModule_iff.mpr hasks, List.reverse_reverse]
    rfl

/-! ## Contexts -/

/-- A context gives the text that it names: a slice of the text up to the cursor, which is the
longest member chain before the cursor, or the part of a module path before it. -/
structure Names (text : Text) (point : Nat) (context : Context) : Prop where
  stop : context.stop = point
  start_nonneg : 0 ≤ context.start
  start_le : context.start ≤ context.stop
  slice : text.slice context.start context.stop = context.token
  chain : context.inModulePath = false →
    LongestRun isTokenChar (text.take point) context.token
  path : context.inModulePath = true → ∃ before quote,
    text.take context.start.toNat = before ++ [quote] ∧ (quote = '\x27' ∨ quote = '\x22') ∧
      AsksForModule before ∧ ∀ c ∈ context.token, c ≠ '\x27' ∧ c ≠ '\x22' ∧ c ≠ '\n'

/-- A text ends with something that could be completed. -/
def EndsOpen (s : Text) : Prop :=
  (∃ path, OpensPath s path) ∨ ∃ c, s.getLast? = some c ∧ isTokenChar c = true

/-- What is read before a cursor, of which `line` is the text before it that counts. -/
structure Reads (line : Text) (point : Nat) (context : Context) : Prop where
  path : ∀ path, OpensPath line path →
    context = ⟨path, (line.length - path.length : Nat), point, true⟩
  chain : (¬ ∃ path, OpensPath line path) → ∃ run, LongestRun isTokenChar line run ∧
    context = ⟨run, point - run.length, point, false⟩

theorem contextAt_reads {text line : Text} {point : Nat}
    (hline : lineBefore text point = line.reverse) : Reads line point (contextAt text point) := by
  rw [contextAt, hline]
  constructor
  · intro path hpath
    rw [modulePath?_eq_some.mpr hpath, List.length_reverse]
  · intro hnone
    refine ⟨_, Text.longestRun_takeRightWhile isTokenChar line, ?_⟩
    rcases hpath : modulePath? line.reverse with _ | path
    · rfl
    · exact absurd ⟨path, modulePath?_eq_some.mp hpath⟩ hnone

/-- A line feed directly before the cursor is passed over. -/
theorem lineBefore_feed {text body : Text} {point : Nat} (hpoint : point ≤ text.length)
    (h : text.take point = body ++ ['\n']) : lineBefore text point = body.reverse := by
  rw [lineBefore, Text.upTo_eq hpoint, h, List.reverse_append]
  rfl

theorem lineBefore_of_not_feed {text : Text} {point : Nat} (hpoint : point ≤ text.length)
    (h : ¬ ∃ body, text.take point = body ++ ['\n']) :
    lineBefore text point = (text.take point).reverse := by
  rw [lineBefore, Text.upTo_eq hpoint]
  split
  · next r hr => exact absurd ⟨r.reverse, by rw [← List.reverse_inj, hr]; simp⟩ h
  · rfl

theorem isPathChar_iff {c : Char} :
    isPathChar c = true ↔ c ≠ '\x27' ∧ c ≠ '\x22' ∧ c ≠ '\n' := by
  simp [isPathChar, and_assoc]

/-- What is read of all the text before the cursor is named. -/
theorem Reads.names {text : Text} {point : Nat} {context : Context} (hpoint : point ≤ text.length)
    (h : Reads (text.take point) point context) : Names text point context := by
  have hlength : (text.take point).length = point := List.length_take_of_le hpoint
  by_cases hopen : ∃ path, OpensPath (text.take point) path
  · obtain ⟨path, hpath⟩ := hopen
    obtain rfl := h.path path hpath
    obtain ⟨before, quote, hbefore, hquote, hasks, hchars⟩ := hpath
    have hstart : (text.take point).length - path.length = before.length + 1 := by
      rw [hbefore, List.length_append, List.length_cons]
      omega
    have hstart_le : before.length + 1 ≤ point := by omega
    rw [hstart]
    have htake : text.take (before.length + 1) = before ++ [quote] := by
      rw [← Nat.min_eq_left hstart_le, ← List.take_take, hbefore]
      exact List.take_length_add_append 1
    refine ⟨rfl, Int.natCast_nonneg _, Int.ofNat_le.mpr hstart_le, ?_, nofun, fun _ =>
      ⟨before, quote, htake, hquote, hasks, fun c hc => isPathChar_iff.mp (hchars c hc)⟩⟩
    rw [Text.slice_eq (by omega) hpoint, hbefore]
    simp
  · obtain ⟨run, hrun, rfl⟩ := h.chain hopen
    have hle := hrun.ends.length_le
    obtain ⟨before, hbefore⟩ := hrun.ends
    have hstart : ((point : Int) - run.length) = (before.length : Nat) := by
      rw [← hbefore, List.length_append] at hlength
      omega
    refine ⟨rfl, by simp only; omega, by simp only; omega, ?_, fun _ => hrun, nofun⟩
    simp only
    rw [hstart, Text.slice_eq (by omega) hpoint, ← hbefore]
    simp

/-- A context that names a token without a line feed, directly after one, gives an empty slice. -/
theorem Names.start_eq {text body : Text} {point : Nat} {context : Context}
    (h : Names text point context) (hpoint : point ≤ text.length)
    (hbody : text.take point = body ++ ['\n']) (htoken : '\n' ∉ context.token) :
    context.start = point := by
  obtain ⟨start, hstart⟩ := Int.eq_ofNat_of_zero_le h.start_nonneg
  have hle := h.start_le
  have hslice := h.slice
  rw [hstart, h.stop] at hslice hle
  rw [hstart]
  refine congrArg _ (Classical.byContradiction fun hne => htoken ?_)
  have hlength := congrArg List.length hbody
  rw [List.length_take_of_le hpoint, List.length_append, List.length_singleton] at hlength
  rw [← hslice, Text.slice_eq (by omega) hpoint, hbody, List.drop_append_of_le_length (by omega)]
  exact List.mem_append_right _ (List.mem_singleton_self _)

/-- Directly after a line feed, before which stands something that could be completed, what is read
is not named. -/
theorem Reads.not_names {text body : Text} {point : Nat} {context : Context}
    (h : Reads body point context) (hpoint : point ≤ text.length)
    (hbody : text.take point = body ++ ['\n']) (hopen : EndsOpen body) :
    ¬ Names text point context := by
  intro hnames
  have hlength := congrArg List.length hbody
  rw [List.length_take_of_le hpoint, List.length_append, List.length_singleton] at hlength
  by_cases hpath : ∃ path, OpensPath body path
  · obtain ⟨path, hpath⟩ := hpath
    obtain rfl := h.path path hpath
    obtain ⟨-, -, -, -, -, hchars⟩ := hpath
    have hstart := hnames.start_eq hpoint hbody fun hmem =>
      (isPathChar_iff.mp (hchars _ hmem)).2.2 rfl
    simp only at hstart
    omega
  · obtain ⟨run, hrun, rfl⟩ := h.chain hpath
    have hstart := hnames.start_eq hpoint hbody fun hmem =>
      absurd (hrun.inside _ hmem) (by decide)
    simp only at hstart
    have hnil : run = [] := List.length_eq_zero_iff.mp (by omega)
    obtain ⟨c, hlast, hc⟩ := hopen.resolve_left hpath
    rw [hrun.eq_nil_iff.mp hnil c hlast] at hc
    cases hc

/-- Directly after a line feed, before which stands nothing that could be completed, there is
nothing to complete. -/
theorem Reads.names_nothing {text body : Text} {point : Nat} {context : Context}
    (h : Reads body point context) (hpoint : point ≤ text.length)
    (hbody : text.take point = body ++ ['\n']) (hclosed : ¬ EndsOpen body) :
    Names text point context := by
  obtain ⟨run, hrun, rfl⟩ := h.chain fun hpath => hclosed (.inl hpath)
  obtain rfl : run = [] := hrun.eq_nil_iff.mpr fun c hlast =>
    Bool.eq_false_iff.mpr fun hc => hclosed (.inr ⟨c, hlast, hc⟩)
  have hfeed : ∀ c, (text.take point).getLast? = some c → isTokenChar c = false := by
    intro c hlast
    rw [hbody, List.getLast?_concat] at hlast
    cases hlast
    rfl
  refine ⟨rfl, by simp, by simp, ?_, fun _ => Text.longestRun_nil hfeed, nofun⟩
  rw [show ((point : Int) - ([] : Text).length) = (point : Nat) by simp,
    Text.slice_eq hpoint hpoint]
  exact List.drop_take_self

/-- What is completed at a cursor is read of the text before it, without a line feed at the end of
that. The context names what is read, unless the cursor stands directly after a line feed and before
that is something that could be completed: then the slice goes on to the cursor all the same. -/
theorem contextAt_names {text : Text} {point : Nat} (hpoint : point ≤ text.length) :
    (Names text point (contextAt text point) ↔
      ¬ ∃ body, text.take point = body ++ ['\n'] ∧ EndsOpen body) ∧
    (∀ body, text.take point = body ++ ['\n'] → Reads body point (contextAt text point)) ∧
    ((¬ ∃ body, text.take point = body ++ ['\n']) →
      Reads (text.take point) point (contextAt text point)) := by
  have hafter {body : Text} (hbody : text.take point = body ++ ['\n']) :
      Reads body point (contextAt text point) := contextAt_reads (lineBefore_feed hpoint hbody)
  have hwithin (hfeed : ¬ ∃ body, text.take point = body ++ ['\n']) :
      Reads (text.take point) point (contextAt text point) :=
    contextAt_reads (lineBefore_of_not_feed hpoint hfeed)
  refine ⟨⟨?_, fun hclosed => ?_⟩, fun body => hafter, hwithin⟩
  · rintro hnames ⟨body, hbody, hopen⟩
    exact (hafter hbody).not_names hpoint hbody hopen hnames
  · by_cases hfeed : ∃ body, text.take point = body ++ ['\n']
    · obtain ⟨body, hbody⟩ := hfeed
      exact (hafter hbody).names_nothing hpoint hbody fun hopen => hclosed ⟨body, hbody, hopen⟩
    · exact (hwithin hfeed).names hpoint

/-- The part of a path is named where its quote is open. Behind a line feed a name is read whose
slice is one character off. -/
theorem contextAt_names_path :
    17 ≤ "m = require('fs/p".toList.length ∧
      contextAt "m = require('fs/p" (17 : Nat) = ⟨"fs/p", 13, 17, true⟩ ∧
      Names "m = require('fs/p" 17 (contextAt "m = require('fs/p" (17 : Nat)) ∧
      4 ≤ "foo\n".toList.length ∧
      contextAt "foo\n" (4 : Nat) = ⟨"foo", 1, 4, false⟩ ∧
      ¬ Names "foo\n" 4 (contextAt "foo\n" (4 : Nat)) := by
  have hpath : 17 ≤ "m = require('fs/p".toList.length := by decide
  have hname : 4 ≤ "foo\n".toList.length := by decide
  refine ⟨hpath, by decide +kernel, (contextAt_names hpath).1.mpr ?_, hname, by decide +kernel,
    mt (contextAt_names hname).1.mp (not_not_intro ?_)⟩
  · rintro ⟨body, hbody, -⟩
    have hlast := congrArg List.getLast? hbody
    rw [List.getLast?_concat] at hlast
    exact absurd hlast (by decide)
  · exact ⟨"foo", by decide, .inr ⟨'o', by decide⟩⟩

end Completion

end ReplDriver
