import ReplDriver.Module.Bindings
import ReplDriver.Module.Statement

/-!
# Scripts from modules

A script has no static `import` and `export`. `transform` turns imports into dynamic ones that copy
their bindings to the global object, and takes away what only concerns the exports of a module. It
goes over the text once for each kind of statement.

* `replaceLines_match`: a statement at the start of a line is replaced, and what follows it is
  looked at next.
* `replaceLines_skip`: a character at which no statement is recognised stays.
-/

namespace ReplDriver.Module

/-- A rule recognises a kind of statement at the start of a line: what replaces it, and the text
after it. -/
structure Rule where
  match? : Text → Option (Text × Text)
  shorter : ∀ s t r, match? s = some (t, r) → r.length < s.length

/-- Whether the text that stands before the rest ends a line. -/
def endsLine (s rest : Text) : Bool := (s.take (s.length - rest.length)).getLast? == some '\n'

/-- Applies a rule wherever a line starts; `atStart` tells whether one starts here. -/
def replaceLines (rule : Rule) (atStart : Bool) (s : Text) : Text :=
  match _h : if atStart then rule.match? s else none with
  | some (t, rest) => t ++ replaceLines rule (endsLine s rest) rest
  | none =>
    match s with
    | [] => []
    | c :: r => c :: replaceLines rule (c == '\n') r
termination_by s.length
decreasing_by
  · split at _h
    · exact rule.shorter _ _ _ _h
    · cases _h
  · simp

theorem replaceLines_match {rule : Rule} {s t rest : Text} (h : rule.match? s = some (t, rest)) :
    replaceLines rule true s = t ++ replaceLines rule (endsLine s rest) rest := by
  have hs : (if true then rule.match? s else none) = some (t, rest) := by simpa using h
  rw [replaceLines]
  split
  · next h' => rw [hs] at h'; cases h'; rfl
  · next h' => rw [hs] at h'; cases h'

theorem replaceLines_skip {rule : Rule} {atStart : Bool} {c : Char} {r : Text}
    (h : atStart = true → rule.match? (c :: r) = none) :
    replaceLines rule atStart (c :: r) = c :: replaceLines rule (c == '\n') r := by
  have hn : (if atStart then rule.match? (c :: r) else none) = none := by
    split
    · next ha => exact h ha
    · rfl
  rw [replaceLines]
  split
  · next h' => rw [hn] at h'; cases h'
  · rfl

/-! ## The four passes -/

/-- What an import statement becomes: types vanish, and a clause of an unknown shape stays. -/
def replaceImport (statement : Text) (i : Statement.ImportParts) : Text :=
  match Import.ofClause? i.clause i.path with
  | none => statement
  | some bindings =>
    if bindings.typeOnly then i.indent else i.indent ++ bindings.render i.attributes

/-- Import statements become dynamic imports. -/
def importRule : Rule where
  match? s := (Statement.import? s).map fun (i, rest) =>
    (replaceImport (s.take (s.length - rest.length)) i, rest)
  shorter s t r h := by
    obtain ⟨⟨i, rest⟩, hi, h⟩ := Option.map_eq_some_iff.1 h
    cases h
    exact Statement.import?_length hi

/-- A rule that takes statements away. -/
def removal (rest? : Text → Option Text)
    (shorter : ∀ {s r}, rest? s = some r → r.length < s.length) : Rule where
  match? s := (rest? s).map fun rest => ([], rest)
  shorter s t r h := by
    obtain ⟨rest, hr, h⟩ := Option.map_eq_some_iff.1 h
    cases h
    exact shorter hr

/-- Exports from another module vanish. -/
def reexportRule : Rule := removal Statement.reexport? Statement.reexport?_length

/-- Export lists vanish. -/
def exportListRule : Rule := removal Statement.exportList? Statement.exportList?_length

/-- Of other exports only the keywords vanish; the indentation stays. -/
def exportKeywordRule : Rule where
  match? s := (Statement.exportKeyword? s).map fun rest => (s.takeWhile Text.isIndent, rest)
  shorter s t r h := by
    obtain ⟨rest, hr, h⟩ := Option.map_eq_some_iff.1 h
    cases h
    exact Statement.exportKeyword?_length hr

/-- The rules in the order in which they are applied. -/
def rules : List Rule := [importRule, reexportRule, exportListRule, exportKeywordRule]

/-- The script that a module is turned into: what a script may not hold is replaced or gone. -/
def transform (source : Text) : Text := rules.foldl (fun s rule => replaceLines rule true s) source

end ReplDriver.Module
