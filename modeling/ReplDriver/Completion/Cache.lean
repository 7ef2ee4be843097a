import ReplDriver.Text.Quoted

/-!
# The completion cache

The candidates of the last probe answer a later probe that only extends its text, as long as the
text that is added names no member, call or path: past such a character the REPL would complete
something else. An opening square bracket is not one of these characters.

* `lookup?_eq_some_iff`: exactly when the cache answers, and with what.
-/

namespace ReplDriver

/-- The characters past which candidates no longer hold. -/
def Completion.isBoundary (c : Char) : Bool :=
  c == '.' || c == '(' || c == '/' || c == '\x27' || c == '\x22'

/-- Whether a probe text adds such a character after the cached one. -/
def Completion.crossesBoundary (cached probe : Text) : Bool :=
  (probe.drop cached.length).any isBoundary

/-- The last probe and its candidates, if there is one. -/
structure CompletionCache where
  entry : Option (Text × List Text)
deriving DecidableEq, Repr

namespace CompletionCache

/-- No probe is remembered. -/
def empty : CompletionCache := ⟨none⟩

/-- Remembers a probe in place of the one before. -/
def store (_ : CompletionCache) (probe : Text) (candidates : List Text) : CompletionCache :=
  ⟨some (probe, candidates)⟩

/-- The candidates that hold for a probe. -/
def lookup? (cache : CompletionCache) (probe : Text) : Option (List Text) :=
  match cache.entry with
  | none => none
  | some (cached, candidates) =>
    if probe.startsWith cached && !Completion.crossesBoundary cached probe then some candidates
    else none

/-- How the cache shows in diagnostics. -/
def display (cache : CompletionCache) : Text :=
  let (probe, count) : Text × Nat := match cache.entry with
    | none => ("None", 0)
    | some (cached, candidates) => (cached.quoted, candidates.length)
  "CompletionCache(" ++ probe ++ ", " ++ Text.ofNat count ++ " candidates)"

theorem lookup?_eq_some_iff {cache : CompletionCache} {probe : Text} {candidates : List Text} :
    cache.lookup? probe = some candidates ↔
      ∃ cached added, cache.entry = some (cached, candidates) ∧ probe = cached ++ added ∧
        ∀ c ∈ added, Completion.isBoundary c = false := by
  unfold lookup?
  split
  · next h => simp [h]
  · next cached found h =>
    constructor
    · intro hif
      split at hif
      · next hc =>
        cases hif
        simp only [Bool.and_eq_true, Bool.not_eq_true'] at hc
        obtain ⟨added, ha⟩ := Option.isSome_iff_exists.1 hc.1
        have hp := Text.after?_eq_some.1 ha
        refine ⟨cached, added, h, hp, ?_⟩
        have hx := hc.2
        rw [hp] at hx
        simpa [Completion.crossesBoundary] using hx
      · cases hif
    · rintro ⟨cached', added, he, hp, hb⟩
      rw [h] at he
      cases he
      have hs : probe.startsWith cached = true :=
        Option.isSome_iff_exists.2 ⟨added, Text.after?_eq_some.2 hp⟩
      have hx : Completion.crossesBoundary cached probe = false := by
        rw [hp]
        simpa [Completion.crossesBoundary] using hb
      simp [hs, hx]

end CompletionCache

end ReplDriver
