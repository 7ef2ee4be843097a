import ReplDriver.Proofs.Session.Typing
import ReplDriver.Session.Scripted
import ReplDriver.Settings.Basic

/-!
# A probe that is asked for again

A probe is remembered by its text, with the candidates that the request for it returned. One text
can be probed for two kinds of request: as a token, and for the module path that stands in it behind
the opened quote. For a path the candidates are returned without what stands before it, for a token
as the REPL shows them. Which of the two it was is not remembered.

* `Answers`: the REPL answers a probe with a reply.
* `complete_sent`, `complete_recalled`: a completion that asks the REPL, and one that does not.
* `complete_again`: a probe that has just been asked for is answered as the first request was, and
  that is what the REPL would answer exactly if both requests are of one kind or no candidate shows
  what stands before a path.
-/

namespace ReplDriver.Completion

/-! ## One request -/

/-- The REPL answers a probe with a reply, when it is typed at this desk. -/
def Answers (rules : ReplyRules) (text reply : Text) (d : Desk) : Prop :=
  (probe rules text d).1 = .ok reply

/-- What a request returns of the candidates that a reply shows. -/
def returned (inModulePath : Bool) (found : List Text) : List Text :=
  if inModulePath then found.map withoutLead else found

section Request

variable {rules : ReplyRules} {token : Text} {inModulePath : Bool} {d : Desk}

/-- A completion that the cache answers leaves nothing but a note. -/
theorem complete_recalled {found : List Text}
    (h : d.session.cache.lookup? (probeText token inModulePath) = some found) :
    complete rules token inModulePath d =
      (.ok found, { d with notes := .cacheHit (probeText token inModulePath) :: d.notes }) := by
  rw [complete, Op.get_bind, h]
  rfl

/-- A completion that the cache does not answer returns what the reply of the REPL shows, and it
stores what it returns. -/
theorem complete_sent {reply : Text}
    (hmissed : d.session.cache.lookup? (probeText token inModulePath) = none)
    (hanswers : Answers rules (probeText token inModulePath) reply d) :
    ∃ d', complete rules token inModulePath d =
      (.ok (returned inModulePath (candidates reply (probeText token inModulePath))),
        stored d' (probeText token inModulePath)
          (returned inModulePath (candidates reply (probeText token inModulePath)))) := by
  rcases happly : probe rules (probeText token inModulePath) d with ⟨outcome, d'⟩
  obtain rfl : outcome = .ok reply := by
    rw [Answers, happly] at hanswers
    exact hanswers
  refine ⟨d', ?_⟩
  rw [complete, Op.get_bind, hmissed]
  simp only
  rw [Op.bind_ok happly]
  rfl

/-- What has been stored for a probe answers it. -/
theorem lookup?_stored (d : Desk) (text : Text) (found : List Text) :
    (stored d text found).session.cache.lookup? text = some found :=
  CompletionCache.lookup?_eq_some_iff.mpr ⟨text, [], rfl, by simp, by simp⟩

end Request

/-! ## Two requests -/

theorem withoutLead_eq_self_iff {candidate : Text} :
    withoutLead candidate = candidate ↔ ¬ moduleLead <+: candidate := by
  rw [withoutLead]
  rcases hafter : Text.after? moduleLead candidate with _ | rest
  · refine iff_of_true rfl ?_
    rintro ⟨rest, hrest⟩
    rw [Text.after?_eq_some.mpr hrest.symm] at hafter
    cases hafter
  · rw [Text.after?_eq_some] at hafter
    subst hafter
    refine iff_of_false (fun hsame => ?_) (not_not_intro (List.prefix_append ..))
    have hlength := congrArg List.length hsame
    rw [Option.getD_some, List.length_append] at hlength
    have hlead : 0 < moduleLead.length := by decide
    omega

/-- Requests of both kinds return the same exactly if no candidate begins with what stands before a
path. -/
theorem returned_eq_iff {first second : Bool} {found : List Text} :
    returned first found = returned second found ↔
      first = second ∨ ∀ candidate ∈ found, ¬ moduleLead <+: candidate := by
  have hplain :
      found.map withoutLead = found ↔ ∀ candidate ∈ found, ¬ moduleLead <+: candidate := by
    simp only [← withoutLead_eq_self_iff]
    simpa using List.map_inj_left (l := found) (f := withoutLead) (g := id)
  cases first <;> cases second <;> simp [returned, hplain, eq_comm (a := found)]

/-- Two requests for one probe, the second right after the first, before a REPL that answers the
probe with the same reply when it is typed for a desk at which nothing is cached. The second request
returns what the first did, without asking the REPL. If the REPL was asked for the first, this is
what the request returns where nothing is cached exactly if both requests are of one kind or no
candidate that the reply shows begins with what stands before a path. -/
theorem complete_again {rules : ReplyRules} {token token' reply : Text} {path path' : Bool}
    {d e : Desk} (hsame : probeText token' path' = probeText token path)
    (hd : Answers rules (probeText token path) reply d)
    (he : Answers rules (probeText token path) reply e) (hempty : e.session.cache = .empty) :
    let first := complete rules token path d
    let again := complete rules token' path' first.2
    let fresh := complete rules token' path' e
    (∃ found, first.1 = .ok found ∧ again.1 = .ok found ∧ again.2 =
        { first.2 with notes := .cacheHit (probeText token path) :: first.2.notes }) ∧
      fresh.1 = .ok (returned path' (candidates reply (probeText token path))) ∧
      (d.session.cache.lookup? (probeText token path) = none →
        (again.1 = fresh.1 ↔ path = path' ∨
          ∀ candidate ∈ candidates reply (probeText token path), ¬ moduleLead <+: candidate)) := by
  intro first again fresh
  have hagain {found : List Text} (h : first.2.session.cache.lookup? (probeText token path) =
      some found) : again = (.ok found,
        { first.2 with notes := .cacheHit (probeText token path) :: first.2.notes }) := by
    rw [← hsame] at h ⊢
    exact complete_recalled h
  have hfresh : fresh.1 = .ok (returned path' (candidates reply (probeText token path))) := by
    have hmissed : e.session.cache.lookup? (probeText token' path') = none := by
      rw [hempty]
      rfl
    rw [← hsame] at he ⊢
    obtain ⟨e', hsent⟩ := complete_sent hmissed he
    exact congrArg Prod.fst hsent
  rcases hlookup : d.session.cache.lookup? (probeText token path) with _ | kept
  · obtain ⟨d', hsent⟩ := complete_sent hlookup hd
    have hfirst : first.1 = .ok (returned path (candidates reply (probeText token path))) :=
      congrArg Prod.fst hsent
    have hstored : first.2.session.cache.lookup? (probeText token path) =
        some (returned path (candidates reply (probeText token path))) := by
      rw [show first.2 = _ from congrArg Prod.snd hsent]
      exact lookup?_stored ..
    have heq := hagain hstored
    refine ⟨⟨_, hfirst, congrArg Prod.fst heq, congrArg Prod.snd heq⟩, hfresh, fun _ => ?_⟩
    rw [heq, hfresh, Except.ok.injEq, returned_eq_iff]
  · have hfirst : first =
        (.ok kept, { d with notes := .cacheHit (probeText token path) :: d.notes }) :=
      complete_recalled hlookup
    have hkept : first.2.session.cache.lookup? (probeText token path) = some kept := by
      rw [hfirst]
      exact hlookup
    have heq := hagain hkept
    exact ⟨⟨kept, congrArg Prod.fst hfirst, congrArg Prod.fst heq, congrArg Prod.snd heq⟩, hfresh,
      nofun⟩

/-- A REPL with a prompt that completes the path of a module in place. -/
def pathDesk : Desk where
  session := .start "javascript" "node" (.start ⟨[], none, none⟩ (.scripted "> " [] []
    [("require('fs\t", .ok [.output "require('fs/promises"])]))
  clock := .zero .exact
  notes := []

/-- Where `require('fs` has been completed as a token, the path `fs` is completed to what was shown,
but where nothing is cached, to the path alone. -/
theorem complete_again_path :
    let rules : ReplyRules := ⟨"> ", (Settings.default []).pollInterval⟩
    let after := (complete rules "require('fs" false pathDesk).2
    let emptied : Desk := { after with session := { after.session with cache := .empty } }
    Answers rules "require('fs" "require('fs/promises" pathDesk ∧
      Answers rules "require('fs" "require('fs/promises" emptied ∧
      (complete rules "fs" true after).1 = .ok ["require('fs/promises"] ∧
      (complete rules "fs" true emptied).1 = .ok ["fs/promises"] ∧
      (complete rules "fs" true after).1 ≠ (complete rules "fs" true emptied).1 := by
  intro rules after emptied
  have hanswers {d : Desk}
      (h : (probe rules "require('fs" d).1.toOption = some "require('fs/promises".toList) :
      Answers rules "require('fs" "require('fs/promises" d := by
    rw [Answers]
    generalize (probe rules "require('fs" d).1 = outcome at h ⊢
    cases outcome with
    | error f => cases h
    | ok reply => rw [Option.some.inj h]
  have hd := hanswers (d := pathDesk) (by decide +kernel)
  have he := hanswers (d := emptied) (by decide +kernel)
  have hsame : probeText "fs" true = probeText "require('fs" false := by decide
  obtain ⟨⟨found, hfirst, hagain, -⟩, hfresh, hiff⟩ :=
    complete_again hsame hd he rfl
  have hshown : candidates "require('fs/promises" (probeText "require('fs" false) =
      ["require('fs/promises".toList] := by decide +kernel
  have hfound : found = ["require('fs/promises".toList] := by
    have hreturned : (complete rules "require('fs" false pathDesk).1.toOption =
        some ["require('fs/promises".toList] := by decide +kernel
    rw [hfirst] at hreturned
    exact Option.some.inj hreturned
  refine ⟨hd, he, hagain.trans (by rw [hfound]), hfresh.trans ?_, mt (hiff rfl).1 ?_⟩
  · rw [hshown]
    exact congrArg Except.ok (by decide +kernel)
  · rw [hshown]
    decide

end ReplDriver.Completion
