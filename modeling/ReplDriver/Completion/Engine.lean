import ReplDriver.Completion.Candidates
import ReplDriver.Completion.Context
import ReplDriver.Session.Exchange

/-!
# Asking the REPL for completions

The REPL completes only interactively. A probe types the text and presses Tab twice, since
ambiguous candidates are listed on the second press only, and then erases what was typed. Nothing
of this reaches the transcript. A probe that the cache answers is not typed at all.
-/

namespace ReplDriver.Completion

open Terminal

/-- Types a probe, presses Tab twice, and erases the probe again. -/
def probe (rules : ReplyRules) (text : Text) : Op Desk Text := do
  let first ← Desk.probe rules (text ++ tab)
  let second ← Desk.exchange rules tab false
  let _ ← Desk.exchange rules lineClear false
  return first ++ second

/-- The candidates for a token. -/
def complete (rules : ReplyRules) (token : Text) (inModulePath : Bool) : Op Desk (List Text) := do
  let text := probeText token inModulePath
  match (← get).session.cache.lookup? text with
  | some found => do
    Desk.note (.cacheHit text)
    return found
  | none => do
    let reply ← probe rules text
    let found := candidates reply text
    let found := if inModulePath then found.map withoutLead else found
    Desk.onSession fun s => { s with cache := s.cache.store text found }
    return found

/-- The context at the cursor and the candidates for its token. -/
def completeAt (rules : ReplyRules) (text : Text) (point : Int) :
    Op Desk (Context × List Text) := do
  let context := contextAt text point
  return (context, ← complete rules context.token context.inModulePath)

end ReplDriver.Completion
