import ReplDriver.Proofs.Server.Confined
import ReplDriver.Session.Scripted

/-!
# Sessions of the server do not interfere

A request to an open session leaves all other sessions as they are, and is answered by what belongs
to its own session alone. So a session is answered as if nobody had asked anything of any other
session, whatever requests to other sessions come in between.

* `Server.Reachable`: the servers that come of handling requests.
* `Server.sessions_separate`: requests to different sessions do not interfere.
-/

namespace ReplDriver.Server

open World
open Protocol (Response)

/-! ## Servers that can be reached -/

/-- The servers that come of handling requests, whatever these hold. Between requests processes may
exit. Times are exact, and no notes go to a file. -/
inductive Reachable : Server → Prop
  /-- A new server. Its polling interval is a number of seconds: an infinite one and one that is no
  number, which pass the checks of the settings, are left out, as no time can be counted in them. -/
  | begin {host : Text} {portNumber : Int} {portFile : Option Text} {settings : Settings}
      {identifier : Nat → Text} {world : World} (hworld : world.Timely)
      (hpoll : ∃ τ, settings.pollInterval = .finite τ) :
      Reachable (.new host portNumber portFile settings identifier world)
  | handled {s : Server} (h : Reachable s) (request : Json) :
      Reachable (handleMessage request s).2
  | idled {s : Server} {w : World} (h : Reachable s) (hw : Meanwhile s.world w) :
      Reachable { s with world := w }

theorem Reachable.proper {s : Server} (h : Reachable s) : s.Proper := by
  induction h with
  | begin hworld hpoll => exact ⟨hworld, hpoll, fun _ _ => nofun⟩
  | handled _ request ih => exact (keeps_handleMessage request).proper ih
  | idled _ hw ih => exact ih.withWorld (ih.world.meanwhile hw)

/-! ## Requests one after the other -/

/-- Handles requests one after the other. What comes of each is kept together with the session that
it is addressed to. -/
def converse : List Json → Server → List (Option Text × Except Failure Response) × Server
  | [], s => ([], s)
  | request :: rest, s =>
    let (outcome, s') := handleMessage request s
    let (outcomes, s'') := converse rest s'
    ((target? request, outcome) :: outcomes, s'')

theorem converse_cons (request : Json) (rest : List Json) (s : Server) :
    converse (request :: rest) s =
      ((target? request, (handleMessage request s).1) ::
        (converse rest (handleMessage request s).2).1,
        (converse rest (handleMessage request s).2).2) :=
  rfl

/-- The requests are addressed to sessions that are open when the request comes, and none asks for
a new session. -/
inductive Addressed : Server → List Json → Prop
  | nil (s : Server) : Addressed s []
  | cons {s : Server} {id : Text} {request : Json} {rest : List Json} (h : Addresses s id request)
      (hrest : Addressed (handleMessage request s).2 rest) : Addressed s (request :: rest)

/-- The requests that are addressed to one session. -/
def addressedTo (id : Text) (requests : List Json) : List Json :=
  requests.filter fun request => target? request == some id

/-- The outcomes of the requests that are addressed to one session. -/
def outcomesFor (id : Text) (outcomes : List (Option Text × Except Failure Response)) :
    List (Option Text × Except Failure Response) :=
  outcomes.filter fun outcome => outcome.1 == some id

/-- Two servers do the same for a session as long as they get the same requests to it, whatever
requests to other sessions come in between. -/
theorem converse_addressedTo {s t : Server} {requests : List Json} {id : Text}
    (hst : Alike id s t) (h : Addressed s requests) :
    (converse (addressedTo id requests) t).1 = outcomesFor id (converse requests s).1 ∧
      Alike id (converse requests s).2 (converse (addressedTo id requests) t).2 := by
  induction h generalizing t with
  | nil s => exact ⟨rfl, hst⟩
  | @cons s other request rest haddress hrest ih =>
    have htarget := haddress.target
    by_cases hother : other = id
    · -- the request is carried out on both servers
      subst hother
      obtain ⟨houtcome, hafter⟩ := handleMessage_alike hst haddress
      obtain ⟨houtcomes, hlast⟩ := ih hafter
      have hkept : addressedTo other (request :: rest) = request :: addressedTo other rest :=
        List.filter_cons_of_pos (by simp [htarget])
      rw [hkept, converse_cons, converse_cons]
      refine ⟨?_, hlast⟩
      rw [houtcome, houtcomes]
      exact (List.filter_cons_of_pos (by simp [htarget])).symm
    · -- the request is carried out on the one server only, and changes nothing for the session
      have hne : id ≠ other := Ne.symm hother
      have hapart := handleMessage_apart hst.left haddress
      have hproper := (keeps_handleMessage request).proper hst.left
      obtain ⟨houtcomes, hlast⟩ := ih (hapart.alike hproper hst hne)
      have hdropped : addressedTo id (request :: rest) = addressedTo id rest :=
        List.filter_cons_of_neg (by simpa [htarget] using hother)
      rw [hdropped, converse_cons]
      refine ⟨houtcomes.trans ?_, hlast⟩
      exact (List.filter_cons_of_neg (by simpa [htarget] using hother)).symm

/-! ## Separation -/

/-- Two servers run on machines that are the same for a session. -/
structure SameGround (id : Text) (s t : Server) : Prop where
  launch : t.world.launch (t.sessionName id) = s.world.launch (s.sessionName id)
  files : t.world.machine.files = s.world.machine.files
  cwd : t.world.machine.cwd = s.world.machine.cwd
  environment : t.world.machine.environment = s.world.machine.environment
  shell : t.world.machine.shell = s.world.machine.shell

/-- Servers that can be reached are alike for an open session if the same belongs to it. -/
theorem Reachable.alike {s t : Server} (hs : Reachable s) (ht : Reachable t) {id : Text}
    (hground : SameGround id s t) (hview : t.view id = s.view id)
    (hopen : (s.workspace? id).isSome = true) : Alike id s t := by
  have hworkspace : t.workspace? id = s.workspace? id := congrArg View.workspace hview
  obtain ⟨w, hw⟩ := Option.isSome_iff_exists.mp hopen
  have hname : t.sessionName id = s.sessionName id := by
    rw [sessionName, sessionName, ← (hs.proper.workspaces id w hw).1,
      ← (ht.proper.workspaces id w (hworkspace.trans hw)).1]
  have hlaunch := hground.launch
  have hshare : t.world.share (t.sessionName id) = s.world.share (s.sessionName id) :=
    congrArg View.share hview
  rw [hname] at hlaunch hshare
  exact ⟨hs.proper, ht.proper, hname, hworkspace,
    ⟨hs.proper.world, ht.proper.world, hshare, hlaunch, hground.files, hground.cwd,
      hground.environment, hground.shell⟩⟩

/-- On a server that can be reached, sessions do not interfere. A request to an open session leaves
what belongs to any other session as it is. What comes of it, and what belongs to its own session
afterwards, is the same on any other server where the same belongs to the session before. So
whatever requests to open sessions come one after the other, those to one session have the outcomes
that they have without the others, and leave the session the same. -/
theorem sessions_separate {s : Server} (h : Reachable s) :
    (∀ id request, Addresses s id request → ∀ other, other ≠ id →
      (handleMessage request s).2.view other = s.view other) ∧
    (∀ t id request, Reachable t → SameGround id s t → t.view id = s.view id →
      Addresses s id request →
        (handleMessage request t).1 = (handleMessage request s).1 ∧
          (handleMessage request t).2.view id = (handleMessage request s).2.view id) ∧
    ∀ requests, Addressed s requests → ∀ id,
      outcomesFor id (converse requests s).1 = (converse (addressedTo id requests) s).1 ∧
        (converse requests s).2.view id = (converse (addressedTo id requests) s).2.view id := by
  refine ⟨?_, ?_, ?_⟩
  · intro id request haddress other hne
    exact (handleMessage_apart h.proper haddress).view hne
  · intro t id request ht hground hview haddress
    have hst := h.alike ht hground hview haddress.isOpen
    obtain ⟨houtcome, hafter⟩ := handleMessage_alike hst haddress
    exact ⟨houtcome, hafter.view⟩
  · intro requests haddressed id
    obtain ⟨houtcomes, hlast⟩ := converse_addressedTo (.refl h.proper id) haddressed
    exact ⟨houtcomes.symm, hlast.view.symm⟩

/-! ### Two sessions that are used in turns -/

/-- A request for a new session. -/
def cloneRequest : Json := .object [("op".toList, .text "clone")]

/-- A request to a session to evaluate code. -/
def evalRequest (id code : Text) : Json :=
  .object [("op".toList, .text "eval"), ("session".toList, .text id), ("code".toList, .text code)]

/-- A server whose processes echo what is written to them. -/
def echoServer : Server :=
  .new defaultHost defaultPort none { Settings.default [] with pollInterval := .finite 1 }
    (fun n => if n = 0 then "a" else "b")
    (.initial ⟨⟨[]⟩, ⟨1, []⟩, [], fun _ => .noShell, []⟩ (.withInput [] false false)
      (fun _ _ => .runs (.scripted "> " [.output (Terminal.drawPrompt "> ")] [] [])) .exact)

/-- The server with two open sessions. -/
def pairServer : Server :=
  (handleMessage cloneRequest (handleMessage cloneRequest echoServer).2).2

/-- All that happens at a process that echoes is output. -/
theorem only_echoes {E : Event → Prop} (h : ∀ s, E (.output s)) :
    (Behaviour.scripted "> " [.output (Terminal.drawPrompt "> ")] [] []).Only E := by
  refine ⟨fun e he => ?_, fun before written events hrespond e he => ?_, fun events hanswer => ?_⟩
  · cases List.mem_singleton.mp he
    exact h _
  · cases hrespond
    obtain ⟨s, rfl⟩ := Behaviour.mem_plainAnswer he
    exact h s
  · cases hanswer
    exact fun e he => absurd he List.not_mem_nil

theorem reachable_pairServer : Reachable pairServer := by
  have hechoes : (Behaviour.scripted "> " [.output (Terminal.drawPrompt "> ")] [] []).Timely :=
    only_echoes fun _ => trivial
  have hworld : echoServer.world.Timely :=
    ⟨fun _ _ => nofun, ⟨0, rfl⟩, rfl, fun _ _ _ hb => by cases hb; exact hechoes,
      fun _ hs => (List.not_mem_nil hs).elim⟩
  exact .handled (.handled (.begin hworld ⟨1, rfl⟩) _) _

theorem sessions_separate_pairServer :
    (handleMessage (evalRequest "b" "2") pairServer).2.view "a" = pairServer.view "a" ∧
    (handleMessage (evalRequest "a" "1") (handleMessage (evalRequest "b" "2") pairServer).2).1 =
      (handleMessage (evalRequest "a" "1") pairServer).1 ∧
    outcomesFor "a" (converse [evalRequest "a" "1", evalRequest "b" "2", evalRequest "a" "3"]
        pairServer).1 =
      (converse [evalRequest "a" "1", evalRequest "a" "3"] pairServer).1 ∧
    (converse [evalRequest "a" "1", evalRequest "b" "2", evalRequest "a" "3"] pairServer).1.map
        (fun outcome => outcome.2.toOption.isSome) = [true, true, true] := by
  have haddress (s : Server) (id code : Text) (h : (s.workspace? id).isSome = true) :
      Addresses s id (evalRequest id code) := ⟨rfl, h, nofun⟩
  have ha := haddress pairServer "a" "1" (by decide +kernel)
  have hb := haddress pairServer "b" "2" (by decide +kernel)
  obtain ⟨hothers, hown, hruns⟩ := sessions_separate reachable_pairServer
  have hview := hothers "b" _ hb "a" (by decide)
  refine ⟨hview, ?_, ?_, by decide +kernel⟩
  · have hapart := handleMessage_apart reachable_pairServer.proper hb
    have hground : SameGround "a" pairServer (handleMessage (evalRequest "b" "2") pairServer).2 :=
      { launch := by rw [hapart.world.launch, sessionName_eq hapart.settings]
        files := hapart.world.files reachable_pairServer.proper.world.journal
        cwd := hapart.world.cwd
        environment := hapart.world.environment
        shell := hapart.world.shell }
    exact (hown _ "a" _ (reachable_pairServer.handled _) hground hview ha).1
  · refine (hruns _ (.cons ha (.cons (haddress _ "b" "2" ?_) (.cons (haddress _ "a" "3" ?_)
      (.nil _)))) "a").1
    · decide +kernel
    · decide +kernel

end ReplDriver.Server
