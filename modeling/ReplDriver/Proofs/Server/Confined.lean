import ReplDriver.Proofs.Server.Requests
import ReplDriver.Server.Basic

/-!
# Requests that concern one session

All sessions of the server share one registry, one clock and one machine. Still, a request to an
open session is confined to it: it leaves what belongs to any other session as it is, and what comes
of it depends on what belongs to its own session alone. This is put together from the operations of
a workspace, which are private to it, and from the few steps that the server takes around them.

* `Server.Confined.bind`, `Server.Confined.answering`: sequences and answers to failures are
  confined if their parts are.
* `Server.confined_atWorkspace`, `Server.confined_endSession`: the steps of the server.
* `Server.handleMessage_apart`, `Server.handleMessage_alike`: requests to an open session are
  confined to it.
* `Server.keeps_handleMessage`: what holds of the server before any request holds afterwards.
-/

namespace ReplDriver.Server

open World
open Protocol (Response members status)

/-! ## What belongs to a session -/

/-- What belongs to a session of the server: its workspace, if it is open, and the share of the
world that the name of its REPL session has. -/
structure View where
  workspace : Option Workspace
  share : Share

/-- The name of the REPL session of a session. -/
def sessionName (s : Server) (id : Text) : Text := (s.settingsFor id).sessionName

/-- What belongs to a session. -/
def view (s : Server) (id : Text) : View := ⟨s.workspace? id, s.world.share (s.sessionName id)⟩

theorem sessionName_ne {s : Server} {id other : Text} (h : other ≠ id) :
    s.sessionName other ≠ s.sessionName id := fun heq => h (List.append_cancel_left heq)

theorem sessionName_eq {s t : Server} (h : t.settings = s.settings) (id : Text) :
    t.sessionName id = s.sessionName id := by
  rw [sessionName, settingsFor, h]
  rfl

/-- What holds of every server that can be reached: its world is timely, and its workspaces have
the settings that they were made with. -/
structure Proper (s : Server) : Prop where
  world : s.world.Timely
  poll : ∃ τ, s.settings.pollInterval = .finite τ
  workspaces : ∀ id w, s.workspace? id = some w → w.settings = s.settingsFor id ∧ w.Timely

/-- Two servers agree on what belongs to a session, and on all that work for it depends on. -/
structure Alike (id : Text) (s t : Server) : Prop where
  left : s.Proper
  right : t.Proper
  name : t.sessionName id = s.sessionName id
  workspace : t.workspace? id = s.workspace? id
  world : World.Alike (s.sessionName id) s.world t.world

theorem Alike.refl {s : Server} (h : s.Proper) (id : Text) : Alike id s s :=
  ⟨h, h, rfl, rfl, ⟨h.world, h.world, rfl, rfl, rfl, rfl, rfl, rfl⟩⟩

theorem Alike.view {id : Text} {s t : Server} (h : Alike id s t) : t.view id = s.view id := by
  rw [Server.view, Server.view, h.workspace, h.name, h.world.share]

/-- Nothing has changed that concerns any other session. -/
structure Apart (id : Text) (s s' : Server) : Prop where
  settings : s'.settings = s.settings
  workspaces : ∀ other, other ≠ id → s'.workspace? other = s.workspace? other
  world : Elsewhere (s.sessionName id) s.world s'.world

theorem Apart.refl (id : Text) (s : Server) : Apart id s s := ⟨rfl, fun _ _ => rfl, .refl _ _⟩

theorem Apart.trans {id : Text} {s s' s'' : Server} (h : Apart id s s') (h' : Apart id s' s'') :
    Apart id s s'' where
  settings := h'.settings.trans h.settings
  workspaces other hne := (h'.workspaces other hne).trans (h.workspaces other hne)
  world := by
    have hworld := h'.world
    rw [sessionName_eq h.settings] at hworld
    exact h.world.trans hworld

/-- Servers that agree on another session still do. -/
theorem Apart.alike {id other : Text} {s s' t : Server} (h : Apart other s s') (hs' : s'.Proper)
    (hst : Alike id s t) (hne : id ≠ other) : Alike id s' t where
  left := hs'
  right := hst.right
  name := by rw [hst.name, sessionName_eq h.settings]
  workspace := by rw [h.workspaces id hne, hst.workspace]
  world := by
    rw [sessionName_eq h.settings]
    exact h.world.alike hs'.world hst.world (sessionName_ne hne)

/-- What belongs to the other sessions is left as it is. -/
theorem Apart.view {id other : Text} {s s' : Server} (h : Apart id s s') (hne : other ≠ id) :
    s'.view other = s.view other := by
  rw [Server.view, Server.view, h.workspaces other hne, sessionName_eq h.settings,
    h.world.share _ (sessionName_ne hne)]

/-! ## Operations that concern one session -/

/-- An operation that concerns one session only: it changes no other, and ends alike where what
belongs to the session is the same. -/
structure Confined (id : Text) {α : Type} (act : Op Server α) : Prop where
  apart : ∀ {s : Server}, s.Proper → Apart id s (act s).2
  paired : ∀ {s t : Server}, Alike id s t →
    Op.Paired (Alike id) (fun a b _ _ => a = b) (act s) (act t)

section
variable {id : Text} {α β : Type} {act : Op Server α}

/-- Such an operation leaves a proper server. -/
theorem Confined.proper (h : Confined id act) {s : Server} (hs : s.Proper) : (act s).2.Proper := by
  have hpaired := h.paired (Alike.refl hs id)
  generalize act s = r at hpaired ⊢
  cases hpaired with
  | ok hR _ => exact hR.left
  | error hR f => exact hR.left

theorem Confined.ofExcept (outcome : Except Failure α) : Confined id (Op.ofExcept outcome) where
  apart _ := .refl id _
  paired h := by
    cases outcome with
    | ok a => exact .ok h rfl
    | error f => exact .error h f

theorem Confined.pure (a : α) : Confined id (Pure.pure a : Op Server α) := .ofExcept (.ok a)

theorem Confined.bind {k : α → Op Server β} (h : Confined id act) (hk : ∀ a, Confined id (k a)) :
    Confined id (act >>= k) where
  apart {s} hs := by
    have hapart := h.apart hs
    have hproper := h.proper hs
    rcases hact : act s with ⟨f | a, s'⟩ <;> rw [hact] at hapart hproper
    · rw [Op.bind_error hact]
      exact hapart
    · rw [Op.bind_ok hact]
      exact hapart.trans ((hk a).apart hproper)
  paired hst := .bind (h.paired hst) fun a b _ _ hst' hab => by
    cases hab
    exact (hk a).paired hst'

theorem Confined.answering {answer : Failure → Option (Op Server α)} (h : Confined id act)
    (hanswer : ∀ f other, answer f = some other → Confined id other) :
    Confined id (Op.answering act answer) where
  apart {s} hs := by
    have hapart := h.apart hs
    have hproper := h.proper hs
    obtain heq | ⟨f, other, s', hact, hother, heq⟩ := Op.answering_cases act answer s <;> rw [heq]
    · exact hapart
    · rw [hact] at hapart hproper
      exact hapart.trans ((hanswer f other hother).apart hproper)
  paired hst := (h.paired hst).answering fun f other _ _ hother hR =>
    (hanswer f other hother).paired hR

end

/-! ## The steps of the server -/

section
variable {id : Text} {α : Type} {s t : Server}

/-- Proper servers whose worlds change stay proper. -/
theorem Proper.withWorld (h : s.Proper) {w : World} (hw : w.Timely) :
    Proper { s with world := w } :=
  ⟨hw, h.poll, h.workspaces⟩

theorem Alike.withWorld (h : Alike id s t) {w w' : World}
    (hw : World.Alike (s.sessionName id) w w') :
    Alike id { s with world := w } { t with world := w' } :=
  ⟨h.left.withWorld hw.left, h.right.withWorld hw.right, h.name, h.workspace, hw⟩

/-- An operation on the world that ends alike leaves servers alike. -/
theorem paired_onWorld {act : Op World α} {Q : α → α → World → World → Prop} (h : Alike id s t)
    (hact : Op.Paired (World.Alike (s.sessionName id)) Q (act s.world) (act t.world)) :
    Op.Paired (Alike id) (fun a b s' t' => Q a b s'.world t'.world) (onWorld act s)
      (onWorld act t) := hact.zoom h.withWorld fun hQ => hQ

/-- Notes concern no session. -/
theorem confined_note (n : Note) : Confined id (note n) where
  apart {s} _ := ⟨rfl, fun _ _ => rfl, (beside_record s.world n).elsewhere _⟩
  paired h := (paired_onWorld h (h.world.note n n)).mono fun _ _ _ _ _ _ => rfl

theorem lookup_replaceWorkspace (workspaces : List (Text × Workspace)) (id other : Text)
    (w : Workspace) :
    (replaceWorkspace workspaces id w).lookup other =
      (workspaces.lookup other).map fun v => if other = id then w else v := by
  induction workspaces with
  | nil => rfl
  | cons entry rest ih =>
    obtain ⟨k, v⟩ := entry
    show (((k, if k = id then w else v) :: replaceWorkspace rest id w).lookup other) = _
    rw [List.lookup_cons, List.lookup_cons, ih]
    split
    · next heq =>
      have hk : other = k := by simpa using heq
      rw [hk]
      rfl
    · rfl

/-- The server after work at the workspace of a session. -/
def leave (s : Server) (id : Text) (seat : Seat) : Server :=
  { s with workspaces := replaceWorkspace s.workspaces id seat.workspace, world := seat.world }

theorem atWorkspace_none (h : s.workspace? id = none) (act : Op Seat α) :
    atWorkspace id act s = (.error (.stopped "no such session"), s) := by
  simp only [atWorkspace, h]

theorem atWorkspace_some {w : Workspace} (h : s.workspace? id = some w) (act : Op Seat α) :
    atWorkspace id act s = ((act ⟨w, s.world⟩).1, s.leave id (act ⟨w, s.world⟩).2) := by
  simp only [atWorkspace, h]
  rfl

theorem workspace?_leave {w : Workspace} (h : s.workspace? id = some w) (seat : Seat) :
    (s.leave id seat).workspace? id = some seat.workspace := by
  show (replaceWorkspace s.workspaces id seat.workspace).lookup id = _
  have hlookup : s.workspaces.lookup id = some w := h
  rw [lookup_replaceWorkspace, hlookup, Option.map_some, if_pos rfl]

theorem workspace?_leave_of_ne {other : Text} (hne : other ≠ id) (seat : Seat) :
    (s.leave id seat).workspace? other = s.workspace? other := by
  show (replaceWorkspace s.workspaces id seat.workspace).lookup other = s.workspaces.lookup other
  rw [lookup_replaceWorkspace]
  simp only [if_neg hne, Option.map_id']

theorem Proper.leave (h : s.Proper) {w : Workspace} (hw : s.workspace? id = some w) {seat : Seat}
    (hworld : seat.world.Timely) (hsettings : seat.workspace.settings = w.settings)
    (htimely : seat.workspace.Timely) : (s.leave id seat).Proper where
  world := hworld
  poll := h.poll
  workspaces other v hv := by
    by_cases hother : other = id
    · subst hother
      rw [workspace?_leave hw] at hv
      cases hv
      exact ⟨hsettings.trans (h.workspaces other w hw).1, htimely⟩
    · rw [workspace?_leave_of_ne hother] at hv
      exact h.workspaces other v hv

/-- Servers that are alike for a session stay so if the session is left alike on both. -/
theorem Alike.leave (h : Alike id s t) {w : Workspace} (hw : s.workspace? id = some w)
    {seat seat' : Seat} (hsettings : seat.workspace.settings = w.settings)
    (hseats : Seat.Alike seat seat') : Alike id (s.leave id seat) (t.leave id seat') := by
  have hw' : t.workspace? id = some w := h.workspace.trans hw
  have hsettings' : seat'.workspace.settings = w.settings := by
    rw [hseats.workspace]
    exact hsettings
  have hname : w.settings.sessionName = s.sessionName id := by
    rw [(h.left.workspaces id w hw).1]
    rfl
  have hworld := hseats.world
  rw [Seat.name, hsettings, hname] at hworld
  refine ⟨h.left.leave hw hworld.left hsettings hseats.timely, ?_, h.name, ?_, hworld⟩
  · refine h.right.leave hw' hworld.right hsettings' ?_
    rw [hseats.workspace]
    exact hseats.timely
  · rw [workspace?_leave hw, workspace?_leave hw', hseats.workspace]

/-- What is private to the workspace of a session is confined to the session. -/
theorem confined_atWorkspace {act : Op Seat α} (hact : Seat.Private act) :
    Confined id (atWorkspace id act) where
  apart {s} hs := by
    rcases hw : s.workspace? id with _ | w
    · rw [atWorkspace_none hw]
      exact .refl id s
    · obtain ⟨es, hdoes, -⟩ := hact.traced (s := ⟨w, s.world⟩) hs.world.sound
      have hname : Seat.name ⟨w, s.world⟩ = s.sessionName id := by
        rw [Seat.name, (hs.workspaces id w hw).1]
        rfl
      have hmoves := hdoes.moves
      rw [hname] at hmoves
      rw [atWorkspace_some hw]
      exact ⟨rfl, fun other hne => workspace?_leave_of_ne hne _,
        hmoves.elsewhere hs.world.sound⟩
  paired {s t} h := by
    rcases hw : s.workspace? id with _ | w
    · rw [atWorkspace_none hw, atWorkspace_none (h.workspace.trans hw)]
      exact .error h _
    · have hname : Seat.name ⟨w, s.world⟩ = s.sessionName id := by
        rw [Seat.name, (h.left.workspaces id w hw).1]
        rfl
      have hseats : Seat.Alike ⟨w, s.world⟩ ⟨w, t.world⟩ :=
        ⟨rfl, (h.left.workspaces id w hw).2, by rw [hname]; exact h.world⟩
      obtain ⟨es, hdoes, -⟩ := hact.traced (s := ⟨w, s.world⟩) h.left.world.sound
      have hsettings := hdoes.settings
      have hpaired := hact.paired hseats
      rw [atWorkspace_some hw, atWorkspace_some (h.workspace.trans hw)]
      rcases hs' : act ⟨w, s.world⟩ with ⟨outcome, seat⟩
      rcases ht' : act ⟨w, t.world⟩ with ⟨outcome', seat'⟩
      rw [hs', ht'] at hpaired
      rw [hs'] at hsettings
      cases hpaired with
      | ok hR hab => exact .ok (h.leave hw hsettings hR) hab
      | error hR f => exact .error (h.leave hw hsettings hR) f

/-! ### Ending a session -/

/-- The server with a session taken out. -/
def without (s : Server) (id : Text) : Server :=
  { s with workspaces := s.workspaces.filter fun (k, _) => k != id }

theorem workspace?_without (s : Server) (id other : Text) :
    (s.without id).workspace? other = if other = id then none else s.workspace? other :=
  lookup_filter_ne s.workspaces id other

theorem endSession_some {w : Workspace} (h : s.workspace? id = some w) :
    endSession id s = onWorld (Registry.remove w.settings.sessionName) (s.without id) := by
  rw [endSession, Op.get_bind, h]
  rfl

theorem endSession_none (h : s.workspace? id = none) : endSession id s = (.ok (), s) := by
  rw [endSession, Op.get_bind, h]
  rfl

theorem Proper.without (h : s.Proper) (id : Text) : (s.without id).Proper where
  world := h.world
  poll := h.poll
  workspaces other w hw := by
    rw [workspace?_without] at hw
    split at hw
    · cases hw
    · exact h.workspaces other w hw

/-- Ending a session is confined to it. -/
theorem confined_endSession (id : Text) : Confined id (endSession id) where
  apart {s} hs := by
    rcases hw : s.workspace? id with _ | w
    · rw [endSession_none hw]
      exact .refl id s
    · have hname : w.settings.sessionName = s.sessionName id := by
        rw [(hs.workspaces id w hw).1]
        rfl
      obtain ⟨es, hmoves, -⟩ := Registry.traced_remove hs.world.sound (s.sessionName id)
      rw [endSession_some hw, hname]
      refine ⟨rfl, fun other hne => ?_, hmoves.elsewhere hs.world.sound⟩
      show (s.without id).workspace? other = _
      rw [workspace?_without, if_neg hne]
  paired {s t} h := by
    have hsame := h.workspace
    rcases hw : s.workspace? id with _ | w <;> rw [hw] at hsame
    · rw [endSession_none hw, endSession_none hsame]
      exact .ok h rfl
    · have hname : w.settings.sessionName = s.sessionName id := by
        rw [(h.left.workspaces id w hw).1]
        rfl
      have hwithout : Alike id (s.without id) (t.without id) :=
        ⟨h.left.without id, h.right.without id, h.name,
          by rw [workspace?_without, workspace?_without, if_pos rfl, if_pos rfl], h.world⟩
      rw [endSession_some hw, endSession_some hsame, hname]
      exact (paired_onWorld hwithout (Registry.paired_remove h.world)).mono fun _ _ _ _ _ _ => rfl

/-! ## Requests to an open session -/

section
variable {op : Json} {begun response : Response} {f : Failure} {act : Op Server Response}
  {s s' : Server}

/-- A response is given as it is. -/
theorem answering_ok (h : act s = (.ok response, s')) :
    Server.answering op begun act s = (.ok response, s') := Op.answering_ok h

/-- A failure that is answered is noted, and told in the response. -/
theorem answering_answered (h : act s = (.error f, s')) (hf : isAnswered f = true) :
    Server.answering op begun act s =
      (.ok (begun ++ Protocol.ofFailure f), (note (.requestFailed op f) s').2) := by
  unfold Server.answering
  rw [Op.answering_some h (if_pos hf)]
  rfl

/-- Any other is passed on. -/
theorem answering_thrown (h : act s = (.error f, s')) (hf : isAnswered f = false) :
    Server.answering op begun act s = (.error f, s') :=
  Op.answering_none h (if_neg (Bool.eq_false_iff.mp hf))

/-- All that is done about a failure is to take a note. -/
theorem answering_cases (op : Json) (begun : Response) (act : Op Server Response) (s : Server) :
    Server.answering op begun act s = act s ∨
      ∃ f s', act s = (.error f, s') ∧
        (Server.answering op begun act s).2 = (note (.requestFailed op f) s').2 := by
  rcases hact : act s with ⟨f | response, s'⟩
  · by_cases hf : isAnswered f = true
    · exact .inr ⟨f, s', rfl, by rw [answering_answered hact hf]⟩
    · exact .inl (answering_thrown hact (Bool.eq_false_iff.mpr hf))
  · exact .inl (answering_ok hact)

end

/-- Failures are answered within the session. -/
theorem confined_answering {op : Json} {begun : Response} {act : Op Server Response}
    (h : Confined id act) : Confined id (Server.answering op begun act) := by
  refine h.answering fun f other hother => ?_
  split at hother
  · cases hother
    exact .bind (confined_note _) fun _ => .pure _
  · cases hother

theorem closeSession_text (id : Text) : closeSession (.text id) = endSession id := by
  funext s
  rw [closeSession, Op.get_bind]
  simp only [isName, Bool.not_true, Bool.and_false, Bool.false_and]
  rfl

/-- A session that is open is found by its name. -/
theorem getOrCreateSession_open (h : (s.workspace? id).isSome = true) :
    getOrCreateSession (.text id) s = (.ok id, s) := by
  unfold getOrCreateSession
  simp only [isName, Bool.not_true, Bool.and_false]
  show ((get : Op Server Server) >>= fun s =>
    if (s.workspace? id).isSome = true then pure id else createSession) s = _
  rw [Op.get_bind, if_pos h]
  rfl

/-- Carries out a request on a session that is open. -/
def serveOpen (begun : Response) (op : Json) (id : Text) (act : Op Seat Response) :
    Op Server Response :=
  answering op begun <|
    answering op (begun ++ members [("session", .text id)]) do
      return begun ++ members [("session", .text id)] ++ (← atWorkspace id act)

theorem confined_serveOpen (begun : Response) (op : Json) {act : Op Seat Response}
    (hact : Seat.Private act) : Confined id (serveOpen begun op id act) :=
  confined_answering (confined_answering (.bind (confined_atWorkspace hact) fun _ => .pure _))

theorem serveSession_open (h : (s.workspace? id).isSome = true) (begun : Response)
    (op request : Json) (act : Json → Op Seat Response) :
    serveSession begun op (.text id) request act s = serveOpen begun op id (act request) s := by
  exact Op.answering_congr (Op.bind_ok (getOrCreateSession_open h)) _

/-- Every request to an open session but for a new session is carried out by an operation that is
confined to the session. -/
theorem serve_confined (begun : Response) {op : Json} (hop : op ≠ .text "clone") (id : Text)
    (request : Json) :
    ∃ act, Confined id act ∧ ∀ s : Server, (s.workspace? id).isSome = true →
      serve begun op (.text id) request s = act s := by
  have hother : ∃ act, Confined id act ∧ ∀ s : Server, (s.workspace? id).isSome = true →
      serve.other begun op (.text id) request s = act s := by
    unfold serve.other
    rcases hact : Request.operation? op with _ | act
    · exact ⟨_, .pure _, fun _ _ => rfl⟩
    · exact ⟨_, confined_serveOpen begun op (Request.private_operation hact request),
        fun _ h => serveSession_open h begun op request act⟩
  cases op with
  | text word =>
    unfold serve
    simp only
    split
    · next hclone =>
      have hword : word = "clone".toList := by simpa using hclone
      exact absurd (congrArg Json.text hword) hop
    · split
      · rw [closeSession_text]
        exact ⟨_, .bind (confined_note _) fun _ => confined_answering
          (.bind (confined_endSession id) fun _ => .pure _), fun _ _ => rfl⟩
      · split
        · exact ⟨_, .pure _, fun _ _ => rfl⟩
        · exact hother
  | _ => exact hother

end

/-! ## Requests -/

/-- Only three words are known to the server itself. -/
theorem serve_other {op : Json} (begun : Response) (session request : Json)
    (hclone : op ≠ .text "clone".toList) (hclose : op ≠ .text "close".toList)
    (hdescribe : op ≠ .text "describe".toList) :
    serve begun op session request = serve.other begun op session request := by
  cases op with
  | text word =>
    have hword {known : Text} (h : Json.text word ≠ .text known) : ¬(word == known) = true := by
      intro heq
      exact h (congrArg Json.text (beq_iff_eq.mp heq))
    unfold serve
    simp only
    rw [if_neg (hword hclone), if_neg (hword hclose), if_neg (hword hdescribe)]
  | _ => rfl

/-- The session that a request is addressed to, if it names one. -/
def target? (request : Json) : Option Text :=
  match Request.fieldOr request "session" .null with
  | .text id => some id
  | _ => none

/-- The request is addressed to an open session, and does not ask for a new one. -/
structure Addresses (s : Server) (id : Text) (request : Json) : Prop where
  target : target? request = some id
  isOpen : (s.workspace? id).isSome = true
  op : Request.fieldOr request "op" .null ≠ .text "clone"

/-- A request that is addressed to an open session is carried out by an operation that is confined
to the session, on every server where the session is open. -/
theorem Addresses.confined {s : Server} {id : Text} {request : Json} (h : Addresses s id request) :
    ∃ act, Confined id act ∧ ∀ t : Server, (t.workspace? id).isSome = true →
      handleMessage request t = act t := by
  have hsession : Request.fieldOr request "session" .null = .text id := by
    have htarget := h.target
    unfold target? at htarget
    split at htarget
    · next hfield =>
      cases htarget
      exact hfield
    · cases htarget
  obtain ⟨act, hact, hserve⟩ := serve_confined
    (members [("id", Request.fieldOr request "id" .null)]) h.op id request
  refine ⟨note (.message (Request.fieldOr request "op" .null) (.text id)
      (Request.fieldOr request "id" .null)) >>= fun _ => act >>= fun response =>
    note (.response (.object response)) >>= fun _ => pure response,
    .bind (confined_note _) fun _ => .bind hact fun _ => .bind (confined_note _) fun _ => .pure _,
    fun t hopen => ?_⟩
  unfold handleMessage
  simp only [hsession]
  have hnote (n : Note) : note n t = (.ok (), { t with world := t.world.record n }) := rfl
  rw [Op.bind_ok (hnote _), Op.bind_ok (hnote _)]
  exact Op.bind_congr (hserve { t with world := t.world.record _ } hopen) _

/-- A request to an open session changes no other session. -/
theorem handleMessage_apart {s : Server} {id : Text} {request : Json} (hs : s.Proper)
    (h : Addresses s id request) : Apart id s (handleMessage request s).2 := by
  obtain ⟨act, hact, hhandle⟩ := h.confined
  rw [hhandle s h.isOpen]
  exact hact.apart hs

/-- A request to an open session ends alike on servers that are alike for the session. -/
theorem handleMessage_alike {s t : Server} {id : Text} {request : Json} (hst : Alike id s t)
    (h : Addresses s id request) :
    (handleMessage request t).1 = (handleMessage request s).1 ∧
      Alike id (handleMessage request s).2 (handleMessage request t).2 := by
  obtain ⟨act, hact, hhandle⟩ := h.confined
  rw [hhandle s h.isOpen, hhandle t (by rw [hst.workspace]; exact h.isOpen)]
  exact (hact.paired hst).same

/-! ## Every request -/

/-- The operation leaves a proper server. -/
structure Keeps {α : Type} (act : Op Server α) : Prop where
  proper : ∀ {s : Server}, s.Proper → (act s).2.Proper

section
variable {α β : Type} {id : Text} {act : Op Server α}

theorem Confined.keeps (h : Confined id act) : Keeps act := ⟨h.proper⟩

theorem Keeps.bind {k : α → Op Server β} (h : Keeps act) (hk : ∀ a, Keeps (k a)) :
    Keeps (act >>= k) where
  proper {s} hs := by
    have hproper := h.proper hs
    rcases hact : act s with ⟨f | a, s'⟩ <;> rw [hact] at hproper
    · rw [Op.bind_error hact]
      exact hproper
    · rw [Op.bind_ok hact]
      exact (hk a).proper hproper

theorem keeps_ofExcept (outcome : Except Failure α) : Keeps (Op.ofExcept outcome) := ⟨fun h => h⟩

theorem keeps_note (n : Note) : Keeps (note n) :=
  (show Confined [] (note n) from confined_note n).keeps

theorem Keeps.answering {op : Json} {begun : Response} {act : Op Server Response} (h : Keeps act) :
    Keeps (Server.answering op begun act) where
  proper {s} hs := by
    have hproper := h.proper hs
    obtain heq | ⟨f, s', hact, heq⟩ := answering_cases op begun act s <;> rw [heq]
    · exact hproper
    · rw [hact] at hproper
      exact (keeps_note _).proper hproper

/-- The open sessions after one has been made. A session that is open already stays as it is. -/
theorem workspace?_createSession (s : Server) (id : Text) :
    (createSession s).2.workspace? id = (s.workspace? id).or
      (if id = s.identifier s.issued then some (.new (s.settingsFor id) none) else none) := by
  show (s.workspaces ++ [(s.identifier s.issued,
    Workspace.new (s.settingsFor (s.identifier s.issued)) none)]).lookup id = _
  rw [List.lookup_append, List.lookup_cons]
  split
  · next heq =>
    have hid : id = s.identifier s.issued := by simpa using heq
    rw [if_pos hid, hid]
    rfl
  · next hne => rw [if_neg (by simpa using hne), List.lookup_nil]; rfl

/-- A new session has the settings that it is made with. -/
theorem keeps_createSession : Keeps createSession where
  proper {s} hs := by
    refine ⟨hs.world, hs.poll, fun id w hw => ?_⟩
    rw [workspace?_createSession] at hw
    rcases hold : s.workspace? id with _ | v
    · rw [hold, Option.none_or] at hw
      split at hw <;> cases hw
      exact ⟨rfl, hs.poll, hs.poll⟩
    · rw [hold, Option.some_or] at hw
      exact hs.workspaces id w (hold.trans hw)

theorem keeps_getOrCreateSession (session : Json) : Keeps (getOrCreateSession session) := by
  unfold getOrCreateSession
  simp only
  split
  · exact keeps_ofExcept (.error _)
  · split
    · constructor
      intro s hs
      rw [Op.get_bind]
      split
      · exact hs
      · exact keeps_createSession.proper hs
    · exact keeps_createSession

theorem keeps_closeSession (session : Json) : Keeps (closeSession session) := by
  cases session with
  | text id =>
    rw [closeSession_text]
    exact (confined_endSession id).keeps
  | _ =>
    constructor
    intro s hs
    unfold closeSession
    rw [Op.get_bind]
    simp only
    split
    · exact hs
    · exact hs

theorem keeps_serveSession (begun : Response) (op session request : Json)
    {act : Json → Op Seat Response} (hact : Seat.Private (act request)) :
    Keeps (serveSession begun op session request act) :=
  .answering (.bind (keeps_getOrCreateSession session) fun _ =>
    .answering (.bind (confined_atWorkspace hact).keeps fun _ => keeps_ofExcept (.ok _)))

theorem keeps_serve (begun : Response) (op session request : Json) :
    Keeps (serve begun op session request) := by
  have hother : Keeps (serve.other begun op session request) := by
    unfold serve.other
    rcases hact : Request.operation? op with _ | act
    · exact keeps_ofExcept (.ok _)
    · exact keeps_serveSession begun op session request (Request.private_operation hact request)
  cases op with
  | text word =>
    unfold serve
    simp only
    split
    · exact .bind keeps_createSession fun _ => .bind (keeps_note _) fun _ => keeps_ofExcept (.ok _)
    · split
      · exact .bind (keeps_note _) fun _ =>
          .answering (.bind (keeps_closeSession session) fun _ => keeps_ofExcept (.ok _))
      · split
        · exact keeps_ofExcept (.ok _)
        · exact hother
  | _ => exact hother

end

/-- Whatever a request holds, it leaves a proper server. -/
theorem keeps_handleMessage (request : Json) : Keeps (handleMessage request) :=
  .bind (keeps_note _) fun _ => .bind (keeps_serve _ _ _ _) fun _ => .bind (keeps_note _) fun _ =>
    keeps_ofExcept (.ok _)

end ReplDriver.Server
