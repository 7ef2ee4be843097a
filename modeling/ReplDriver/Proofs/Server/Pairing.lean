import Mathlib
import ReplDriver.Proofs.Operation
import ReplDriver.Server.Client

/-!
# Responses and the calls that get them

A call of the client sends a request with a number of its own and takes the next line of the stream
for the response, whatever id that line carries. A call that is given up while it waits leaves its
response in the stream. So a response belongs to the call that gets it as long as no call has been
given up; after that every call gets the response to an earlier request, as many calls back as were
given up before it.

* `send_eq`: a call sends its request and reads the next line.
* `awaitLine_next`: how a wait for the next line ends, wherever the stream is cut.
* `sendAll_inOrder`: responses come in the order of the requests, those still owed first.
* `response_request`: which request a response belongs to, and when it is that of its own call.
-/

namespace ReplDriver

/-- Setting another key changes nothing about a key. -/
theorem Json.lookup_setMember_of_ne {members : List (Text × Json)} {key other : Text}
    (h : key ≠ other) (value : Json) :
    (Json.setMember members other value).lookup key = members.lookup key := by
  induction members with
  | nil => simp only [Json.setMember, List.lookup_cons, beq_false_of_ne h]
  | cons m rest ih =>
    obtain ⟨k, v⟩ := m
    by_cases hk : k = other
    · subst hk
      simp only [Json.setMember, if_true, List.lookup_cons, beq_false_of_ne h]
    · simp only [Json.setMember, if_neg hk, List.lookup_cons, ih]

/-- Different numbers are written differently. -/
theorem Text.ofNat_injective {m n : Nat} (h : Text.ofNat m = Text.ofNat n) : m = n := by
  have hread := congrArg (Nat.ofDigitChars 10 · 0) h
  simpa only [Text.ofNat, Nat.ofDigitChars_ten_toDigits] using hread

namespace Client

open Connection (lineFeed)

/-! ## One call -/

/-- The members of a request as the client sends them: numbered, and with the session of the client
if the request names none. -/
def labelled (c : Client) (request : List (Text × Json)) : List (Text × Json) :=
  let request := Json.setMember request "id" (.text (Text.ofNat (c.counter + 1)))
  let named := c.session.isTruthy && (request.lookup "session".toList).isNone
  if named then Json.setMember request "session" c.session else request

/-- The client when it has sent a request and waits for the response. -/
def asked (c : Client) (request : List (Text × Json)) : Client :=
  { c with
    counter := c.counter + 1
    sent := c.sent ++ [Json.render (.object (labelled c request)) ++ "\n"] }

/-- Reads the value that a line from the server holds. -/
def readResponse (line : List UInt8) : Op Client Json :=
  match Utf8.decode line with
  | .error fault => throw (.encoding fault)
  | .ok text =>
    match Json.read text with
    | .ok v => return v
    | .error (.tooLong digits) => throw (.integerTooLong digits)
    | .error (.tooDeep innermost) => throw (.nestedTooDeep innermost)
    | .error fault => throw (.json fault)

/-- A call of a client that is connected sends the request and reads the next line. -/
theorem send_eq {c : Client} (hconnected : c.connected = true) (request : List (Text × Json)) :
    send request c = (nextLine >>= readResponse) (asked c request) := by
  unfold send
  rw [Op.get_bind, hconnected]
  rfl

/-- A call leaves what it has sent, and what the wait for the response leaves of the stream. -/
theorem send_state {c : Client} (hconnected : c.connected = true) (request : List (Text × Json)) :
    (send request c).2 = (nextLine (asked c request)).2 := by
  have hread : ∀ line (c : Client), (readResponse line c).2 = c := by
    intro line c
    unfold readResponse
    rcases Utf8.decode line with fault | text
    · rfl
    · dsimp only
      rcases Json.read text with fault | v
      · cases fault <;> rfl
      · rfl
  rw [send_eq hconnected]
  rcases hline : nextLine (asked c request) with ⟨f | line, c'⟩
  · rw [Op.bind_error hline]
  · rw [Op.bind_ok hline, hread]

theorem connected_send {c : Client} (hconnected : c.connected = true)
    (request : List (Text × Json)) : (send request c).2.connected = true := by
  rw [send_state hconnected]
  exact hconnected

/-- A request goes out under the number of its call. -/
theorem lookup_labelled (c : Client) (request : List (Text × Json)) :
    (labelled c request).lookup "id".toList = some (.text (Text.ofNat (c.counter + 1))) := by
  unfold labelled
  dsimp only
  split
  · rw [Json.lookup_setMember_of_ne (by decide)]
    exact Json.lookup_setMember ..
  · exact Json.lookup_setMember ..

/-! ## The next line -/

/-- The bytes that arrive. -/
def arriving : Packets → List UInt8
  | [] => []
  | .ok bytes :: more => bytes ++ arriving more
  | .error _ :: more => arriving more

/-- What a client has not read yet of the stream from the server. -/
def stream (c : Client) : List UInt8 := c.buffer ++ arriving c.incoming

theorem takeLine?_line {line : List UInt8} (hline : lineFeed ∉ line) (rest : List UInt8) :
    takeLine? (line ++ lineFeed :: rest) = some (line, rest) := by
  have hall : ∀ b ∈ line, (b != lineFeed) = true := fun b hb =>
    bne_iff_ne.2 (ne_of_mem_of_not_mem hb hline)
  have hdrop : (line ++ lineFeed :: rest).dropWhile (· != lineFeed) = lineFeed :: rest := by
    rw [List.dropWhile_append_of_pos hall]
    rfl
  unfold takeLine?
  rw [hdrop, List.takeWhile_append_of_pos hall]
  simp

theorem takeLine?_of_not_mem {bytes : List UInt8} (h : lineFeed ∉ bytes) :
    takeLine? bytes = none := by
  rcases htake : takeLine? bytes with _ | ⟨line, rest⟩
  · rfl
  · refine absurd ?_ h
    rw [takeLine?_append htake]
    exact List.mem_append_right line List.mem_cons_self

/-- Why a wait for a line comes to nothing: a packet fails, the stream is ended, or no more comes
although the line is not complete. -/
inductive Broken (bytes : List UInt8) (packets : Packets) : Failure → Prop
  | aborted {f : Failure} (h : .error f ∈ packets) : Broken bytes packets f
  | ended (h : .ok [] ∈ packets) : Broken bytes packets (.stopped "Connection closed")
  | cut (h : lineFeed ∉ bytes) : Broken bytes packets (.stopped "Connection closed")

theorem Broken.mono {bytes : List UInt8} {packets packets' : Packets} {f : Failure}
    (h : Broken bytes packets f) (hpackets : packets ⊆ packets') : Broken bytes packets' f := by
  cases h with
  | aborted h => exact .aborted (hpackets h)
  | ended h => exact .ended (hpackets h)
  | cut h => exact .cut h

/-- The first line of a stream is complete at the end of a buffer, so it is the line that is
taken. -/
theorem takeLine?_prefix {line rest buffer more : List UInt8} (hline : lineFeed ∉ line)
    (hstream : buffer ++ more <+: line ++ lineFeed :: rest) (hbuffer : lineFeed ∈ buffer) :
    ∃ left, takeLine? buffer = some (line, left) ∧ buffer = line ++ lineFeed :: left := by
  obtain ⟨first, left, rfl, hfirst⟩ := List.eq_append_cons_of_mem hbuffer
  obtain ⟨later, hlater⟩ := hstream
  have hsame := takeLine?_line hline rest
  rw [← hlater] at hsame
  simp only [List.append_assoc, List.cons_append, takeLine?_line hfirst] at hsame
  obtain ⟨rfl, -⟩ : first = line ∧ left ++ (more ++ later) = rest := by simpa using hsame
  exact ⟨left, takeLine?_line hline left, rfl⟩

/-- A wait for the next line of a stream is over when the line is complete, wherever the stream is
cut. A wait that comes to nothing leaves the stream as it is. -/
theorem awaitLine_next {line rest buffer : List UInt8} {packets : Packets}
    (hline : lineFeed ∉ line) (hstream : buffer ++ arriving packets <+: line ++ lineFeed :: rest) :
    (∃ buffer' packets', awaitLine buffer packets = (.ok line, buffer', packets') ∧
        buffer ++ arriving packets = line ++ lineFeed :: (buffer' ++ arriving packets') ∧
        packets' ⊆ packets) ∨
      ∃ f buffer' packets', awaitLine buffer packets = (.error f, buffer', packets') ∧
        buffer' ++ arriving packets' = buffer ++ arriving packets ∧
        Broken (buffer ++ arriving packets) packets f ∧ packets' ⊆ packets := by
  induction packets generalizing buffer with
  | nil =>
    by_cases hbuffer : lineFeed ∈ buffer
    · obtain ⟨left, htake, hleft⟩ := takeLine?_prefix hline hstream hbuffer
      refine .inl ⟨left, [], by simp only [awaitLine, htake], ?_, fun _ => id⟩
      simp only [arriving, List.append_nil, hleft]
    · have htake := takeLine?_of_not_mem hbuffer
      refine .inr ⟨_, buffer, [], by simp only [awaitLine, htake], rfl, .cut ?_, fun _ => id⟩
      simpa only [arriving, List.append_nil] using hbuffer
  | cons packet more ih =>
    by_cases hbuffer : lineFeed ∈ buffer
    · obtain ⟨left, htake, hleft⟩ := takeLine?_prefix hline hstream hbuffer
      refine .inl ⟨left, packet :: more, by simp only [awaitLine, htake], ?_, fun _ => id⟩
      rw [hleft]
      simp only [List.append_assoc, List.cons_append]
    have htake := takeLine?_of_not_mem hbuffer
    have hmore : more ⊆ packet :: more := List.subset_cons_self packet more
    cases packet with
    | error f =>
      exact .inr ⟨f, buffer, more, by simp only [awaitLine, htake], rfl,
        .aborted List.mem_cons_self, hmore⟩
    | ok bytes =>
      cases bytes with
      | nil =>
        exact .inr ⟨_, buffer, more, by simp [awaitLine, htake], rfl,
          .ended List.mem_cons_self, hmore⟩
      | cons b bytes =>
        have hawait : awaitLine buffer (.ok (b :: bytes) :: more) =
            awaitLine (buffer ++ b :: bytes) more := by
          rw [awaitLine, htake]
          simp
        have hall : buffer ++ arriving (.ok (b :: bytes) :: more) =
            buffer ++ b :: bytes ++ arriving more := by
          simp only [arriving, List.append_assoc]
        rw [hall] at hstream
        rw [hawait, hall]
        refine (ih hstream).imp ?_ ?_
        · rintro ⟨buffer', packets', houtcome, hsplit, hsub⟩
          exact ⟨buffer', packets', houtcome, hsplit, List.Subset.trans hsub hmore⟩
        · rintro ⟨f, buffer', packets', houtcome, hsame, hbroken, hsub⟩
          exact ⟨f, buffer', packets', houtcome, hsame, hbroken.mono hmore,
            List.Subset.trans hsub hmore⟩

/-! ## Calls in a row -/

/-- A call that is to be made: its request, and the session that the client has then. -/
structure Asking where
  session : Json
  request : List (Text × Json)

/-- A call that is over: the request it has sent, and its outcome. -/
structure Call where
  request : List (Text × Json)
  outcome : Except Failure Json

/-- Whether a call has got no response. -/
def Call.failed (call : Call) : Bool := !call.outcome.isOk

/-- Makes calls one after the other, also after one that has failed. -/
def sendAll : List Asking → Client → List Call × Client
  | [], c => ([], c)
  | a :: rest, c =>
    let c := { c with session := a.session }
    let (outcome, c') := send a.request c
    let (calls, c'') := sendAll rest c'
    (⟨labelled c a.request, outcome⟩ :: calls, c'')

/-- A line is the response to a request: it holds an object with the id of the request. -/
structure Echoes (request : List (Text × Json)) (line : List UInt8) : Prop where
  oneLine : lineFeed ∉ line
  holds : ∃ text members, Utf8.decode line = .ok text ∧ Json.read text = .ok (.object members) ∧
    members.lookup "id".toList = request.lookup "id".toList

theorem Echoes.read {request : List (Text × Json)} {line : List UInt8} (h : Echoes request line) :
    ∃ v, v.member? "id" = request.lookup "id".toList ∧
      ∀ c : Client, readResponse line c = (.ok v, c) := by
  obtain ⟨text, members, hdecode, hread, hid⟩ := h.holds
  refine ⟨.object members, hid, fun c => ?_⟩
  simp only [readResponse, hdecode, hread]
  rfl

/-- A call that waits for a line either gets it, or comes to nothing and leaves it in the stream. -/
theorem send_next {c : Client} (hconnected : c.connected = true) {line rest : List UInt8}
    {first : List (Text × Json)} (hfirst : Echoes first line)
    (hstream : stream c <+: line ++ lineFeed :: rest) (request : List (Text × Json)) :
    (send request c).2.incoming ⊆ c.incoming ∧
      ((∃ v, (send request c).1 = .ok v ∧ v.member? "id" = first.lookup "id".toList ∧
          stream c = line ++ lineFeed :: stream (send request c).2) ∨
        ∃ f, (send request c).1 = .error f ∧ stream (send request c).2 = stream c ∧
          Broken (stream c) c.incoming f) := by
  rw [send_eq hconnected]
  obtain ⟨buffer, packets, hawait, hsplit, hsub⟩ |
    ⟨f, buffer, packets, hawait, hsame, hbroken, hsub⟩ := awaitLine_next hfirst.oneLine hstream
  · obtain ⟨v, hid, hread⟩ := hfirst.read
    have hline : nextLine (asked c request) =
        (.ok line, { asked c request with buffer, incoming := packets }) := by
      simp only [nextLine, asked, hawait]
    rw [Op.bind_ok hline, hread]
    exact ⟨hsub, .inl ⟨v, rfl, hid, hsplit⟩⟩
  · have hline : nextLine (asked c request) =
        (.error f, { asked c request with buffer, incoming := packets }) := by
      simp only [nextLine, asked, hawait]
    rw [Op.bind_error hline]
    exact ⟨hsub, .inr ⟨f, rfl, hsame, hbroken⟩⟩

/-- Calls whose responses come in the order of the requests: a call that returns gets the response
to the first request that is still owed one, and a call that fails leaves its request owed. -/
inductive InOrder (fails : Failure → Prop) : List (List (Text × Json)) → List Call → Prop
  | nil (owed : List (List (Text × Json))) : InOrder fails owed []
  | returned {owed owed' : List (List (Text × Json))} {request first : List (Text × Json)}
      {v : Json} {rest : List Call} (hfirst : owed ++ [request] = first :: owed')
      (hid : v.member? "id" = first.lookup "id".toList) (hrest : InOrder fails owed' rest) :
      InOrder fails owed (⟨request, .ok v⟩ :: rest)
  | failed {owed : List (List (Text × Json))} {request : List (Text × Json)} {f : Failure}
      {rest : List Call} (hf : fails f) (hrest : InOrder fails (owed ++ [request]) rest) :
      InOrder fails owed (⟨request, .error f⟩ :: rest)

theorem InOrder.mono {fails fails' : Failure → Prop} {owed : List (List (Text × Json))}
    {calls : List Call} (h : InOrder fails owed calls) (himp : ∀ f, fails f → fails' f) :
    InOrder fails' owed calls := by
  induction h with
  | nil owed => exact .nil owed
  | returned hfirst hid _ ih => exact .returned hfirst hid ih
  | failed hf _ ih => exact .failed (himp _ hf) ih

/-- Of the requests, those owed a response first, the one that a call gets the response to is the
next after as many as there are calls that have returned before. -/
theorem InOrder.response {fails : Failure → Prop} {owed : List (List (Text × Json))}
    {calls : List Call} (h : InOrder fails owed calls) {i : Nat} {call : Call} {v : Json}
    (hcall : calls[i]? = some call) (hv : call.outcome = .ok v) :
    ∃ first, (owed ++ calls.map Call.request)[(calls.take i).countP (!Call.failed ·)]? =
        some first ∧
      v.member? "id" = first.lookup "id".toList := by
  induction h generalizing i with
  | nil => cases hcall
  | @returned owed owed' request first w rest hfirst hid _ ih =>
    have hqueue : owed ++ (⟨request, .ok w⟩ :: rest : List Call).map Call.request =
        first :: (owed' ++ rest.map Call.request) := by
      rw [List.map_cons, ← List.singleton_append, ← List.append_assoc, hfirst, List.cons_append]
    rw [hqueue]
    cases i with
    | zero =>
      cases hcall
      cases hv
      exact ⟨first, rfl, hid⟩
    | succ i =>
      obtain ⟨earlier, hearlier, hsame⟩ := ih hcall
      refine ⟨earlier, ?_, hsame⟩
      rw [List.take_succ_cons, List.countP_cons_of_pos rfl, List.getElem?_cons_succ]
      exact hearlier
  | @failed owed request f rest _ _ ih =>
    cases i with
    | zero =>
      cases hcall
      cases hv
    | succ i =>
      obtain ⟨earlier, hearlier, hsame⟩ := ih hcall
      refine ⟨earlier, ?_, hsame⟩
      rw [List.take_succ_cons, List.countP_cons_of_neg (by simp [Call.failed, Except.isOk,
        Except.toBool]), List.map_cons, ← List.singleton_append, ← List.append_assoc]
      exact hearlier

theorem InOrder.failure {fails : Failure → Prop} {owed : List (List (Text × Json))}
    {calls : List Call} (h : InOrder fails owed calls) {call : Call} {f : Failure}
    (hcall : call ∈ calls) (hf : call.outcome = .error f) : fails f := by
  induction h with
  | nil => cases hcall
  | returned _ _ _ ih =>
    rcases List.mem_cons.1 hcall with rfl | hrest
    · cases hf
    · exact ih hrest
  | failed hfails _ ih =>
    rcases List.mem_cons.1 hcall with rfl | hrest
    · cases hf
      exact hfails
    · exact ih hrest

/-- Lines of a stream. -/
def joined (lines : List (List UInt8)) : List UInt8 := lines.flatMap (· ++ [lineFeed])

theorem joined_cons (line : List UInt8) (rest : List (List UInt8)) :
    joined (line :: rest) = line ++ lineFeed :: joined rest := by
  simp only [joined, List.flatMap_cons, List.append_assoc, List.singleton_append]

/-- Why calls fail: a packet fails, the stream is ended, or less than the lines arrives. -/
def Misses (lines : List (List UInt8)) (bytes : List UInt8) (packets : Packets) (f : Failure) :
    Prop :=
  .error f ∈ packets ∨
    f = .stopped "Connection closed" ∧ (.ok [] ∈ packets ∨ bytes ≠ joined lines)

theorem Misses.mono {lines : List (List UInt8)} {bytes : List UInt8} {packets packets' : Packets}
    {f : Failure} (h : Misses lines bytes packets' f) (hpackets : packets' ⊆ packets) :
    Misses lines bytes packets f :=
  h.imp (@hpackets _) fun ⟨hf, hwhy⟩ => ⟨hf, hwhy.imp_left (@hpackets _)⟩

/-- What keeps lines from coming keeps them from coming after another line. -/
theorem Misses.cons {line : List UInt8} {lines : List (List UInt8)} {bytes : List UInt8}
    {packets : Packets} {f : Failure} (h : Misses lines bytes packets f) :
    Misses (line :: lines) (line ++ lineFeed :: bytes) packets f := by
  refine h.imp_right fun ⟨hf, hwhy⟩ => ⟨hf, hwhy.imp_right fun hne heq => hne ?_⟩
  rw [joined_cons] at heq
  exact (List.cons.inj (List.append_cancel_left heq)).2

/-- A wait that comes to nothing has missed a line. -/
theorem Broken.misses {line : List UInt8} {lines : List (List UInt8)} {bytes : List UInt8}
    {packets : Packets} {f : Failure} (h : Broken bytes packets f) :
    Misses (line :: lines) bytes packets f := by
  cases h with
  | aborted h => exact .inl h
  | ended h => exact .inr ⟨rfl, .inl h⟩
  | cut h =>
    refine .inr ⟨rfl, .inr fun heq => h ?_⟩
    rw [heq, joined_cons]
    exact List.mem_append_right line List.mem_cons_self

/-- Calls get the lines of the stream in the order of their requests, those that are owed a response
from before coming first. -/
theorem sendAll_inOrder {asking : List Asking} {c : Client} {owed : List (List (Text × Json))}
    {lines : List (List UInt8)} (hconnected : c.connected = true)
    (hlines : List.Forall₂ Echoes (owed ++ (sendAll asking c).1.map Call.request) lines)
    (hstream : stream c <+: joined lines) :
    InOrder (Misses lines (stream c) c.incoming) owed (sendAll asking c).1 := by
  -- the induction is on the calls; `owed` are the requests whose responses are still to come
  induction asking generalizing c owed lines with
  | nil => exact .nil owed
  | cons a rest ih =>
    let now : Client := { c with session := a.session }
    let request := labelled now a.request
    let c' := (send a.request now).2
    have hconnected' : c'.connected = true := connected_send (c := now) hconnected a.request
    have hmake : sendAll (a :: rest) c =
        (⟨request, (send a.request now).1⟩ :: (sendAll rest c').1, (sendAll rest c').2) := rfl
    rw [hmake] at hlines ⊢
    rw [List.map_cons, ← List.singleton_append, ← List.append_assoc] at hlines
    obtain ⟨first, owed', hfirst⟩ := List.exists_cons_of_ne_nil
      (List.append_ne_nil_of_right_ne_nil owed (List.cons_ne_nil request []))
    rw [hfirst, List.cons_append] at hlines
    obtain ⟨line, lines', hecho, hlines', rfl⟩ := List.forall₂_cons_left_iff.1 hlines
    have hnext : stream now <+: line ++ lineFeed :: joined lines' :=
      joined_cons line lines' ▸ hstream
    obtain ⟨hsub, ⟨v, houtcome, hid, hsplit⟩ | ⟨f, houtcome, hsame, hbroken⟩⟩ :=
      send_next (c := now) hconnected hecho hnext a.request
    · have hrest : stream c' <+: joined lines' := by
        rw [hsplit, List.prefix_append_right_inj, List.cons_prefix_cons] at hnext
        exact hnext.2
      rw [houtcome, show stream c = _ from hsplit]
      exact .returned hfirst hid
        ((ih hconnected' hlines' hrest).mono fun f hf => (hf.mono hsub).cons)
    · have howed : List.Forall₂ Echoes (owed ++ [request] ++ (sendAll rest c').1.map Call.request)
          (line :: lines') := by
        rw [hfirst]
        exact .cons hecho hlines'
      have hrest := ih hconnected' howed (hsame ▸ hstream)
      rw [houtcome]
      exact .failed hbroken.misses (hrest.mono fun f hf => hsame ▸ hf.mono hsub)

/-- The requests of calls that are made one after the other are numbered one after the other, and
are what the client has sent. -/
theorem sendAll_requests {asking : List Asking} {c : Client} (hconnected : c.connected = true) :
    (sendAll asking c).2.sent = c.sent ++
        (sendAll asking c).1.map (fun call => Json.render (.object call.request) ++ "\n".toList) ∧
      ∀ (i : Nat) (call : Call), (sendAll asking c).1[i]? = some call →
        call.request.lookup "id".toList = some (.text (Text.ofNat (c.counter + 1 + i))) := by
  induction asking generalizing c with
  | nil => exact ⟨(List.append_nil _).symm, fun i call => nofun⟩
  | cons a rest ih =>
    let now : Client := { c with session := a.session }
    let request := labelled now a.request
    let c' := (send a.request now).2
    have hstate : c' = (nextLine (asked now a.request)).2 := send_state (c := now) hconnected _
    have hmake : sendAll (a :: rest) c =
        (⟨request, (send a.request now).1⟩ :: (sendAll rest c').1, (sendAll rest c').2) := rfl
    have hcounter : c'.counter = c.counter + 1 := hstate ▸ rfl
    have hsent : c'.sent = c.sent ++ [Json.render (.object request) ++ "\n".toList] := hstate ▸ rfl
    have hconnected' : c'.connected = true := connected_send (c := now) hconnected a.request
    obtain ⟨hrest, hnumbers⟩ := ih hconnected'
    rw [hmake]
    refine ⟨?_, fun i call hcall => ?_⟩
    · rw [hrest, hsent, List.map_cons, List.append_assoc, List.singleton_append]
    · cases i with
      | zero =>
        cases hcall
        exact lookup_labelled now a.request
      | succ i =>
        rw [hnumbers i call hcall, hcounter]
        congr 3
        omega

/-- A connected client makes calls one after the other, also after a call that has failed. The
server answers their requests one by one, in order, each with a line that echoes its id, and the
stream brings these lines, cut anywhere. What a call returns is then the response to the request
that was made as many calls before it as have failed by then, so the id is that of its own request
exactly as long as no call has failed. A call fails only where a packet fails to arrive, or where
the connection ends. -/
theorem response_request {asking : List Asking} {c : Client} {lines : List (List UInt8)}
    (hconnected : c.connected = true)
    (hlines : List.Forall₂ Echoes ((sendAll asking c).1.map Call.request) lines)
    (hstream : stream c <+: joined lines) :
    (∀ (i : Nat) (call : Call) (v : Json), (sendAll asking c).1[i]? = some call →
        call.outcome = .ok v →
          (∃ earlier : Call,
            (sendAll asking c).1[i - ((sendAll asking c).1.take i).countP Call.failed]? =
              some earlier ∧ v.member? "id" = earlier.request.lookup "id".toList) ∧
          (v.member? "id" = call.request.lookup "id".toList ↔
            ((sendAll asking c).1.take i).countP Call.failed = 0)) ∧
      (∀ call ∈ (sendAll asking c).1, ∀ f, call.outcome = .error f →
        .error f ∈ c.incoming ∨
          f = .stopped "Connection closed" ∧ (.ok [] ∈ c.incoming ∨ stream c ≠ joined lines)) ∧
      (sendAll asking c).2.sent = c.sent ++
        (sendAll asking c).1.map
          (fun call => Json.render (.object call.request) ++ "\n".toList) := by
  have horder : InOrder (Misses lines (stream c) c.incoming) [] (sendAll asking c).1 :=
    sendAll_inOrder hconnected hlines hstream
  obtain ⟨hsent, hnumbers⟩ := @sendAll_requests asking c hconnected
  refine ⟨fun i call v hcall hv => ?_, fun call hcall f hf => horder.failure hcall hf, hsent⟩
  have hlength : ((sendAll asking c).1.take i).length = i :=
    List.length_take_of_le (Nat.le_of_lt (List.getElem?_eq_some_iff.1 hcall).1)
  have hcount := List.length_eq_countP_add_countP Call.failed (l := (sendAll asking c).1.take i)
  obtain ⟨first, hfirst, hid⟩ := horder.response hcall hv
  rw [List.nil_append, List.getElem?_map, Option.map_eq_some_iff] at hfirst
  obtain ⟨earlier, hearlier, rfl⟩ := hfirst
  -- the calls before that have returned have taken one response each
  have hback : ((sendAll asking c).1.take i).countP (!Call.failed ·) =
      i - ((sendAll asking c).1.take i).countP Call.failed := by
    simp only [hlength, Bool.not_eq_true, Bool.decide_eq_false] at hcount
    omega
  rw [hback] at hearlier
  refine ⟨⟨earlier, hearlier, hid⟩, ?_⟩
  rw [hid, hnumbers _ _ hearlier, hnumbers i call hcall]
  constructor
  · intro hsame
    have := Text.ofNat_injective (Json.text.inj (Option.some.inj hsame))
    omega
  · intro hnone
    rw [hnone, Nat.sub_zero]

/-- Two evaluations in the session that was made when the client connected. -/
def twoEvaluations : List Asking :=
  [⟨.text "s", [("op", .text "eval"), ("code", .text "a")]⟩,
    ⟨.text "s", [("op", .text "eval"), ("code", .text "b")]⟩]

/-- The lines that answer them, their requests having the numbers 2 and 3. -/
def twoResponses : List (List UInt8) :=
  [Utf8.encode "\x7b\"id\": \"2\", \"out\": \"A\"\x7d",
    Utf8.encode "\x7b\"id\": \"3\", \"out\": \"B\"\x7d"]

/-- A client that has made one request. Its wait for the next response is interrupted; then two
responses arrive together. -/
def interruptedClient : Client :=
  { Client.new "127.0.0.1" 7888 none [.error .interrupted, .ok (joined twoResponses)]
      (.initial ⟨⟨[]⟩, ⟨1, []⟩, [], fun _ => .noShell, []⟩ (.withInput [] false false)
        (fun _ _ => .refused "no process") .exact) with connected := true, counter := 1 }

/-- What the evaluations come to: the second one gets the response to the first. -/
def interruptedCalls : List Call :=
  [⟨[("op", .text "eval"), ("code", .text "a"), ("id", .text "2"), ("session", .text "s")],
      .error .interrupted⟩,
    ⟨[("op", .text "eval"), ("code", .text "b"), ("id", .text "3"), ("session", .text "s")],
      .ok (.object [("id", .text "2"), ("out", .text "A")])⟩]

/-- The second evaluation gets the response to the first, because one call has failed by then. -/
theorem response_request_interrupted :
    interruptedClient.connected = true ∧
      List.Forall₂ Echoes ((sendAll twoEvaluations interruptedClient).1.map Call.request)
        twoResponses ∧
      stream interruptedClient <+: joined twoResponses ∧
      ∃ (call earlier : Call) (v : Json),
        (sendAll twoEvaluations interruptedClient).1[1]? = some call ∧ call.outcome = .ok v ∧
        (sendAll twoEvaluations interruptedClient).1[0]? = some earlier ∧
        v.member? "id" = earlier.request.lookup "id".toList ∧
        v.member? "id" ≠ call.request.lookup "id".toList := by
  have hcalls : (sendAll twoEvaluations interruptedClient).1 = interruptedCalls := by cbv
  have hlines : List.Forall₂ Echoes
      ((sendAll twoEvaluations interruptedClient).1.map Call.request) twoResponses := by
    rw [hcalls]
    have hfirst : Json.read "\x7b\"id\": \"2\", \"out\": \"A\"\x7d" =
        .ok (.object [("id", .text "2"), ("out", .text "A")]) := by cbv
    have hsecond : Json.read "\x7b\"id\": \"3\", \"out\": \"B\"\x7d" =
        .ok (.object [("id", .text "3"), ("out", .text "B")]) := by cbv
    exact .cons ⟨by decide +kernel, _, _, by cbv, hfirst, rfl⟩
      (.cons ⟨by decide +kernel, _, _, by cbv, hsecond, rfl⟩ .nil)
  have hstream : stream interruptedClient <+: joined twoResponses := by decide +kernel
  obtain ⟨hresponses, -⟩ := response_request (c := interruptedClient) rfl hlines hstream
  rw [hcalls] at hresponses ⊢
  obtain ⟨⟨earlier, hearlier, hid⟩, hown⟩ := hresponses 1 _ _ rfl rfl
  exact ⟨rfl, hlines, hstream, _, earlier, _, rfl, rfl, hearlier, hid, fun hsame =>
    absurd (hown.1 hsame) Nat.one_ne_zero⟩

end Client

end ReplDriver
