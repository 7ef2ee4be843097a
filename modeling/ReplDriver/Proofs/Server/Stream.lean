import ReplDriver.Proofs.Json.OneLine
import ReplDriver.Proofs.Server.Steps
import ReplDriver.Server.Connection

/-!
# The stream of a client

A client's requests are lines of a stream of bytes, and the stream arrives in packets that are cut
anywhere. Where it is cut makes no difference: the lines of the whole stream are answered one after
the other. Every line that is not blank has one line for its answer, in order, also when it cannot
be read, and what no line end has come for is not answered.

* `Server.serveStream_packets`: serving packets is serving the lines of the stream.
* `Server.answerLine_eq_ok`: how a line is answered.
* `Server.forM_serveLine`: lines are served up to the first that is not answered.
* `Server.handleClient_reassembles`: what a client is sent, and what it leaves of the server.
-/

namespace ReplDriver

namespace Connection

/-! ## Lines -/

/-- A stream that is made of lines has these lines, and what follows the last of them. -/
theorem splitLines_stream {lines : List (List UInt8)} {left : List UInt8}
    (hlines : ∀ line ∈ lines, lineFeed ∉ line) (hleft : lineFeed ∉ left) :
    splitLines ((lines.flatMap fun line => line ++ [lineFeed]) ++ left) = (lines, left) := by
  induction lines with
  | nil =>
    rw [List.flatMap_nil, List.nil_append, splitLines, splitLinesFrom_of_no_lineFeed hleft]
    rfl
  | cons line rest ih =>
    have hline : splitLines (line ++ [lineFeed]) = ([line], []) := by
      rw [splitLines, splitLinesFrom_append,
        splitLinesFrom_of_no_lineFeed (hlines line List.mem_cons_self)]
      simp [splitLinesFrom]
    have hrest := ih fun line h => hlines line (List.mem_cons_of_mem _ h)
    rw [List.flatMap_cons, List.append_assoc, splitLines_append, hline]
    simp only [List.nil_append, hrest, List.singleton_append]

end Connection

namespace Server

open Connection (lineFeed splitLines isBlankByte)
open Protocol (Response)

/-! ## Packets -/

/-- A line is answered in steps of the server. -/
theorem stepwise_answerLine (line : List UInt8) : Stepwise (answerLine line) := by
  unfold answerLine
  split
  · exact stepwise_ofExcept (.ok _)
  · split
    · exact stepwise_ofExcept (.error _)
    · exact stepwise_ofExcept (.error _)
    · exact stepwise_ofExcept (.ok _)
    · exact steps_handleMessage _
    · exact stepwise_ofExcept (.ok _)

/-- Serving a line: a blank one is passed over, and any other is answered. -/
theorem serveLine_eq (line : List UInt8) (x : Exchange) :
    serveLine line x =
      if line.all isBlankByte then (.ok (), x)
      else
        match answerLine line x.server with
        | (.error f, s) => (.error f, { x with server := s })
        | (.ok response, s) =>
          (.ok (), ⟨s, x.sent ++ [Json.render (.object response) ++ "\n"]⟩) := by
  unfold serveLine
  split
  · rfl
  · rcases hanswer : answerLine line x.server with ⟨f | response, s⟩
    · exact Op.bind_error (Op.zoom_apply hanswer)
    · rw [Op.bind_ok (Op.zoom_apply hanswer)]
      rfl

/-- No line stops the server. -/
theorem running_serveLine (line : List UInt8) (x : Exchange) :
    (serveLine line x).2.server.running = x.server.running := by
  have hsteps := (stepwise_answerLine line x.server).fixed.running
  rw [serveLine_eq]
  split
  · rfl
  · rcases hanswer : answerLine line x.server with ⟨f | response, s⟩ <;> rw [hanswer] at hsteps <;>
      exact hsteps

/-- Serves lines, one after the other, up to the first that fails. -/
def serveLines (lines : List (List UInt8)) : Op Exchange Unit := lines.forM serveLine

theorem serveLines_cons (line : List UInt8) (rest : List (List UInt8)) :
    serveLines (line :: rest) = serveLine line >>= fun _ => serveLines rest := rfl

theorem serveLines_append (lines more : List (List UInt8)) (x : Exchange) :
    serveLines (lines ++ more) x = (serveLines lines >>= fun _ => serveLines more) x := by
  induction lines generalizing x with
  | nil => rfl
  | cons line rest ih =>
    rw [List.cons_append, serveLines_cons, serveLines_cons, bind_assoc]
    rcases hline : serveLine line x with ⟨f | u, x'⟩
    · rw [Op.bind_error hline, Op.bind_error hline]
    · rw [Op.bind_ok hline, Op.bind_ok hline, ih x']

theorem running_serveLines (lines : List (List UInt8)) (x : Exchange) :
    (serveLines lines x).2.server.running = x.server.running := by
  induction lines generalizing x with
  | nil => rfl
  | cons line rest ih =>
    have hfirst := running_serveLine line x
    rw [serveLines_cons]
    rcases hline : serveLine line x with ⟨f | u, x'⟩ <;> rw [hline] at hfirst
    · rw [Op.bind_error hline]
      exact hfirst
    · rw [Op.bind_ok hline]
      exact (ih x').trans hfirst

/-- A packet that has come completes some lines, which are served before the rest of the stream. -/
theorem serveStream_cons {left packet : List UInt8} {x : Exchange}
    (hrunning : x.server.running = true) (hpacket : packet ≠ []) (rest : Packets) :
    serveStream left (.ok packet :: rest) x =
      (serveLines (splitLines (left ++ packet)).1 >>= fun _ =>
        serveStream (splitLines (left ++ packet)).2 rest) x := by
  have hsome : packet.isEmpty = false := List.isEmpty_eq_false_iff.mpr hpacket
  have hbytes : Op.ofExcept (.ok packet) x = (.ok packet, x) := rfl
  rw [serveStream, Op.get_bind, hrunning]
  show (Op.ofExcept (.ok packet) >>= _) x = _
  rw [Op.bind_ok hbytes, hsome]
  rfl

/-- Serving packets is serving the lines of the stream, wherever the packets are cut. -/
theorem serveStream_packets {left : List UInt8} {packets : List (List UInt8)} {x : Exchange}
    (hrunning : x.server.running = true) (hpackets : ∀ packet ∈ packets, packet ≠ [])
    (hleft : lineFeed ∉ left) :
    serveStream left (packets.map .ok) x =
      serveLines (splitLines (left ++ packets.flatten)).1 x := by
  induction packets generalizing left x with
  | nil =>
    rw [List.flatten_nil, List.append_nil, splitLines,
      Connection.splitLinesFrom_of_no_lineFeed hleft]
    rfl
  | cons packet rest ih =>
    have hrest : lineFeed ∉ (splitLines (left ++ packet)).2 :=
      Connection.lineFeed_not_mem_left List.not_mem_nil
    have hkept := running_serveLines (splitLines (left ++ packet)).1 x
    rw [List.map_cons, serveStream_cons hrunning (hpackets packet List.mem_cons_self),
      List.flatten_cons, ← List.append_assoc,
      Connection.splitLines_append (left ++ packet) rest.flatten]
    simp only [serveLines_append]
    rcases hlines : serveLines (splitLines (left ++ packet)).1 x with ⟨f | u, x'⟩ <;>
      rw [hlines] at hkept
    · rw [Op.bind_error hlines, Op.bind_error hlines]
    · rw [Op.bind_ok hlines, Op.bind_ok hlines]
      exact ih (hkept.trans hrunning) (fun p hp => hpackets p (List.mem_cons_of_mem _ hp)) hrest

/-! ## Answers -/

/-- A line that holds no request, and what is said about it. -/
inductive Unreadable (line : List UInt8) : Text → Prop
  | encoding {fault : Utf8.Failure} (hdecode : Utf8.decode line = .error fault) :
      Unreadable line ("Invalid JSON: " ++ fault.message)
  | json {text : Text} {cause : Json.ReadCause} {row column offset : Nat}
      (hdecode : Utf8.decode line = .ok text)
      (hread : Json.read text = .error (.at cause row column offset)) :
      Unreadable line
        ("Invalid JSON: " ++ Json.ReadFailure.message (.at cause row column offset))
  | value {text : Text} {v : Json} (hdecode : Utf8.decode line = .ok text)
      (hread : Json.read text = .ok v) (hvalue : ∀ members, v ≠ .object members) :
      Unreadable line "Message must be a JSON object"

/-- How a line is answered: one that holds no request is refused, and a request is handled. -/
inductive LineAnswered (line : List UInt8) (s : Server) : Response → Server → Prop
  | refused {why : Text} (h : Unreadable line why) : LineAnswered line s (refusal why) s
  | handled {text : Text} {members : List (Text × Json)} {response : Response} {s' : Server}
      (hdecode : Utf8.decode line = .ok text) (hread : Json.read text = .ok (.object members))
      (hhandle : handleMessage (.object members) s = (.ok response, s')) :
      LineAnswered line s response s'

/-- Whatever answer a line gets, it is one of these. -/
theorem lineAnswered_of_ok {line : List UInt8} {s s' : Server} {response : Response}
    (h : answerLine line s = (.ok response, s')) : LineAnswered line s response s' := by
  unfold answerLine at h
  rcases hdecode : Utf8.decode line with fault | text <;> simp only [hdecode] at h
  · cases h
    exact .refused (.encoding hdecode)
  rcases hread : Json.read text with fault | v <;> simp only [hread] at h
  · rcases fault with ⟨cause, row, column, offset⟩ | digits | innermost <;> cases h
    exact .refused (.json hdecode hread)
  · cases v with
    | object members => exact .handled hdecode hread h
    | _ =>
      cases h
      exact .refused (.value hdecode hread (fun _ => nofun))

/-- Lines that have been served, and the answers that were sent, one for each line that is not
blank. -/
inductive Served : Server → List (List UInt8) → List Text → Server → Prop
  | nil (s : Server) : Served s [] [] s
  | blank {s s' : Server} {line : List UInt8} {rest : List (List UInt8)} {answers : List Text}
      (hblank : line.all isBlankByte = true) (hrest : Served s rest answers s') :
      Served s (line :: rest) answers s'
  | answered {s s₁ s' : Server} {line : List UInt8} {rest : List (List UInt8)}
      {answers : List Text} {response : Response} (hblank : line.all isBlankByte = false)
      (hanswer : LineAnswered line s response s₁) (hrest : Served s₁ rest answers s') :
      Served s (line :: rest) (Json.render (.object response) :: answers) s'

/-- There is one answer for each line that is not blank. -/
theorem Served.length {s s' : Server} {lines : List (List UInt8)} {answers : List Text}
    (h : Served s lines answers s') :
    answers.length = (lines.filter fun line => !line.all isBlankByte).length := by
  induction h with
  | nil => rfl
  | blank hblank _ ih => rw [ih, List.filter_cons_of_neg (by simp [hblank])]
  | answered hblank _ _ ih =>
    rw [List.filter_cons_of_pos (by simp [hblank]), List.length_cons, List.length_cons, ih]

/-- An answer is one line. -/
theorem Served.one_line {s s' : Server} {lines : List (List UInt8)} {answers : List Text}
    (h : Served s lines answers s') : ∀ answer ∈ answers, '\n' ∉ answer := by
  induction h with
  | nil => exact fun _ => nofun
  | blank _ _ ih => exact ih
  | answered _ _ _ ih =>
    intro answer hanswer
    rcases List.mem_cons.mp hanswer with rfl | hanswer
    · exact Json.not_mem_render _
    · exact ih answer hanswer

/-- Answers as they are sent. -/
def asSent (answers : List Text) : List Text := answers.map fun answer => answer ++ "\n".toList

/-- Lines are served in order, up to the first that gets no answer. -/
theorem serveLines_served (lines : List (List UInt8)) (x : Exchange) :
    ∃ served unserved answers s₁, lines = served ++ unserved ∧
      Served x.server served answers s₁ ∧
      ((unserved = [] ∧
          serveLines lines x = (.ok (), ⟨s₁, x.sent ++ asSent answers⟩)) ∨
        ∃ line rest f s₂, unserved = line :: rest ∧ line.all isBlankByte = false ∧
          answerLine line s₁ = (.error f, s₂) ∧
          serveLines lines x = (.error f, ⟨s₂, x.sent ++ asSent answers⟩)) := by
  induction lines generalizing x with
  | nil =>
    refine ⟨[], [], [], x.server, rfl, .nil _, .inl ⟨rfl, ?_⟩⟩
    rw [asSent, List.map_nil, List.append_nil]
    rfl
  | cons line rest ih =>
    have hline := serveLine_eq line x
    rw [serveLines_cons]
    rcases hblank : line.all isBlankByte with _ | _
    · rw [hblank, if_neg Bool.false_ne_true] at hline
      rcases hanswer : answerLine line x.server with ⟨f | response, s⟩ <;> rw [hanswer] at hline
      · refine ⟨[], line :: rest, [], x.server, rfl, .nil _, .inr ⟨line, rest, f, s, rfl, hblank,
          hanswer, ?_⟩⟩
        rw [Op.bind_error hline, asSent, List.map_nil, List.append_nil]
      · obtain ⟨served, unserved, answers, s₁, rfl, hserved, hends⟩ :=
          ih ⟨s, x.sent ++ [Json.render (.object response) ++ "\n"]⟩
        refine ⟨line :: served, unserved, Json.render (.object response) :: answers, s₁, rfl,
          .answered hblank (lineAnswered_of_ok hanswer) hserved, ?_⟩
        rw [Op.bind_ok hline]
        simpa [asSent] using hends
    · rw [hblank, if_pos rfl] at hline
      obtain ⟨served, unserved, answers, s₁, rfl, hserved, hends⟩ := ih x
      refine ⟨line :: served, unserved, answers, s₁, rfl, .blank hblank hserved, ?_⟩
      rw [Op.bind_ok hline]
      exact hends

/-! ## Clients -/

/-- A client that has just connected, and whose packets all arrive. -/
def client (packets : List (List UInt8)) : Connection := ⟨packets.map .ok, [], false⟩

/-- Where a client of the server begins. -/
def connected (peer : Text) (s : Server) : Exchange := ⟨(note (.clientConnected peer) s).2, []⟩

section
variable {peer : Text} {s : Server} {packets : List (List UInt8)}

theorem serveStream_client (hrunning : s.running = true)
    (hpackets : ∀ packet ∈ packets, packet ≠ []) :
    serveStream [] (client packets).incoming (connected peer s) =
      serveLines (splitLines packets.flatten).1 (connected peer s) :=
  serveStream_packets hrunning hpackets List.not_mem_nil

/-- What a client is sent, and how the connection ends. -/
theorem handleClient_eq (hrunning : s.running = true)
    (hpackets : ∀ packet ∈ packets, packet ≠ []) {outcome : Except Failure Unit} {x : Exchange}
    (h : serveLines (splitLines packets.flatten).1 (connected peer s) = (outcome, x)) :
    (handleClient peer (client packets) s).2.1 =
        { client packets with sent := x.sent, closed := true } ∧
      (outcome = .ok () → (handleClient peer (client packets) s).1 = .ok () ∧
        (handleClient peer (client packets) s).2.2 = (note (.clientGone peer) x.server).2) := by
  rw [← serveStream_client hrunning hpackets] at h
  have hserve : serveStream [] (client packets).incoming
      ⟨{ s with world := s.world.record (.clientConnected peer) }, (client packets).sent⟩ =
        (outcome, x) := h
  rw [handleClient]
  simp only [hserve]
  rcases outcome with f | u
  · refine ⟨?_, nofun⟩
    simp only
    split <;> rfl
  · exact ⟨rfl, fun _ => ⟨rfl, rfl⟩⟩

/-- Clients whose lines are served alike are sent the same, and leave the same server. -/
theorem handleClient_congr {c c' : Connection}
    (h : serveStream [] c.incoming ⟨(note (.clientConnected peer) s).2, c.sent⟩ =
      serveStream [] c'.incoming ⟨(note (.clientConnected peer) s).2, c'.sent⟩) :
    (handleClient peer c s).1 = (handleClient peer c' s).1 ∧
      (handleClient peer c s).2.1.sent = (handleClient peer c' s).2.1.sent ∧
      (handleClient peer c s).2.1.closed = (handleClient peer c' s).2.1.closed ∧
      (handleClient peer c s).2.2 = (handleClient peer c' s).2.2 := by
  have hnoted : (note (.clientConnected peer) s).2 =
      { s with world := s.world.record (.clientConnected peer) } := rfl
  rw [hnoted] at h
  unfold handleClient
  simp only [h]
  generalize serveStream [] c'.incoming _ = served
  obtain ⟨f | u, x⟩ := served
  · simp only
    split <;> exact ⟨rfl, rfl, rfl, rfl⟩
  · exact ⟨rfl, rfl, rfl, rfl⟩

/-- A client of a running server sends a stream in packets. Wherever the stream is cut, the client
is sent the same, and the server is left the same. The stream is made of lines and of what no line
end has come for. The lines are served in order: to each that is not blank one line is sent, a
refusal if the line holds no request, and what no line end has come for is not answered. The
connection goes on to the last line unless a line fails to be answered. -/
theorem handleClient_reassembles (hrunning : s.running = true)
    (hpackets : ∀ packet ∈ packets, packet ≠ []) :
    (∀ recut : List (List UInt8), (∀ packet ∈ recut, packet ≠ []) →
      recut.flatten = packets.flatten →
        (handleClient peer (client recut) s).1 = (handleClient peer (client packets) s).1 ∧
        (handleClient peer (client recut) s).2.1.sent =
          (handleClient peer (client packets) s).2.1.sent ∧
        (handleClient peer (client recut) s).2.1.closed =
          (handleClient peer (client packets) s).2.1.closed ∧
        (handleClient peer (client recut) s).2.2 = (handleClient peer (client packets) s).2.2) ∧
    ∀ (lines : List (List UInt8)) (left : List UInt8), (∀ line ∈ lines, lineFeed ∉ line) →
      lineFeed ∉ left →
      packets.flatten = (lines.flatMap fun line => line ++ [lineFeed]) ++ left →
      ∃ served unserved answers s₁, lines = served ++ unserved ∧
        Served (note (.clientConnected peer) s).2 served answers s₁ ∧
        (handleClient peer (client packets) s).2.1.sent = asSent answers ∧
        answers.length = (served.filter fun line => !line.all isBlankByte).length ∧
        (∀ answer ∈ answers, '\n' ∉ answer) ∧
        ((unserved = [] ∧ (handleClient peer (client packets) s).1 = .ok () ∧
            (handleClient peer (client packets) s).2.2 = (note (.clientGone peer) s₁).2) ∨
          ∃ line rest f s₂, unserved = line :: rest ∧ line.all isBlankByte = false ∧
            answerLine line s₁ = (.error f, s₂)) := by
  refine ⟨fun recut hrecut hsame => ?_, fun lines left hlines hleft hstream => ?_⟩
  · have hserve : serveStream [] (client recut).incoming (connected peer s) =
        serveStream [] (client packets).incoming (connected peer s) := by
      rw [serveStream_client hrunning hrecut, serveStream_client hrunning hpackets, hsame]
    exact handleClient_congr hserve
  · have hcut : (splitLines packets.flatten).1 = lines := by
      rw [hstream, Connection.splitLines_stream hlines hleft]
    obtain ⟨served, unserved, answers, s₁, hsplit, hserved, hends⟩ :=
      serveLines_served lines (connected peer s)
    refine ⟨served, unserved, answers, s₁, hsplit, hserved, ?_, hserved.length,
      hserved.one_line, ?_⟩
    · rcases hends with ⟨-, hlines⟩ | ⟨line, rest, f, s₂, -, -, -, hlines⟩ <;>
        rw [← hcut] at hlines <;>
        rw [(handleClient_eq hrunning hpackets hlines).1] <;>
        exact List.nil_append _
    · rcases hends with ⟨hall, hlines⟩ | ⟨line, rest, f, s₂, hrest, hblank, hanswer, -⟩
      · rw [← hcut] at hlines
        exact .inl ⟨hall, (handleClient_eq hrunning hpackets hlines).2 rfl⟩
      · exact .inr ⟨line, rest, f, s₂, hrest, hblank, hanswer⟩

end

/-- A running server that has no sessions yet. -/
def runningServer : Server :=
  { Server.new "127.0.0.1" 7888 none (.default []) (fun n => Text.ofNat n)
      (.initial ⟨⟨[]⟩, ⟨1, []⟩, [], fun _ => .noShell, []⟩ (.withInput [] false false)
        (fun _ _ => .refused "no process") .exact) with running := true }

/-- A line that is no JSON, a blank line and a request. -/
def threeLines : List (List UInt8) :=
  [Utf8.encode "x", Utf8.encode " ",
    Utf8.encode "\x7b\"op\": \"describe\", \"session\": \"é\"\x7d"]

/-- These lines and the beginning of another. The first packet ends within the only character of
the name in the request. -/
def cutStream : List (List UInt8) :=
  [Utf8.encode "x\n \n\x7b\"op\": \"describe\", \"session\": \"" ++ [0xc3],
    [0xa9] ++ Utf8.encode "\"\x7d\n\x7b"]

/-- One packet is answered as the two are: with an answer to the first line and one to the last. -/
theorem handleClient_reassembles_cutStream :
    runningServer.running = true ∧ (∀ packet ∈ cutStream, packet ≠ []) ∧
      cutStream.flatten =
        (threeLines.flatMap fun line => line ++ [lineFeed]) ++ Utf8.encode "\x7b" ∧
      (handleClient "someone" (client [cutStream.flatten]) runningServer).2.1.sent =
        (handleClient "someone" (client cutStream) runningServer).2.1.sent ∧
      (handleClient "someone" (client cutStream) runningServer).2.1.sent.length = 2 ∧
      ∃ served unserved answers s₁, threeLines = served ++ unserved ∧
        Served (note (.clientConnected "someone") runningServer).2 served answers s₁ ∧
        (handleClient "someone" (client cutStream) runningServer).2.1.sent = asSent answers := by
  have hpackets : ∀ packet ∈ cutStream, packet ≠ [] := by decide +kernel
  have hstream : cutStream.flatten =
      (threeLines.flatMap fun line => line ++ [lineFeed]) ++ Utf8.encode "\x7b" := by
    decide +kernel
  have hlines : ∀ line ∈ threeLines, lineFeed ∉ line := by decide +kernel
  have hleft : lineFeed ∉ Utf8.encode "\x7b" := by decide +kernel
  obtain ⟨hcut, hserved⟩ :=
    @handleClient_reassembles "someone" runningServer cutStream rfl hpackets
  obtain ⟨-, hsent, -⟩ := hcut [cutStream.flatten] (by decide +kernel) List.flatten_singleton
  obtain ⟨served, unserved, answers, s₁, hsplit, hanswers, hall, -⟩ :=
    hserved threeLines _ hlines hleft hstream
  exact ⟨rfl, hpackets, hstream, hsent, by decide +kernel, served, unserved, answers, s₁, hsplit,
    hanswers, hall⟩

end Server
end ReplDriver
