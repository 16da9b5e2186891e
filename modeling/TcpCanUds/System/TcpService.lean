import TcpCanUds.Server.ResponseSize
import TcpCanUds.Server.TcpRoutingSteps
import TcpCanUds.System.ResponseCodec
import TcpCanUds.System.Unlocking

/-!
# TcpService — many clients, and one server that takes one request after the other

The requests of all connections and of the CAN tester meet in the UDS worker, in the order in which it
takes them.  `server` is that worker alone, without queues, sockets and threads; the service that the
clients see through their byte streams is `server` on the requests taken.
-/

namespace TcpCanUds
namespace System

open Lib Server UdsWorker TcpRouting

/-! ## The server without its queues -/

/-- A request as the UDS worker takes it, with the connection it came over and the packet it was; the
CAN tester has neither. -/
structure ServedRequest where
  conn : Option Nat
  packet : QByteArray
  input : WorkerInput

namespace TcpService

def server : Machine SessionState ServedRequest (Option Reply) where
  init := worker.init
  step s r := worker.step s r.input

/-- What an event makes the UDS worker take. -/
def taken (st : TcpRouting) : RoutingEvent → Option ServedRequest
  | .tcpRequest env now latencyUs =>
      st.requests.head?.map fun request =>
        { conn := some request.conn
          packet := request.packet
          input := { source := .tcp request.clientId.toInt, env, now, latencyUs, msg := request.msg } }
  | .canRequest env now latencyUs msg =>
      some { conn := none, packet := [], input := { source := .can, env, now, latencyUs, msg } }
  | .newConnection .. | .readyRead .. | .closing _ | .disconnected _ | .tcpResponse => none

/-- The requests that the UDS worker takes in a run, in its order. -/
def served (run : List RoutingEvent) : List ServedRequest :=
  routing.watch taken {} run

/-- The answer to a request of the connection `k`. -/
def answerOf (k : Nat) (e : ServedRequest × Option Reply) : Option TcpAnswer :=
  if e.1.conn = some k then
    e.2.map fun reply => { packet := e.1.packet, response := reply.response }
  else none

/-- The responses that `server` gives to the connection `k`. -/
def responsesTo (k : Nat) (log : List ServedRequest) : List UDSMessage :=
  ((server.history log).filterMap (answerOf k)).map TcpAnswer.response

/-- The packets of the connection `k` among the requests. -/
def packetsOf (k : Nat) (log : List ServedRequest) : List QByteArray :=
  (log.filter fun r => r.conn = some k).map ServedRequest.packet

/-- The session and the answers of all connections are those of `server`. -/
structure Sequential (st : TcpRouting) (log : List ServedRequest) : Prop where
  session : st.m_handler = server.after log
  answers : ∀ k, (st.records k).answers = (server.history log).filterMap (answerOf k)

/-! ## One event -/

section

variable {st : TcpRouting} {log : List ServedRequest}

/-- What neither the session nor the answers are touched by, `server` does not see. -/
theorem Sequential.congr (h : Sequential st log) {st' : TcpRouting}
    (hsession : st'.m_handler = st.m_handler)
    (hanswers : ∀ k, (st'.records k).answers = (st.records k).answers) : Sequential st' log where
  session := hsession.trans h.session
  answers := fun k => (hanswers k).trans (h.answers k)

theorem Sequential.tcpRequest (h : Sequential st log) (env : HandlerEnv) (now latencyUs : Int64)
    {request : TcpRequest} {rest : List TcpRequest} (hqueue : st.requests = request :: rest) :
    Sequential (st.next (.tcpRequest env now latencyUs))
      (log ++ (taken st (.tcpRequest env now latencyUs)).toList) := by
  let input : WorkerInput :=
    { source := .tcp request.clientId.toInt, env, now, latencyUs, msg := request.msg }
  let r : ServedRequest := { conn := some request.conn, packet := request.packet, input := input }
  have htaken : taken st (.tcpRequest env now latencyUs) = some r := by
    simp only [taken, hqueue, List.head?_cons, Option.map_some, r, input]
  -- the worker answers every request
  rcases worker_replies st.m_handler input with ⟨reply, hreply, -⟩
  have hstep : (onTcpUdsMessageReceived st.m_handler env now latencyUs request.msg
      request.clientId.toInt).2 = some reply := hreply
  have hserver : server.step (server.after log) r = worker.step st.m_handler input := by
    rw [h.session]
    rfl
  rw [htaken, Option.toList_some]
  simp only [TcpRouting.next, hqueue, hstep]
  refine ⟨?_, fun k => ?_⟩
  · rw [server.after_snoc, hserver]
    rfl
  · rw [server.history_snoc, hserver, List.filterMap_append, ← h.answers k]
    dsimp only
    by_cases hk : k = request.conn
    · subst hk
      rw [record_self, ConnectionRecord.answer]
      simp only [answerOf, r, if_true, hreply, List.filterMap_cons, Option.map_some,
        List.filterMap_nil]
    · have hother : r.conn ≠ some k := fun heq => hk (Option.some.inj heq).symm
      rw [record_of_ne hk]
      simp only [answerOf, if_neg hother, List.filterMap_cons, List.filterMap_nil, List.append_nil]

theorem Sequential.canRequest (h : Sequential st log) (env : HandlerEnv) (now latencyUs : Int64)
    (msg : UDSMessage) :
    Sequential (st.next (.canRequest env now latencyUs msg))
      (log ++ (taken st (.canRequest env now latencyUs msg)).toList) := by
  refine ⟨?_, fun k => ?_⟩
  · change _ = server.after (log ++ [_])
    rw [server.after_snoc, ← h.session]
    rfl
  · change (st.records k).answers = (server.history (log ++ [_])).filterMap (answerOf k)
    rw [server.history_snoc, List.filterMap_append, ← h.answers k]
    exact (List.append_nil _).symm

theorem Sequential.next (h : Sequential st log) (e : RoutingEvent) :
    Sequential (st.next e) (log ++ (taken st e).toList) := by
  have hrecord : ∀ conn f, (∀ r, (f r).answers = ConnectionRecord.answers r) → ∀ k,
      (st.record conn f k).answers = (st.records k).answers := fun conn f hf k =>
    st.map_record conn f ConnectionRecord.answers (hf _) k
  -- only the two requests add to the log; all other events keep session and answers
  cases e with
  | tcpRequest env now latencyUs =>
      cases hqueue : st.requests with
      | nil =>
          simp only [TcpRouting.next, taken, hqueue, List.head?_nil, Option.map_none,
            Option.toList_none, List.append_nil]
          exact h
      | cons request rest => exact h.tcpRequest env now latencyUs hqueue
  | canRequest env now latencyUs msg => exact h.canRequest env now latencyUs msg
  | newConnection client connected =>
      rw [taken, Option.toList_none, List.append_nil]
      exact h.congr rfl fun _ => rfl
  | closing client =>
      rw [taken, Option.toList_none, List.append_nil]
      cases hsocket : st.sockets client with
      | none =>
          simp only [TcpRouting.next, hsocket]
          exact h
      | some socket =>
          simp only [TcpRouting.next, hsocket]
          exact h.congr rfl fun _ => rfl
  | readyRead client data mem =>
      rw [taken, Option.toList_none, List.append_nil]
      cases hsocket : st.sockets client with
      | none =>
          simp only [TcpRouting.next, hsocket]
          exact h
      | some socket =>
          simp only [TcpRouting.next, hsocket]
          exact h.congr rfl (hrecord _ _ fun _ => rfl)
  | disconnected client =>
      rw [taken, Option.toList_none, List.append_nil]
      cases hsocket : st.sockets client with
      | none =>
          simp only [TcpRouting.next, hsocket]
          exact h
      | some socket =>
          simp only [TcpRouting.next, hsocket]
          exact h.congr rfl (hrecord _ _ fun _ => rfl)
  | tcpResponse =>
      rw [taken, Option.toList_none, List.append_nil]
      cases hqueue : st.responses with
      | nil =>
          simp only [TcpRouting.next, hqueue]
          exact h
      | cons response rest =>
          cases hwrite : st.write response with
          | none =>
              simp only [TcpRouting.next, hqueue, hwrite]
              exact h.congr rfl fun _ => rfl
          | some target =>
              simp only [TcpRouting.next, hqueue, hwrite, recordWrite]
              cases hsocket : st.sockets target.1 with
              | none => exact h.congr rfl fun _ => rfl
              | some socket => exact h.congr rfl (hrecord _ _ fun _ => rfl)

end

/-! ## Whole runs -/

theorem sequential_after (run : List RoutingEvent) :
    Sequential (routing.after run) (served run) := by
  induction run using List.reverseRecOn with
  | nil => exact ⟨rfl, fun _ => rfl⟩
  | append_singleton run e ih =>
      rw [routing.after_snoc, served, routing.watch_snoc]
      exact ih.next e

/-- What the worker has taken is not revised later. -/
theorem served_prefix {run run' : List RoutingEvent} (h : run <+: run') : served run <+: served run' := by
  rcases h with ⟨later, rfl⟩
  induction later using List.reverseRecOn with
  | nil =>
      rw [List.append_nil]
  | append_singleton later e ih =>
      rw [← List.append_assoc, served, served, routing.watch_snoc]
      exact ih.trans (List.prefix_append _ _)

/-! ## The byte streams of a connection -/

/-- Every request has an answer, so the packets answered are the packets taken. -/
theorem packets_history (k : Nat) (log : List ServedRequest) :
    ((server.history log).filterMap (answerOf k)).map TcpAnswer.packet = packetsOf k log := by
  induction log using List.reverseRecOn with
  | nil => rfl
  | append_singleton log r ih =>
      rcases worker_replies (server.after log) r.input with ⟨reply, hreply, -⟩
      have hstep : (server.step (server.after log) r).2 = some reply := hreply
      rw [server.history_snoc, List.filterMap_append, List.map_append, ih, packetsOf, packetsOf,
        List.filter_append, List.map_append, hstep]
      by_cases hconn : r.conn = some k
      · simp [answerOf, hconn]
      · simp [answerOf, hconn]

theorem length_responsesTo (k : Nat) (log : List ServedRequest) :
    ∀ response ∈ responsesTo k log, (serializeUDSMessage response).length ≤ 65535 := by
  intro response hmem
  rcases List.mem_map.1 hmem with ⟨answer, hanswer, rfl⟩
  rcases List.mem_filterMap.1 hanswer with ⟨⟨r, o⟩, he, hsome⟩
  rcases List.append_of_mem he with ⟨before, later, hsplit⟩
  rcases server.history_eq_append_cons hsplit with ⟨is, -, -, -, ho, -⟩
  simp only [answerOf] at hsome
  split_ifs at hsome
  rcases Option.map_eq_some_iff.1 hsome with ⟨reply, hreply, rfl⟩
  have hreply' : reply ∈ (server.step (server.after is) r).2 := by
    rw [← ho]
    exact hreply
  exact (length_response (server.after is) r.input hreply').trans (by decide)

/-- Messages that all fit are the messages of a list that says so. -/
theorem exists_fitting {n : Nat} {messages : List UDSMessage}
    (h : ∀ m ∈ messages, (serializeUDSMessage m).length ≤ n) :
    ∃ fitting : List (FittingMessage n), fitting.map FittingMessage.msg = messages := by
  refine ⟨messages.pmap FittingMessage.mk h, ?_⟩
  rw [List.map_pmap, List.pmap_eq_map, List.map_id']

/-- Of the requests a client has written the server has parsed the first ones. -/
theorem packets_of_chunks {requests : List (FittingMessage 1024)} {chunks : List QByteArray}
    (h : chunks.flatten <+: requestBytes requests) :
    ProtocolParser.udsPackets (ProtocolParser.pushAll chunks).1 <+:
      requests.map FittingMessage.raw := by
  rcases h with ⟨rest, hrest⟩
  have hwhole : (chunks ++ [rest]).flatten = requestBytes requests := by
    rw [List.flatten_concat, hrest]
  have hall := requests_arrive hwhole
  rw [ProtocolParser.pushAll_snoc, ProtocolParser.udsPackets_append] at hall
  exact ⟨_, hall⟩

/-- Of the responses a server has written the client has received the first ones. -/
theorem received_of_prefix (mem : UDSMessage.Memory) {responses : List (FittingMessage 65535)}
    {chunks : List QByteArray} (h : chunks.flatten <+: responseBytes responses) :
    received mem chunks <+: (responses.map FittingMessage.msg).map (clientView mem) := by
  rcases h with ⟨rest, hrest⟩
  have hwhole : (chunks ++ [rest]).flatten = responseBytes responses := by
    rw [List.flatten_concat, hrest]
  have hall := received_responses mem hwhole
  rw [received, Client.ProtocolParser.pushAll, Client.ProtocolParser.parser.feedAll_snoc,
    Client.TcpConnection.udsMessages, List.flatMap_append] at hall
  have hmessages : (responses.map FittingMessage.msg).map (clientView mem) =
      responses.map fun m => Client.deserializeUDSMessage mem m.raw := by
    rw [List.map_map]
    rfl
  rw [hmessages, ← hall]
  exact List.prefix_append _ _

/-! ## What a connection sees of the service -/

/-- The connection `k` and the server on the requests `log`: the packets taken are the first requests
that the client wrote, they are decoded as the server decodes packets, and the messages that the client
receives are the first responses. -/
structure Sees (st : TcpRouting) (log : List ServedRequest) (k : Nat) : Prop where
  requests : ∀ requests : List (FittingMessage 1024),
    (st.records k).chunks.flatten <+: requestBytes requests →
      packetsOf k log <+: requests.map FittingMessage.raw
  messages : ∀ r ∈ log, r.conn = some k → ∃ mem, r.input.msg = deserializeUDSMessage mem r.packet
  responses : ∀ mem (chunks : List QByteArray), chunks.flatten <+: (st.records k).written.flatten →
    received mem chunks <+: (responsesTo k log).map (clientView mem)

/-- With nothing under way, nothing is missing on a connection. -/
structure SeesAll (st : TcpRouting) (log : List ServedRequest) (k : Nat) : Prop where
  requests : ∀ requests : List (FittingMessage 1024),
    (st.records k).chunks.flatten = requestBytes requests →
      packetsOf k log = requests.map FittingMessage.raw
  responses : ∀ mem (chunks : List QByteArray), chunks.flatten = (st.records k).written.flatten →
    received mem chunks = (responsesTo k log).map (clientView mem)

theorem inv_after {run : List RoutingEvent} (h : routing.Along Possible {} run) :
    Inv (routing.after run) :=
  routing.exec_invariant_along (I := Inv) (fun _ e hinv hpossible => hinv.next e hpossible) inv_init h

/-- What the UDS worker takes from a connection was read from its packet. -/
theorem message_of_taken {st : TcpRouting} (h : Inv st) {e : RoutingEvent} {r : ServedRequest}
    (hr : r ∈ taken st e) {k : Nat} (hconn : r.conn = some k) :
    ∃ mem, r.input.msg = deserializeUDSMessage mem r.packet := by
  cases e with
  | tcpRequest env now latencyUs =>
      rcases Option.map_eq_some_iff.1 hr with ⟨request, hhead, rfl⟩
      exact (h.queues.requests request (List.mem_of_head? hhead)).2.2
  | canRequest env now latencyUs msg =>
      obtain rfl := Option.some.inj hr
      cases hconn
  | newConnection | readyRead | closing | disconnected | tcpResponse => cases hr

section

variable {run : List RoutingEvent} (h : routing.Along Possible {} run) (k : Nat)

theorem packetsOf_served :
    packetsOf k (served run) = ((routing.after run).records k).answers.map TcpAnswer.packet := by
  rw [(sequential_after run).answers, packets_history]

theorem responsesTo_served :
    responsesTo k (served run) =
      ((routing.after run).records k).answers.map TcpAnswer.response := by
  rw [(sequential_after run).answers]
  rfl

/-- What is written for responses that fit. -/
theorem written_eq {responses : List (FittingMessage 65535)}
    (hresponses : responses.map FittingMessage.msg = responsesTo k (served run)) :
    (((routing.after run).records k).answers.map
      fun answer => constructUdsPacket answer.response).flatten = responseBytes responses := by
  have hmap : (((routing.after run).records k).answers.map
      fun answer => constructUdsPacket answer.response) =
        responses.map fun m => constructUdsPacket m.msg := by
    calc
      _ = (responsesTo k (served run)).map constructUdsPacket := by
        rw [responsesTo_served, List.map_map]
        rfl
      _ = responses.map fun m => constructUdsPacket m.msg := by
        rw [← hresponses, List.map_map]
        rfl
  rw [hmap, responseBytes, List.flatMap_def]

include h

theorem message_of_served {r : ServedRequest} (hr : r ∈ served run) (hconn : r.conn = some k) :
    ∃ mem, r.input.msg = deserializeUDSMessage mem r.packet := by
  rcases routing.mem_watch hr with ⟨before, e, later, rfl, htaken⟩
  exact message_of_taken (inv_after h.left) htaken hconn

theorem sees : Sees (routing.after run) (served run) k where
  requests := by
    intro requests hchunks
    have hinv := inv_after h
    have hanswered : packetsOf k (served run) <+: ((routing.after run).records k).packets := by
      rw [packetsOf_served]
      exact ⟨_, hinv.queues.pending k⟩
    rw [hinv.streams.parsed] at hanswered
    exact hanswered.trans (packets_of_chunks hchunks)
  messages := fun _ hr hconn => message_of_served h k hr hconn
  responses := by
    intro mem chunks hchunks
    rcases exists_fitting (length_responsesTo k (served run)) with ⟨responses, hresponses⟩
    have hwritten := ((inv_after h).queues.written k).flatten
    rw [written_eq k hresponses] at hwritten
    have hreceived := received_of_prefix mem (hchunks.trans hwritten)
    rwa [hresponses] at hreceived

theorem seesAll (hrequests : (routing.after run).requests = [])
    (hresponses : (routing.after run).responses = []) {client : SocketPtr} {socket : ClientSocket}
    (hsocket : socket ∈ (routing.after run).sockets client) (hconnected : socket.connected = true)
    (hconn : socket.conn = k) : SeesAll (routing.after run) (served run) k where
  requests := by
    intro requests hchunks
    have hinv := inv_after h
    -- no packet of the connection waits
    have hpending := hinv.queues.pending k
    rw [hrequests] at hpending
    rw [packetsOf_served, ← requests_arrive hchunks, ← hinv.streams.parsed, ← hpending]
    exact (List.append_nil _).symm
  responses := by
    intro mem chunks hchunks
    rcases exists_fitting (length_responsesTo k (served run)) with ⟨responses, hfitting⟩
    have hunwritten := (inv_after h).queues.unwritten client socket hsocket hconnected
    rw [hresponses, hconn] at hunwritten
    have hwritten : ((routing.after run).records k).written =
        ((routing.after run).records k).answers.map
          fun answer => constructUdsPacket answer.response :=
      (List.append_nil _).symm.trans hunwritten
    rw [hwritten, written_eq k hfitting] at hchunks
    rw [received_responses mem hchunks, ← hfitting, List.map_map]
    rfl

/-- Whatever the order of connections, chunks, disconnections and responses, the service is one server
that takes one request after the other: it has the session of that server, each client sees the
responses of that server to its own requests through its byte streams, none is missing on a connection
once nothing is under way, and the order of the requests is never revised. -/
theorem sequential_service :
    Sequential (routing.after run) (served run) ∧
      (∀ k, Sees (routing.after run) (served run) k) ∧
      ((routing.after run).requests = [] → (routing.after run).responses = [] →
        ∀ client, ∀ socket ∈ (routing.after run).sockets client, socket.connected = true →
          SeesAll (routing.after run) (served run) socket.conn) ∧
      ∀ before, before <+: run → served before <+: served run :=
  ⟨sequential_after run, fun k => sees h k,
    fun hrequests hresponses _ _ hsocket hconnected =>
      seesAll h _ hrequests hresponses hsocket hconnected rfl,
    fun _ hprefix => served_prefix hprefix⟩

end

/-- Two clients send `3E 00`; the worker takes the second one's request first, and one of the CAN tester
between them. -/
def secondFirst : List RoutingEvent :=
  let testerPresent : QByteArray := [0xCD, 0xAB, 0x03, 0x02, 0x00, 0x3E, 0x00, 0x11, 0xD0]
  [.newConnection 10 true, .newConnection 20 true, .readyRead 20 testerPresent fun _ => {},
    .readyRead 10 testerPresent fun _ => {}, .tcpRequest {} 0 0,
    .canRequest {} 0 0 (UDSMessage.declare {}), .tcpRequest {} 0 0, .tcpResponse, .tcpResponse]

theorem sequential_service_secondFirst :
    (served secondFirst).map ServedRequest.conn = [some 1, none, some 0] ∧
      ∀ k, Sees (routing.after secondFirst) (served secondFirst) k :=
  ⟨by decide +kernel, (sequential_service (by decide +kernel)).2.1⟩

end TcpService
end System
end TcpCanUds
