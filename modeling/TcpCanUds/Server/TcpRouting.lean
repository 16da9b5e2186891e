import TcpCanUds.Lib.TaggedQueue
import TcpCanUds.Server.TcpClients
import TcpCanUds.Server.UdsWorker

/-!
# TcpRouting — requests of many clients through one worker and back

The TCP worker and the UDS worker run in threads of their own and talk through two queues.  Clients
come and go while their requests are under way, and the address of a socket may be used again.
-/

namespace TcpCanUds
namespace Server

open Lib TaggedQueue

/-! ## The two workers and their queues -/

/-- A `QTcpSocket` of the server and the connection it stands for, the `conn`-th of all; the workers
see only the rest. -/
structure ClientSocket where
  clientId : Int32
  connected : Bool
  conn : Nat
  deriving DecidableEq, Repr

/-- A queued `udsMessageReceived`, with the packet and the connection that caused it. -/
structure TcpRequest where
  packet : QByteArray
  msg : UDSMessage
  clientId : Int32
  conn : Nat
  deriving DecidableEq, Repr

/-- A queued `tcpResponseReady`, with the connection whose packet caused it. -/
structure TcpResponse where
  msg : UDSMessage
  clientId : Int32
  conn : Nat
  deriving DecidableEq, Repr

/-- A packet and the response the UDS worker gave it. -/
structure TcpAnswer where
  packet : QByteArray
  response : UDSMessage
  deriving DecidableEq, Repr

/-- What happened on a connection: the chunks read, the packets parsed from them, those answered,
and what was written to its socket. -/
structure ConnectionRecord where
  chunks : List QByteArray := []
  packets : List QByteArray := []
  answers : List TcpAnswer := []
  written : List QByteArray := []
  disconnected : Bool := false
  deriving DecidableEq, Repr

namespace ConnectionRecord

def read (r : ConnectionRecord) (data : QByteArray) (packets : List QByteArray) :
    ConnectionRecord :=
  { r with chunks := r.chunks ++ [data], packets := r.packets ++ packets }

def answer (r : ConnectionRecord) (a : TcpAnswer) : ConnectionRecord :=
  { r with answers := r.answers ++ [a] }

def write (r : ConnectionRecord) (packet : QByteArray) : ConnectionRecord :=
  { r with written := r.written ++ [packet] }

def disconnect (r : ConnectionRecord) : ConnectionRecord :=
  { r with disconnected := true }

end ConnectionRecord

structure TcpRouting where
  server : TcpWorkerServer := {}
  m_handler : SessionState := {}
  sockets : SocketPtr → Option ClientSocket := fun _ => none
  requests : List TcpRequest := []
  responses : List TcpResponse := []
  /-- The number of connections so far. -/
  connections : Nat := 0
  records : Nat → ConnectionRecord := fun _ => {}

inductive RoutingEvent where
  | newConnection (client : SocketPtr) (connected : Bool)
  | readyRead (client : SocketPtr) (data : QByteArray) (mem : Nat → UDSMessage.Memory)
  /-- The state of the socket is no longer `ConnectedState`; its signal comes later. -/
  | closing (client : SocketPtr)
  | disconnected (client : SocketPtr)
  /-- The UDS worker takes the next request of a TCP client. -/
  | tcpRequest (env : HandlerEnv) (now latencyUs : Int64)
  /-- The UDS worker is given a request of the CAN tester. -/
  | canRequest (env : HandlerEnv) (now latencyUs : Int64) (msg : UDSMessage)
  /-- The TCP worker takes the next response. -/
  | tcpResponse

namespace TcpRouting

def isConnected (st : TcpRouting) (client : SocketPtr) : Bool :=
  (st.sockets client).any ClientSocket.connected

/-- What `sendTcpResponse` writes for a response. -/
def write (st : TcpRouting) (response : TcpResponse) : Option (SocketPtr × QByteArray) :=
  st.server.sendTcpResponse st.isConnected response.msg response.clientId

def record (st : TcpRouting) (conn : Nat) (f : ConnectionRecord → ConnectionRecord) :
    Nat → ConnectionRecord :=
  Function.update st.records conn (f (st.records conn))

/-- The records behind a write: the packet goes to the connection the socket stands for. -/
def recordWrite (st : TcpRouting) (client : SocketPtr) (packet : QByteArray) :
    Nat → ConnectionRecord :=
  match st.sockets client with
  | none => st.records
  | some socket => st.record socket.conn (·.write packet)

def next (st : TcpRouting) : RoutingEvent → TcpRouting
  | .newConnection client connected =>
      let r := st.server.onNewConnection client
      let socket := { clientId := r.2, connected := connected, conn := st.connections }
      { st with
        server := r.1
        sockets := Function.update st.sockets client (some socket)
        connections := st.connections + 1 }
  | .readyRead client data mem =>
      match st.sockets client with
      | none => st
      | some socket =>
          let r := st.server.onClientReadyRead client data mem
          { st with
            server := r.1
            requests := st.requests ++ r.2.map fun m =>
              { packet := m.packet, msg := m.msg, clientId := m.clientId, conn := socket.conn }
            records := st.record socket.conn (·.read data (r.2.map ClientMessage.packet)) }
  | .closing client =>
      match st.sockets client with
      | none => st
      | some socket =>
          { st with
            sockets := Function.update st.sockets client (some { socket with connected := false }) }
  | .disconnected client =>
      match st.sockets client with
      | none => st
      | some socket =>
          { st with
            -- both slots of the signal, the lambda of `onNewConnection` first
            server := (st.server.removeClientId socket.clientId).onClientDisconnected client
            sockets := Function.update st.sockets client none
            records := st.record socket.conn ConnectionRecord.disconnect }
  | .tcpRequest env now latencyUs =>
      match st.requests with
      | [] => st
      | request :: rest =>
          let r := UdsWorker.onTcpUdsMessageReceived st.m_handler env now latencyUs request.msg
            request.clientId.toInt
          match r.2 with
          | none => { st with m_handler := r.1, requests := rest }
          | some reply =>
              { st with
                m_handler := r.1
                requests := rest
                responses := st.responses ++
                  [{ msg := reply.response, clientId := request.clientId, conn := request.conn }]
                records := st.record request.conn
                  (·.answer { packet := request.packet, response := reply.response }) }
  | .canRequest env now latencyUs msg =>
      { st with
        m_handler := (UdsWorker.onCanUdsMessageReceived st.m_handler env now latencyUs msg).1 }
  | .tcpResponse =>
      match st.responses with
      | [] => st
      | response :: rest =>
          match st.write response with
          | none => { st with responses := rest }
          | some (client, packet) =>
              { st with responses := rest, records := st.recordWrite client packet }

def routing : Machine TcpRouting RoutingEvent Unit where
  init := {}
  step st e := (st.next e, ())

/-- A new socket is at a free address, and with it there are fewer than `2 ^ 31` connections. -/
def Possible (st : TcpRouting) : RoutingEvent → Prop
  | .newConnection client _ => st.sockets client = none ∧ st.connections + 1 < 2 ^ 31
  | _ => True

instance (st : TcpRouting) (e : RoutingEvent) : Decidable (st.Possible e) :=
  match e with
  | .newConnection client _ =>
      inferInstanceAs (Decidable (st.sockets client = none ∧ st.connections + 1 < 2 ^ 31))
  | .readyRead .. | .closing _ | .disconnected _ | .tcpRequest .. | .canRequest .. | .tcpResponse =>
      isTrue trivial

/-! ## What is to hold -/

/-- The worker gave the response to a message read from the packet. -/
def IsReply (answer : TcpAnswer) : Prop :=
  ∃ s i mem, i.msg = deserializeUDSMessage mem answer.packet ∧
    ∃ reply ∈ (UdsWorker.worker.step s i).2, reply.response = answer.response

/-- Every client gets the responses to its own requests, in their order, and nothing else. -/
structure Routed (st : TcpRouting) : Prop where
  parsed : ∀ k, (st.records k).packets =
    ProtocolParser.udsPackets (ProtocolParser.pushAll (st.records k).chunks).1
  answered : ∀ k, (st.records k).answers.map TcpAnswer.packet <+: (st.records k).packets
  replies : ∀ k, ∀ answer ∈ (st.records k).answers, IsReply answer
  written : ∀ k, (st.records k).written <+:
    (st.records k).answers.map fun answer => constructUdsPacket answer.response
  target : ∀ response ∈ st.responses, ∀ client packet, st.write response = some (client, packet) →
    ∃ socket ∈ st.sockets client, socket.conn = response.conn ∧ socket.connected = true
  late : ∀ response ∈ st.responses, (st.records response.conn).disconnected = true →
    st.write response = none

/-! ## The invariant -/

open TcpWorkerServer (clientIdOf clientIdOf_succ clientIdOf_inj)

/-- The tables name exactly the sockets that are there, each by the number of its connection. -/
structure Tables (st : TcpRouting) : Prop where
  connections_lt : st.connections < 2 ^ 31
  nextClientId : st.server.m_nextClientId = clientIdOf st.connections
  conn_lt : ∀ client, ∀ socket ∈ st.sockets client, socket.conn < st.connections
  clientId : ∀ client, ∀ socket ∈ st.sockets client, socket.clientId = clientIdOf socket.conn
  conn_inj : ∀ client client', ∀ socket ∈ st.sockets client, ∀ socket' ∈ st.sockets client',
    socket.conn = socket'.conn → client = client'
  clientMap : ∀ id client, st.server.m_clientMap id = some client ↔
    ∃ socket ∈ st.sockets client, socket.clientId = id
  clients : ∀ client, client ∈ st.server.m_clients ↔ (st.sockets client).isSome

/-- Every parser has read what its connection has brought. -/
structure Streams (st : TcpRouting) : Prop where
  parsers : ∀ client, st.server.m_clientParsers client = (st.sockets client).map fun socket =>
    { m_buffer := (ProtocolParser.pushAll (st.records socket.conn).chunks).2
      clientId := socket.clientId }
  parsed : ∀ k, (st.records k).packets =
    ProtocolParser.udsPackets (ProtocolParser.pushAll (st.records k).chunks).1
  alive : ∀ client, ∀ socket ∈ st.sockets client, (st.records socket.conn).disconnected = false
  fresh : ∀ k, st.connections ≤ k → st.records k = {}

/-- What is in the queues belongs to the connections it is tagged with, and is all that is missing
there. -/
structure Queues (st : TcpRouting) : Prop where
  requests : ∀ request ∈ st.requests, request.conn < st.connections ∧
    request.clientId = clientIdOf request.conn ∧
      ∃ mem, request.msg = deserializeUDSMessage mem request.packet
  responses : ∀ response ∈ st.responses, response.conn < st.connections ∧
    response.clientId = clientIdOf response.conn
  replies : ∀ k, ∀ answer ∈ (st.records k).answers, IsReply answer
  pending : ∀ k, (st.records k).answers.map TcpAnswer.packet ++
    (share TcpRequest.conn k st.requests).map TcpRequest.packet = (st.records k).packets
  written : ∀ k, (st.records k).written <+:
    (st.records k).answers.map fun answer => constructUdsPacket answer.response
  unwritten : ∀ client, ∀ socket ∈ st.sockets client, socket.connected = true →
    (st.records socket.conn).written ++ (share TcpResponse.conn socket.conn st.responses).map
        (fun response => constructUdsPacket response.msg) =
      (st.records socket.conn).answers.map fun answer => constructUdsPacket answer.response

structure Inv (st : TcpRouting) : Prop where
  tables : Tables st
  streams : Streams st
  queues : Queues st

section

variable {st : TcpRouting}

theorem Tables.clientId_inj (h : Tables st) {j k : Nat} (hj : j < st.connections)
    (hk : k < st.connections) (heq : clientIdOf j = clientIdOf k) : j = k := by
  have hlt := h.connections_lt
  exact clientIdOf_inj (by omega) (by omega) heq

/-- A response is written to the socket of its connection, when that is connected. -/
theorem Inv.write_eq_some_iff (h : Inv st) {response : TcpResponse} (hmem : response ∈ st.responses)
    {client : SocketPtr} {packet : QByteArray} :
    st.write response = some (client, packet) ↔
      packet = constructUdsPacket response.msg ∧
        ∃ socket ∈ st.sockets client, socket.conn = response.conn ∧ socket.connected = true := by
  rcases h.queues.responses response hmem with ⟨hlt, hid⟩
  -- the number in the response finds the socket of its own connection, or none
  have hsocket : ∀ target, st.server.m_clientMap response.clientId = some target ↔
      ∃ socket ∈ st.sockets target, socket.conn = response.conn := by
    intro target
    rw [h.tables.clientMap, hid]
    constructor
    · rintro ⟨socket, hsome, heq⟩
      rw [h.tables.clientId target socket hsome] at heq
      exact ⟨socket, hsome, h.tables.clientId_inj (h.tables.conn_lt target socket hsome) hlt heq⟩
    · rintro ⟨socket, hsome, heq⟩
      exact ⟨socket, hsome, by rw [h.tables.clientId target socket hsome, heq]⟩
  rw [write, TcpWorkerServer.sendTcpResponse]
  constructor
  · intro hwrite
    split at hwrite
    · cases hwrite
    · rename_i target htarget
      split_ifs at hwrite with hconnected
      rcases (hsocket target).1 htarget with ⟨socket, hsome, hconn⟩
      cases hwrite
      refine ⟨rfl, socket, hsome, hconn, ?_⟩
      rw [isConnected, Option.mem_def.1 hsome] at hconnected
      exact hconnected
  · rintro ⟨rfl, socket, hsome, hconn, hconnected⟩
    have htarget := (hsocket client).2 ⟨socket, hsome, hconn⟩
    have hstate : st.isConnected client = true := by
      rw [isConnected, Option.mem_def.1 hsome]
      exact hconnected
    simp only [htarget, hstate, not_true_eq_false, if_false]

/-- The invariant says what is to hold. -/
theorem Inv.routed (h : Inv st) : Routed st where
  parsed := h.streams.parsed
  answered := fun k => ⟨_, h.queues.pending k⟩
  replies := h.queues.replies
  written := h.queues.written
  target := fun _ hmem _ _ hwrite => ((h.write_eq_some_iff hmem).1 hwrite).2
  late := by
    intro response hmem hgone
    cases hwrite : st.write response with
    | none => rfl
    | some target =>
        rcases ((h.write_eq_some_iff hmem).1 hwrite).2 with ⟨socket, hsome, hconn, -⟩
        have halive := h.streams.alive _ socket hsome
        rw [hconn, hgone] at halive
        cases halive

end

end TcpRouting
end Server
end TcpCanUds
