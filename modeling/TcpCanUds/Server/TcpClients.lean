import Mathlib.Logic.Function.Basic
import TcpCanUds.Server.ProtocolParser
import TcpCanUds.Server.TcpWorkerServer

/-!
# TcpClients — the tables of connected clients (`server/tcpworkerserver.cpp`)

Sockets are known by their addresses, clients by the numbers they are given in turn.  The parsers are
found by socket, the sockets to answer on by client number.
-/

namespace TcpCanUds
namespace Server

/-- The address of a `QTcpSocket`, never null. -/
abbrev SocketPtr := Nat

/-- A `protocol_parser` with the number its slot has captured. -/
structure ClientParser where
  m_buffer : QByteArray := []
  clientId : Int32
  deriving DecidableEq, Repr

/-- The arguments of `udsMessageReceived`, and the packet they were read from. -/
structure ClientMessage where
  packet : QByteArray
  msg : UDSMessage
  clientId : Int32
  deriving DecidableEq, Repr

structure TcpWorkerServer where
  m_clientParsers : SocketPtr → Option ClientParser := fun _ => none
  m_clients : List SocketPtr := []
  m_clientMap : Int32 → Option SocketPtr := fun _ => none
  m_nextClientId : Int32 := 1001

namespace TcpWorkerServer

def setupClientResources (w : TcpWorkerServer) (client : SocketPtr) (clientId : Int32) :
    TcpWorkerServer :=
  { w with
    m_clientParsers := Function.update w.m_clientParsers client (some { clientId := clientId }) }

/-- `onNewConnection`, and the number that becomes a property of the socket. -/
def onNewConnection (w : TcpWorkerServer) (client : SocketPtr) : TcpWorkerServer × Int32 :=
  let clientId := w.m_nextClientId
  let w :=
    { w with
      m_nextClientId := w.m_nextClientId + 1
      m_clientMap := Function.update w.m_clientMap clientId (some client) }
  let w := w.setupClientResources client clientId
  ({ w with m_clients := w.m_clients ++ [client] }, clientId)

/-- The first slot of `disconnected`, the lambda of `onNewConnection`. -/
def removeClientId (w : TcpWorkerServer) (clientId : Int32) : TcpWorkerServer :=
  { w with m_clientMap := Function.update w.m_clientMap clientId none }

def cleanupClientResources (w : TcpWorkerServer) (client : SocketPtr) : TcpWorkerServer :=
  { w with
    m_clientParsers := Function.update w.m_clientParsers client none
    m_clients := w.m_clients.filter (· ≠ client) }

/-- The second slot of `disconnected`. -/
def onClientDisconnected (w : TcpWorkerServer) (client : SocketPtr) : TcpWorkerServer :=
  cleanupClientResources { w with m_clients := w.m_clients.filter (· ≠ client) } client

/-- `onClientReadyRead` and the slot of `udsPacketReady`; `mem` is what the memory holds at the
deserialization of each packet. -/
def onClientReadyRead (w : TcpWorkerServer) (client : SocketPtr) (data : QByteArray)
    (mem : Nat → UDSMessage.Memory) : TcpWorkerServer × List ClientMessage :=
  match w.m_clientParsers client with
  | none => (w, [])
  | some parser =>
      let pushed := ProtocolParser.pushData parser.m_buffer data
      ({ w with
          m_clientParsers :=
            Function.update w.m_clientParsers client (some { parser with m_buffer := pushed.2 }) },
        (ProtocolParser.udsPackets pushed.1).mapIdx fun i udsPacket =>
          { packet := udsPacket
            msg := deserializeUDSMessage (mem i) udsPacket
            clientId := parser.clientId })

/-- `sendTcpResponse`: the socket written to, and the packet; `connected` asks a socket for its
state. -/
def sendTcpResponse (w : TcpWorkerServer) (connected : SocketPtr → Bool) (msg : UDSMessage)
    (clientId : Int32) : Option (SocketPtr × QByteArray) :=
  match w.m_clientMap clientId with
  | none => none
  | some client => if ¬ connected client then none else some (client, constructUdsPacket msg)

/-! ## A read -/

section

variable {w : TcpWorkerServer} {client : SocketPtr} {parser : ClientParser} (data : QByteArray)
  (mem : Nat → UDSMessage.Memory)

theorem onClientReadyRead_eq (h : w.m_clientParsers client = some parser) :
    w.onClientReadyRead client data mem =
      ({ w with
          m_clientParsers := Function.update w.m_clientParsers client
            (some { parser with m_buffer := (ProtocolParser.pushData parser.m_buffer data).2 }) },
        (ProtocolParser.udsPackets (ProtocolParser.pushData parser.m_buffer data).1).mapIdx
          fun i udsPacket =>
            { packet := udsPacket
              msg := deserializeUDSMessage (mem i) udsPacket
              clientId := parser.clientId }) := by
  simp only [onClientReadyRead, h]

theorem packets_onClientReadyRead (h : w.m_clientParsers client = some parser) :
    (w.onClientReadyRead client data mem).2.map ClientMessage.packet =
      ProtocolParser.udsPackets (ProtocolParser.pushData parser.m_buffer data).1 := by
  rw [onClientReadyRead_eq data mem h]
  refine List.ext_getElem (by simp) fun i hi hi' => ?_
  rw [List.getElem_map, List.getElem_mapIdx]

theorem mem_onClientReadyRead (h : w.m_clientParsers client = some parser) {m : ClientMessage}
    (hm : m ∈ (w.onClientReadyRead client data mem).2) :
    m.clientId = parser.clientId ∧ ∃ mem, m.msg = deserializeUDSMessage mem m.packet := by
  rw [onClientReadyRead_eq data mem h] at hm
  rcases List.mem_mapIdx.1 hm with ⟨i, _, rfl⟩
  exact ⟨rfl, mem i, rfl⟩

end

/-! ## Client numbers -/

/-- The number of the `k`-th client. -/
def clientIdOf (k : Nat) : Int32 :=
  1001 + Int32.ofNat k

theorem clientIdOf_succ (k : Nat) : clientIdOf (k + 1) = clientIdOf k + 1 := by
  rw [clientIdOf, clientIdOf, Int32.ofNat_add, ← Int32.add_assoc]
  rfl

/-- Numbers come twice only after a whole round of the counter. -/
theorem clientIdOf_inj {j k : Nat} (hj : j < 2 ^ 32) (hk : k < 2 ^ 32)
    (h : clientIdOf j = clientIdOf k) : j = k := by
  have hof : Int32.ofNat j = Int32.ofNat k := (Int32.add_right_inj 1001).1 h
  have hbits : BitVec.ofNat 32 j = BitVec.ofNat 32 k := congrArg Int32.toBitVec hof
  have hmod := congrArg BitVec.toNat hbits
  rwa [BitVec.toNat_ofNat, BitVec.toNat_ofNat, Nat.mod_eq_of_lt hj, Nat.mod_eq_of_lt hk] at hmod

end TcpWorkerServer
end Server
end TcpCanUds
