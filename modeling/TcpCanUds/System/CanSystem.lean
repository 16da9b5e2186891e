import TcpCanUds.Client.CanInterFace
import TcpCanUds.Core.IsoTpTransfer
import TcpCanUds.Server.CanWorkerServer

/-!
# CanSystem — the server's CAN worker, the client and the bus between them

Both parties with their ISO-TP links, and the frames under way, first in first out each way.
-/

namespace TcpCanUds
namespace System

open Lib IsoTp Server Client

/-! ## The two links and the bus -/

structure CanSystem where
  server : CanWorkerServer
  client : CanInterFace
  toClient : List CanFrameData := []
  toServer : List CanFrameData := []
  /-- what the client emitted with `udsMessageReceived`, oldest first -/
  emitted : List UDSMessage := []
  deriving DecidableEq, Repr

inductive CanAction where
  | serverPoll (ms : UInt32)
  | clientPoll (ms : UInt32)
  | deliverToServer (ms : UInt32)
  | deliverToClient (ms : UInt32)
  deriving DecidableEq, Repr

/-- The action happens when the clocks of the two programs show these values. -/
def CanAction.At (far near : UInt32) : CanAction → Prop
  | .serverPoll ms | .deliverToServer ms => ms = far
  | .clientPoll ms | .deliverToClient ms => ms = near

namespace CanSystem

/-- Both parties behind a successful `init`. -/
def init (serverBuffers : IsoTpBuffers Server.isoTpBufferSize)
    (clientBuffers : IsoTpBuffers Client.isoTpBufferSize) : CanSystem where
  server := CanWorkerServer.init serverBuffers true
  client := CanInterFace.init clientBuffers

/-- The server's worker is handed a message. -/
def send (st : CanSystem) (ms : UInt32) (msg : UDSMessage) : CanSystem :=
  let r := st.server.sendUdsMessage ms msg
  { st with server := r.1, toClient := st.toClient ++ r.2.frames }

/-- The client's next state and what it sent and emitted. -/
def clientStep (st : CanSystem) (r : CanInterFace × CanInterFaceOutput) : CanSystem :=
  { st with
    client := r.1
    toServer := st.toServer ++ r.2.frames
    emitted := st.emitted ++ r.2.received.toList }

def next (mem : UDSMessage.Memory) (st : CanSystem) : CanAction → CanSystem
  | .serverPoll ms =>
      let r := st.server.pollTimeout ms
      { st with server := r.1, toClient := st.toClient ++ r.2.frames }
  | .clientPoll ms => st.clientStep (st.client.pollTimeout ms mem)
  | .deliverToServer ms =>
      match st.toServer with
      | [] => st
      | frame :: rest =>
          let r := st.server.onFrameReceived ms mem frame
          { st with server := r.1, toServer := rest, toClient := st.toClient ++ r.2.frames }
  | .deliverToClient ms =>
      match st.toClient with
      | [] => st
      | frame :: rest => clientStep { st with toClient := rest } (st.client.onFrame ms mem frame)

/-- The run of polls and deliveries from `st`. -/
def canMachine (mem : UDSMessage.Memory) (st : CanSystem) : Machine CanSystem CanAction Unit where
  init := st
  step st a := (st.next mem a, ())

/-! ## Idle links, timers, completion -/

/-- Initialised links with nothing to do, and an empty bus. -/
structure Idle (st : CanSystem) (slink clink : IsoTpLink) : Prop where
  server : st.server = ⟨true, some slink⟩
  serverConfig : config slink = (CanId.udsResp, Server.isoTpBufferSize, 0, Server.isoTpBufferSize)
  serverSend : slink.send_status = .idle
  serverReceive : slink.receive_status = .idle
  client : st.client = ⟨clink⟩
  clientConfig :
    config clink = (CanId.udsReq, Client.isoTpBufferSize, CanId.udsResp, Client.isoTpBufferSize)
  clientSend : clink.send_status = .idle
  clientReceive : clink.receive_status = .idle
  clientBuffer : clink.receive_buffer.length = Client.isoTpBufferSize
  toClient : st.toClient = []
  toServer : st.toServer = []
  emitted : st.emitted = []

theorem idle_init (serverBuffers : IsoTpBuffers Server.isoTpBufferSize)
    (clientBuffers : IsoTpBuffers Client.isoTpBufferSize) :
    Idle (init serverBuffers clientBuffers) (isotpInitLink CanId.udsResp serverBuffers)
      (CanInterFace.init clientBuffers).m_iso_link where
  server := rfl
  serverConfig := rfl
  serverSend := rfl
  serverReceive := rfl
  client := rfl
  clientConfig := rfl
  clientSend := rfl
  clientReceive := rfl
  clientBuffer := clientBuffers.length_receiveBuffer
  toClient := rfl
  toServer := rfl
  emitted := rfl

/-- The poll finds no expired timer: not the sender's when it has nothing to send, and not the
receiver's. -/
def TimersHold (st : CanSystem) : CanAction → Prop
  | .serverPoll ms =>
      ∀ link ∈ st.server.m_isoTpLink, link.send_status = .inprogress →
        ¬ MaySend { ms := ms } link → isoTpTimeAfter ms link.send_timer_bs = false
  | .clientPoll ms =>
      st.client.m_iso_link.receive_status = .inprogress →
        isoTpTimeAfter ms st.client.m_iso_link.receive_timer_cr = false
  | .deliverToServer _ | .deliverToClient _ => True

instance (st : CanSystem) (a : CanAction) : Decidable (st.TimersHold a) :=
  match a with
  | .serverPoll ms =>
      inferInstanceAs (Decidable (∀ link ∈ st.server.m_isoTpLink, link.send_status = .inprogress →
        ¬ MaySend { ms := ms } link → isoTpTimeAfter ms link.send_timer_bs = false))
  | .clientPoll ms =>
      inferInstanceAs (Decidable (st.client.m_iso_link.receive_status = .inprogress →
        isoTpTimeAfter ms st.client.m_iso_link.receive_timer_cr = false))
  | .deliverToServer _ | .deliverToClient _ => isTrue trivial

/-- The server has sent everything, and everything sent has arrived. -/
def Completed (st : CanSystem) : Prop :=
  (∃ link ∈ st.server.m_isoTpLink, link.send_status = .idle) ∧ st.toClient = [] ∧ st.toServer = []

instance (st : CanSystem) : Decidable st.Completed :=
  inferInstanceAs (Decidable ((∃ link ∈ st.server.m_isoTpLink, link.send_status = .idle) ∧
    st.toClient = [] ∧ st.toServer = []))

/-! ## One step of either party -/

theorem bytes_of_eight (id : UInt32) {data : QByteArray} (h : data.length = 8) :
    CanFrameData.bytes { id := id, data := data, len := 8 } = data :=
  List.take_of_length_le (Nat.le_of_eq h)

section

variable (mem : UDSMessage.Memory) {st : CanSystem} {slink clink : IsoTpLink} (ms : UInt32)

theorem next_serverPoll (hs : st.server = ⟨true, some slink⟩) :
    st.next mem (.serverPoll ms) =
      { st with
        server := ⟨true, some (isotpPoll { ms := ms } slink).1⟩
        toClient := st.toClient ++ (isotpPoll { ms := ms } slink).2 } := by
  simp only [next, CanWorkerServer.pollTimeout, hs, if_true]

theorem next_serverPoll_quiet (hs : st.server = ⟨true, some slink⟩)
    (hquiet : isotpPoll { ms := ms } slink = (slink, [])) : st.next mem (.serverPoll ms) = st := by
  rw [next_serverPoll mem ms hs, hquiet, List.append_nil, ← hs]

/-- A link without a message to send only takes out a complete message. -/
theorem pollAndReceive_quiet (hsend : clink.send_status ≠ .inprogress)
    (htimer : clink.receive_status = .inprogress →
      isoTpTimeAfter ms clink.receive_timer_cr = false) :
    CanInterFace.pollAndReceive clink ms mem =
      ({ m_iso_link := (isotpReceive clink Client.isoTpBufferSize).2 },
        { frames := []
          received := (isotpReceive clink Client.isoTpBufferSize).1.bind fun raw =>
            if 0 < raw.length then some (Client.deserializeUDSMessage mem raw) else none }) := by
  have hpoll : isotpPoll { ms := ms } clink = (clink, []) :=
    isotpPoll_quiet (fun h => absurd h hsend) htimer
  simp only [CanInterFace.pollAndReceive, hpoll]

/-- Nothing is emitted while a message is not complete. -/
theorem pollAndReceive_waits (hsend : clink.send_status ≠ .inprogress)
    (hfull : clink.receive_status ≠ .full)
    (htimer : clink.receive_status = .inprogress →
      isoTpTimeAfter ms clink.receive_timer_cr = false) :
    CanInterFace.pollAndReceive clink ms mem = ({ m_iso_link := clink }, {}) := by
  have hreceive : isotpReceive clink Client.isoTpBufferSize = (none, clink) := by
    rw [isotpReceive, if_pos hfull]
  simp only [pollAndReceive_quiet mem ms hsend htimer, hreceive, Option.bind_none]

/-- A complete message is emitted, and the link is free again. -/
theorem pollAndReceive_emits {p : QByteArray} (hsend : clink.send_status ≠ .inprogress)
    (h : Received p clink) (hpos : 0 < p.length) (hsize : p.length ≤ Client.isoTpBufferSize) :
    CanInterFace.pollAndReceive clink ms mem =
      ({ m_iso_link := { clink with receive_status := .idle } },
        { frames := [], received := some (Client.deserializeUDSMessage mem p) }) := by
  have hstatus : clink.receive_status ≠ .inprogress := by
    rw [h.status]
    exact fun heq => IsoTpReceiveStatus.noConfusion heq
  simp only [pollAndReceive_quiet mem ms hsend (fun hin => absurd hin hstatus), h.isotpReceive hsize,
    Option.bind_some, if_pos hpos]

theorem next_clientPoll_waits (hc : st.client = ⟨clink⟩) (hsend : clink.send_status ≠ .inprogress)
    (hfull : clink.receive_status ≠ .full)
    (htimer : clink.receive_status = .inprogress →
      isoTpTimeAfter ms clink.receive_timer_cr = false) :
    st.next mem (.clientPoll ms) = st := by
  simp only [next, CanInterFace.pollTimeout, hc, pollAndReceive_waits mem ms hsend hfull htimer,
    clientStep, List.append_nil, Option.toList_none]
  rw [← hc]

/-- An expired timer ends the message. -/
theorem next_clientPoll_expires (hc : st.client = ⟨clink⟩) (hsend : clink.send_status ≠ .inprogress)
    (hstatus : clink.receive_status = .inprogress)
    (hafter : isoTpTimeAfter ms clink.receive_timer_cr = true) :
    (st.next mem (.clientPoll ms)).client.m_iso_link.receive_protocol_result = .timeoutCr := by
  have hpoll : isotpPoll { ms := ms } clink =
      ({ clink with receive_protocol_result := .timeoutCr, receive_status := .idle }, []) := by
    rw [isotpPoll, if_neg hsend, pollTimeoutCr, if_pos ⟨hstatus, hafter⟩]
  simp only [next, CanInterFace.pollTimeout, hc, CanInterFace.pollAndReceive, hpoll, isotpReceive,
    ne_eq, reduceCtorEq, not_false_eq_true, if_true, clientStep]

variable {data : QByteArray} {rest : List CanFrameData}

/-- A frame that does not complete a message. -/
theorem next_deliverToClient_waits (hc : st.client = ⟨clink⟩)
    (hid : clink.receive_arbitration_id = CanId.udsResp)
    (hbus : st.toClient = { id := CanId.udsResp, data := data, len := 8 } :: rest)
    (hlen : data.length = 8) {clink' : IsoTpLink} {frames : List CanFrameData}
    (hframe : isotpOnCanMessage { ms := ms } clink data = (clink', frames))
    (hsend : clink'.send_status ≠ .inprogress) (hfull : clink'.receive_status ≠ .full)
    (htimer : clink'.receive_timer_cr = ms + isoTpDefaultResponseTimeout) :
    st.next mem (.deliverToClient ms) =
      { st with client := ⟨clink'⟩, toClient := rest, toServer := st.toServer ++ frames } := by
  have hwaits := pollAndReceive_waits mem ms hsend hfull
    fun _ => htimer ▸ not_timeAfter_self ms
  simp only [next, hbus, hc, CanInterFace.onFrame, hid, ne_eq, not_true_eq_false, if_false,
    bytes_of_eight _ hlen, hframe, hwaits, clientStep, List.append_nil, Option.toList_none]

/-- The frame that completes the message. -/
theorem next_deliverToClient_emits (hc : st.client = ⟨clink⟩)
    (hid : clink.receive_arbitration_id = CanId.udsResp)
    (hbus : st.toClient = { id := CanId.udsResp, data := data, len := 8 } :: rest)
    (hlen : data.length = 8) {clink' : IsoTpLink}
    (hframe : isotpOnCanMessage { ms := ms } clink data = (clink', []))
    (hsend : clink'.send_status ≠ .inprogress) {p : QByteArray} (hp : Received p clink')
    (hpos : 0 < p.length) (hsize : p.length ≤ Client.isoTpBufferSize) :
    st.next mem (.deliverToClient ms) =
      { st with
        client := ⟨{ clink' with receive_status := .idle }⟩
        toClient := rest
        emitted := st.emitted ++ [Client.deserializeUDSMessage mem p] } := by
  simp only [next, hbus, hc, CanInterFace.onFrame, hid, ne_eq, not_true_eq_false, if_false,
    bytes_of_eight _ hlen, hframe, pollAndReceive_emits mem ms hsend hp hpos hsize, clientStep,
    List.append_nil, Option.toList_some]

end

end CanSystem
end System
end TcpCanUds
