import TcpCanUds.Core.IsoTpSteps
import TcpCanUds.Core.UdsHelper
import TcpCanUds.Lib.Machine

/-!
# CanWorkerServer — UDS messages over the server's ISO-TP link (`server/can_worker_server.cpp`)

Responses are handed to `sendUdsMessage`, received frames to `onFrameReceived`, and a timer polls the
link.  A response that meets a transmission in progress is given up without a word: of all return
values `sendUdsMessage` leaves out of its report, `ISOTP_RET_INPROGRESS` is the one that is a failure.
-/

namespace TcpCanUds
namespace Server

open Lib IsoTp

/-- `bufferSize` in `init`. -/
abbrev isoTpBufferSize : Nat := 4096

structure CanWorkerServer where
  m_initialized : Bool
  m_isoTpLink : Option IsoTpLink
  deriving DecidableEq, Repr

/-- What a call of the worker brings out: frames for the bus, a reported failure, a message for the
UDS worker. -/
structure CanWorkerOutput where
  frames : List CanFrameData := []
  failed : Option IsoTpRet := none
  received : Option UDSMessage := none
  deriving DecidableEq, Repr

namespace CanWorkerServer

/-- `init`; `result` tells whether the CAN interface came up.  The send function is set here. -/
def init (buffers : IsoTpBuffers isoTpBufferSize) (result : Bool) : CanWorkerServer where
  m_initialized := result
  m_isoTpLink := some (isotpInitLink CanId.udsResp buffers)

def sendUdsMessage (w : CanWorkerServer) (ms : UInt32) (msg : UDSMessage) :
    CanWorkerServer × CanWorkerOutput :=
  if ¬ w.m_initialized then (w, {})
  else
    match w.m_isoTpLink with
    | none => (w, {})
    | some link =>
        let udsRaw := serializeUDSMessage msg
        -- the size is cast to sixteen bits
        let result := isotpSend { ms := ms } link (udsRaw.take (udsRaw.length % 65536))
        ({ w with m_isoTpLink := some result.link },
          { frames := result.frames
            failed :=
              if result.ret ≠ .ok ∧ result.ret ≠ .inprogress then some result.ret else none })

def onFrameReceived (w : CanWorkerServer) (ms : UInt32) (mem : UDSMessage.Memory)
    (frame : CanFrameData) : CanWorkerServer × CanWorkerOutput :=
  match w.m_isoTpLink with
  | none => (w, {})
  | some link =>
      if frame.id ≠ CanId.udsReq then (w, {})
      else
        let handled := isotpOnCanMessage { ms := ms } link frame.bytes
        let received := isotpReceive handled.1 handled.1.receive_buf_size
        ({ w with m_isoTpLink := some received.2 },
          { frames := handled.2
            received :=
              match received.1 with
              | none => none
              | some udsRaw =>
                  if 0 < udsRaw.length then
                    some { deserializeUDSMessage mem udsRaw with isResponse := true }
                  else none })

/-- The slot of `m_pollTimer`. -/
def pollTimeout (w : CanWorkerServer) (ms : UInt32) : CanWorkerServer × CanWorkerOutput :=
  match w.m_isoTpLink with
  | none => (w, {})
  | some link =>
      if w.m_initialized then
        let polled := isotpPoll { ms := ms } link
        ({ w with m_isoTpLink := some polled.1 }, { frames := polled.2 })
      else (w, {})

end CanWorkerServer

/-- The calls of the worker, with the clock at the call. -/
inductive CanWorkerInput where
  | sendUdsMessage (ms : UInt32) (msg : UDSMessage)
  | frameReceived (ms : UInt32) (mem : UDSMessage.Memory) (frame : CanFrameData)
  | pollTimeout (ms : UInt32)
  deriving DecidableEq, Repr

namespace CanWorkerServer

/-- The worker behind a successful `init`. -/
def worker (buffers : IsoTpBuffers isoTpBufferSize) :
    Machine CanWorkerServer CanWorkerInput CanWorkerOutput where
  init := init buffers true
  step w i :=
    match i with
    | .sendUdsMessage ms msg => w.sendUdsMessage ms msg
    | .frameReceived ms mem frame => w.onFrameReceived ms mem frame
    | .pollTimeout ms => w.pollTimeout ms

/-- A message of several frames is being sent. -/
def Transmitting (w : CanWorkerServer) : Prop :=
  ∃ link ∈ w.m_isoTpLink, link.send_status = .inprogress

theorem sendUdsMessage_eq {w : CanWorkerServer} {link : IsoTpLink} (ms : UInt32) (msg : UDSMessage)
    (hinit : w.m_initialized = true) (hlink : w.m_isoTpLink = some link) :
    w.sendUdsMessage ms msg =
      let result := isotpSend { ms := ms } link
        ((serializeUDSMessage msg).take ((serializeUDSMessage msg).length % 65536))
      ({ w with m_isoTpLink := some result.link },
        { frames := result.frames
          failed :=
            if result.ret ≠ .ok ∧ result.ret ≠ .inprogress then some result.ret else none }) := by
  simp only [sendUdsMessage, hinit, hlink, not_true_eq_false, if_false]

/-- The size a message is cast to is the length of what is left of it. -/
theorem length_cast (raw : QByteArray) :
    (raw.take (raw.length % 65536)).length = raw.length % 65536 := by
  rw [List.length_take, Nat.min_eq_left (Nat.mod_le _ _)]

/-- A message whose cast size is more than the buffer holds is refused, and its failure reported. -/
theorem failed_of_overflow {w : CanWorkerServer} {link : IsoTpLink} (ms : UInt32) (msg : UDSMessage)
    (hinit : w.m_initialized = true) (hlink : w.m_isoTpLink = some link)
    (hover : link.send_buf_size < (serializeUDSMessage msg).length % 65536) :
    (w.sendUdsMessage ms msg).2.failed = some .overflow := by
  rw [← length_cast] at hover
  rw [sendUdsMessage_eq ms msg hinit hlink, isotpSend_overflow hover]
  rfl

/-- A message of several frames on a fresh link is being sent. -/
theorem transmitting_sendUdsMessage (buffers : IsoTpBuffers isoTpBufferSize) {msg : UDSMessage}
    (ms : UInt32) (hlong : 8 ≤ (serializeUDSMessage msg).length)
    (hsize : (serializeUDSMessage msg).length ≤ isoTpBufferSize) :
    ((init buffers true).sendUdsMessage ms msg).1.Transmitting := by
  have hmod : (serializeUDSMessage msg).length % 65536 = (serializeUDSMessage msg).length :=
    Nat.mod_eq_of_lt (Nat.lt_of_le_of_lt hsize (by decide))
  have hidle : (isotpInitLink CanId.udsResp buffers).send_status ≠ .inprogress :=
    fun h => IsoTpSendStatus.noConfusion h
  have heq := sendUdsMessage_eq ms msg (w := init buffers true) rfl rfl
  rw [hmod, List.take_length, isotpSend_first rfl hsize hidle hlong] at heq
  exact ⟨_, congrArg (fun r => r.1.m_isoTpLink) heq, rfl⟩

/-- A response of eight bytes. -/
def longResponse : UDSMessage :=
  { UDSMessage.declare {} with
    serviceId := 0x62, subFunction := 0xF1, payload := [0x90, 0x31, 0x32, 0x33, 0x34, 0x35] }

end CanWorkerServer
end Server
end TcpCanUds
