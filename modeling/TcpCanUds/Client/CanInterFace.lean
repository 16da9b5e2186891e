import TcpCanUds.Core.IsoTpSteps
import TcpCanUds.Core.UdsHelper

/-!
# CanInterFace — UDS messages over the client's ISO-TP link (`core/can_interface.cpp` of the client)

The client feeds every response frame to its link and polls the link behind it; a timer polls it as
well.  Both take out a complete message and emit it.
-/

namespace TcpCanUds
namespace Client

open IsoTp

/-- `ISO_TP_BUFFER_SIZE` -/
abbrev isoTpBufferSize : Nat := 1024

structure CanInterFace where
  m_iso_link : IsoTpLink
  deriving DecidableEq, Repr

structure CanInterFaceOutput where
  frames : List CanFrameData := []
  received : Option UDSMessage := none
  deriving DecidableEq, Repr

namespace CanInterFace

/-- The link behind a successful `init`. -/
def init (buffers : IsoTpBuffers isoTpBufferSize) : CanInterFace where
  m_iso_link :=
    { isotpInitLink CanId.udsReq buffers with receive_arbitration_id := CanId.udsResp }

/-- `isotp_poll` and `isotp_receive`, as behind each frame and in the slot of `m_pollTimer`. -/
def pollAndReceive (link : IsoTpLink) (ms : UInt32) (mem : UDSMessage.Memory) :
    CanInterFace × CanInterFaceOutput :=
  let polled := isotpPoll { ms := ms } link
  let received := isotpReceive polled.1 isoTpBufferSize
  ({ m_iso_link := received.2 },
    { frames := polled.2
      received := received.1.bind fun raw =>
        if 0 < raw.length then some (deserializeUDSMessage mem raw) else none })

/-- One round of `onFramesReceived`. -/
def onFrame (c : CanInterFace) (ms : UInt32) (mem : UDSMessage.Memory) (frame : CanFrameData) :
    CanInterFace × CanInterFaceOutput :=
  if frame.id ≠ c.m_iso_link.receive_arbitration_id then (c, {})
  else
    let handled := isotpOnCanMessage { ms := ms } c.m_iso_link frame.bytes
    let rest := pollAndReceive handled.1 ms mem
    (rest.1, { rest.2 with frames := handled.2 ++ rest.2.frames })

def pollTimeout (c : CanInterFace) (ms : UInt32) (mem : UDSMessage.Memory) :
    CanInterFace × CanInterFaceOutput :=
  pollAndReceive c.m_iso_link ms mem

end CanInterFace
end Client
end TcpCanUds
