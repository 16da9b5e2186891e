import TcpCanUds.Core.Framing
import TcpCanUds.Core.UdsHelper

/-!
# TcpWorkerServer — what the server writes to a client (`server/tcpworkerserver.cpp`)
-/

namespace TcpCanUds
namespace Server

open Lib

/-- `TcpWorkerServer::constructUdsPacket`. -/
def constructUdsPacket (msg : UDSMessage) : QByteArray :=
  let payload := serializeUDSMessage msg
  let len := UInt16.ofNat payload.length
  let header := [0xCD, 0xAB, 3, (len &&& 0xFF).toUInt8, ((len >>> 8) &&& 0xFF).toUInt8]
  let crc := CrcHelper.calculate payload
  header ++ payload ++ [(crc &&& 0xFF).toUInt8, ((crc >>> 8) &&& 0xFF).toUInt8]

def responseFrame (msg : UDSMessage) (h : (serializeUDSMessage msg).length ≤ 65535) : Frame where
  type := 3
  payload := serializeUDSMessage msg
  crc := CrcHelper.calculate (serializeUDSMessage msg)
  fits := h

theorem constructUdsPacket_eq_frame (msg : UDSMessage)
    (h : (serializeUDSMessage msg).length ≤ 65535) :
    constructUdsPacket msg = (responseFrame msg h).bytes := by
  have hlen := bytes16_masked (UInt16.ofNat (serializeUDSMessage msg).length)
  have hcrc := bytes16_masked (CrcHelper.calculate (serializeUDSMessage msg))
  simp only [constructUdsPacket, responseFrame, Frame.bytes, Frame.length, ← hlen, ← hcrc]
  rfl

end Server
end TcpCanUds
