import TcpCanUds.Core.Framing
import TcpCanUds.Core.UdsHelper

/-!
# TcpWorker — what the client writes to its socket (`client/tcp_worker.cpp`)
-/

namespace TcpCanUds
namespace Client

open Lib

/-- `Tcp_worker::sendPacket`: the bytes handed to `m_socket->write`. -/
def sendPacket (type : UInt8) (payload : QByteArray) : QByteArray :=
  let lenLow := UInt8.ofNat (payload.length &&& 0xFF)
  let lenHigh := UInt8.ofNat ((payload.length >>> 8) &&& 0xFF)
  let headerBlock := [0xCD, 0xAB, type, lenLow, lenHigh]
  let crc := CrcHelper.calculate payload
  let crcLow := (crc &&& 0xFF).toUInt8
  let crcHigh := ((crc >>> 8) &&& 0xFF).toUInt8
  headerBlock ++ payload ++ [crcLow, crcHigh]

def sendUdsMessage (msg : UDSMessage) : QByteArray :=
  sendPacket 3 (serializeUDSMessage msg)

def sendHeartbeat : QByteArray :=
  sendPacket 2 []

end Client

/-! ## Packets as frames -/

open Lib

/-- What `sendPacket` is given: any type, and a payload of at most 1024 bytes. -/
structure Packet where
  type : UInt8
  payload : QByteArray
  fits : payload.length ≤ 1024

namespace Packet

def bytes (p : Packet) : QByteArray :=
  Client.sendPacket p.type p.payload

def frame (p : Packet) : Frame where
  type := p.type
  payload := p.payload
  crc := CrcHelper.calculate p.payload
  fits := p.fits.trans (by decide)

theorem bytes_eq_frame (p : Packet) : p.bytes = p.frame.bytes := by
  have hlen := bytes16_ofNat p.payload.length
  have hcrc := bytes16_masked (CrcHelper.calculate p.payload)
  simp only [bytes, Client.sendPacket, Frame.bytes, Frame.length, frame, ← hlen, ← hcrc]
  rfl

end Packet

/-- Packets with junk before each of them, and junk at the end. -/
def packetStream : List (Junk × Packet) → Junk → QByteArray
  | [], tail => tail.bytes
  | (junk, p) :: items, tail => junk.bytes ++ (p.bytes ++ packetStream items tail)

theorem packetStream_eq_stream (items : List (Junk × Packet)) (tail : Junk) :
    packetStream items tail = stream (items.map fun i => (i.1, i.2.frame)) tail := by
  induction items with
  | nil => rfl
  | cons i items ih => simp [packetStream, stream, ih, i.2.bytes_eq_frame]

def packetBytes (packets : List Packet) : QByteArray :=
  packets.flatMap Packet.bytes

theorem packetBytes_eq_stream (packets : List Packet) :
    packetBytes packets = stream (packets.map fun p => (Junk.empty, p.frame)) Junk.empty := by
  rw [stream_frames, packetBytes]
  exact congrArg (packets.flatMap ·) (funext Packet.bytes_eq_frame)

end TcpCanUds
