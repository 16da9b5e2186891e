import TcpCanUds.Client.ProtocolParser
import TcpCanUds.Server.ProtocolParser
import TcpCanUds.Server.TcpWorkerServer

/-!
# Transport — messages through the framing, both ways

What one side serializes and frames, the other side's parser gives back, message by message and
however TCP cuts the stream.  So a connection is a first-in first-out channel of serialized
messages, which is how the two-party system models it.
-/

namespace TcpCanUds
namespace System

/-- A message whose serialized form has at most `n` bytes. -/
structure FittingMessage (n : Nat) where
  msg : UDSMessage
  fits : (serializeUDSMessage msg).length ≤ n

namespace FittingMessage

def raw {n : Nat} (m : FittingMessage n) : QByteArray :=
  serializeUDSMessage m.msg

theorem raw_ne_nil {n : Nat} (m : FittingMessage n) : m.raw ≠ [] :=
  ne_nil_of_two_le (two_le_length_serialize m.msg)

def packet (m : FittingMessage 1024) : Packet where
  type := 3
  payload := m.raw
  fits := m.fits

def frame (m : FittingMessage 65535) : Frame :=
  Server.responseFrame m.msg m.fits

end FittingMessage

/-! ## Requests -/

theorem udsPayloads_packets (requests : List (FittingMessage 1024)) :
    Server.ProtocolParser.udsPayloads (requests.map FittingMessage.packet) =
      requests.map FittingMessage.raw := by
  have hall : (requests.map FittingMessage.packet).filter
      (fun p => p.type = 3 ∧ p.payload ≠ []) = requests.map FittingMessage.packet := by
    refine List.filter_eq_self.2 ?_
    intro p hp
    rcases List.mem_map.1 hp with ⟨m, -, rfl⟩
    exact decide_eq_true ⟨rfl, m.raw_ne_nil⟩
  rw [Server.ProtocolParser.udsPayloads, hall, List.map_map]
  rfl

/-- The server's parser gives the client's requests back, in order. -/
theorem requests_arrive {requests : List (FittingMessage 1024)} {chunks : List QByteArray}
    (h : chunks.flatten = requests.flatMap fun m => Client.sendUdsMessage m.msg) :
    Server.ProtocolParser.udsPackets (Server.ProtocolParser.pushAll chunks).1 =
      requests.map FittingMessage.raw := by
  have hitems := Server.ProtocolParser.frameReader_accepts_packets
    (requests.map fun m => (Junk.empty, m.packet))
  have hout := Server.ProtocolParser.udsPackets_outcomes
    (requests.map fun m => (Junk.empty, m.packet))
  simp only [List.map_map] at hitems hout
  have hstream : chunks.flatten =
      stream (requests.map fun m => (Junk.empty, m.packet.frame)) Junk.empty := by
    rw [stream_frames, h]
    exact congrArg (requests.flatMap ·) (funext fun m => m.packet.bytes_eq_frame)
  rw [Server.ProtocolParser.pushAll,
    Server.ProtocolParser.frameReader.feedAll_stream hitems hstream]
  exact hout.trans (udsPayloads_packets requests)

/-! ## Responses -/

/-- The client's parser dispatches the server's responses, in order, and meets no error. -/
theorem responses_arrive {responses : List (FittingMessage 65535)} {chunks : List QByteArray}
    (h : chunks.flatten = responses.flatMap fun m => Server.constructUdsPacket m.msg) :
    (Client.ProtocolParser.pushAll chunks).1 =
      responses.map fun m => .dispatch 3 m.raw := by
  have hstream : chunks.flatten =
      stream (responses.map fun m => (Junk.empty, m.frame)) Junk.empty := by
    rw [stream_frames, h]
    exact congrArg (responses.flatMap ·)
      (funext fun m => Server.constructUdsPacket_eq_frame m.msg m.fits)
  have hframe : ∀ m : FittingMessage 65535,
      Client.ProtocolParser.frameOutcome m.frame = .dispatch 3 m.raw := by
    intro m
    simp [Client.ProtocolParser.frameOutcome, FittingMessage.frame, Server.responseFrame,
      FittingMessage.raw]
  rw [Client.ProtocolParser.pushAll,
    Client.ProtocolParser.frameReader.feedAll_stream (fun _ _ => trivial) hstream,
    List.flatMap_map]
  simp only [Client.ProtocolParser.frameReader, hframe, List.map_eq_flatMap]

end System
end TcpCanUds
