import TcpCanUds.System.Reconnect
import TcpCanUds.System.UnlockAgreement

/-!
# Unlocking — an honest client and the security access, byte by byte

The seed of a `67 01` response goes through the server's encoder and framing, the client's parser
and decoder and the key calculation, and comes back as a key request.  However both streams are cut,
the server takes the key.
-/

namespace TcpCanUds
namespace System

open Lib Client Server UdsHandler UdsWorker

/-! ## What travels -/

/-- The bytes the server writes for its answer to a request. -/
def answerBytes (server : SessionState) (i : WorkerInput) : QByteArray :=
  (worker.step server i).2.toList.flatMap fun reply => constructUdsPacket reply.response

/-- The messages the client receives with a fresh parser. -/
def received (mem : UDSMessage.Memory) (chunks : List QByteArray) : List UDSMessage :=
  TcpConnection.udsMessages mem (Client.ProtocolParser.pushAll chunks).1

/-- The bytes the client writes when it handles a message. -/
def reactionBytes (client : ClientState) (msg : UDSMessage) : QByteArray :=
  (onUdsMessageReceived client msg).2.flatMap (sendPacket 3)

def requestBytes (requests : List (FittingMessage 1024)) : QByteArray :=
  requests.flatMap fun m => Client.sendUdsMessage m.msg

/-- The server takes the key: it fits the stored seed, the session is authenticated, and the answer
is `67 02`. -/
structure KeyTaken (s : SessionState) (i : WorkerInput) : Prop where
  fits : validateSecurityKey s.seed (providedKey i.msg) = true
  authenticated : (worker.step s i).1.isAuthenticated = true
  answer : ∃ reply, (worker.step s i).2 = some reply ∧
    reply.response.serviceId = 0x67 ∧ reply.response.subFunction = 0x02

/-! ## The two answers of the server -/

section

variable {s : SessionState} {i : WorkerInput}

theorem processRequest_securityAccess (hsid : i.msg.serviceId = UdsSid.securityAccess) :
    processRequest i.env s i.msg = handleSecurityAccess i.env s i.msg := by
  simp [processRequest, refusedInSession, hsid]

/-- `27 01` is answered in every session: the seed is drawn, stored and sent. -/
theorem worker_seed (hsid : i.msg.serviceId = UdsSid.securityAccess)
    (hsub : i.msg.subFunction = 0x01) :
    (worker.step s i).1.seed = generateSecuritySeed i.env ∧
      ∃ reply, (worker.step s i).2 = some reply ∧
        serializeUDSMessage reply.response =
          0x67 :: 0x01 :: bytes32 (generateSecuritySeed i.env) := by
  have hprocess := processRequest_securityAccess (s := s) hsid
  have hodd : i.msg.subFunction % 2 = 1 := by
    rw [hsub]
    decide
  rw [handleSecurityAccess, if_pos hodd] at hprocess
  rcases worker_replies s i with ⟨reply, hsome, hresp⟩
  refine ⟨?_, reply, hsome, ?_⟩
  · rw [worker_step_fst, hprocess]
  · rw [hresp, processUdsRequest, hprocess, hsub]
    rfl

/-- `27 02` with the key of the stored seed is taken. -/
theorem keyTaken_of_carriesKey (hkey : CarriesKey s.seed i.msg)
    (hsub : i.msg.subFunction = 0x02) : KeyTaken s i := by
  rcases hkey with ⟨⟨hsid, heven⟩, hlen, hvalid⟩
  have hprocess := processRequest_securityAccess (s := s) hsid
  rw [handleSecurityAccess, if_neg heven, if_neg (Nat.not_lt_of_le hlen), if_pos hvalid] at hprocess
  rcases worker_replies s i with ⟨reply, hsome, hresp⟩
  refine ⟨hvalid, ?_, reply, hsome, ?_⟩
  · rw [worker_step_fst, hprocess]
  · rw [hresp, processUdsRequest, hprocess, hsub]
    exact ⟨rfl, rfl⟩

end

/-! ## There and back -/

/-- The key request of the client for a seed. -/
def keyMessage (seed : UInt32) : FittingMessage 1024 where
  msg :=
    { UDSMessage.declare {} with
      serviceId := UdsSid.securityAccess
      subFunction := 0x02
      payload := calculateKeyFromSeed (bytes32 seed)
      isResponse := false }
  fits := by simp [calculateKeyFromSeed]

/-- A message `67 01` with a seed makes the client write the key request for it, in every state. -/
theorem reactionBytes_seed (client : ClientState) {msg : UDSMessage} {seed : UInt32}
    (hneg : msg.isNegativeResponse = false) (hsid : msg.serviceId = 0x67)
    (hsub : msg.subFunction = 0x01) (hpay : msg.payload = bytes32 seed) :
    reactionBytes client msg = Client.sendUdsMessage (keyMessage seed).msg := by
  have hsends : (Client.onUdsMessageReceived client msg).2 =
      [sendSecurityKey (calculateKeyFromSeed (bytes32 seed))] := by
    rw [Client.onUdsMessageReceived, if_neg (by rw [hsid]; decide), if_neg (by simp [hneg]),
      if_pos ⟨hsid, hsub⟩, hpay]
  rw [reactionBytes, hsends]
  simp only [List.flatMap_cons, List.flatMap_nil, List.append_nil]
  rfl

theorem received_responses (mem : UDSMessage.Memory) {responses : List (FittingMessage 65535)}
    {chunks : List QByteArray} (h : chunks.flatten = responseBytes responses) :
    received mem chunks = responses.map fun m => Client.deserializeUDSMessage mem m.raw := by
  rw [received, responses_arrive h, udsMessages_dispatch]

/-- The server's answer to `27 01` is the last message the client receives, with the seed in it. -/
theorem seed_received {server : SessionState} {asked : WorkerInput}
    (hsid : asked.msg.serviceId = UdsSid.securityAccess) (hsub : asked.msg.subFunction = 0x01)
    (responses : List (FittingMessage 65535)) {chunks : List QByteArray}
    (h : chunks.flatten = responseBytes responses ++ answerBytes server asked)
    (mem : UDSMessage.Memory) :
    ∃ msg, received mem chunks =
        (responses.map fun m => Client.deserializeUDSMessage mem m.raw) ++ [msg] ∧
      msg.isNegativeResponse = false ∧ msg.serviceId = 0x67 ∧ msg.subFunction = 0x01 ∧
      msg.payload = bytes32 (generateSecuritySeed asked.env) := by
  rcases (worker_seed (s := server) hsid hsub).2 with ⟨reply, hsome, hraw⟩
  -- six bytes, so the length field holds its size
  let response : FittingMessage 65535 :=
    { msg := reply.response
      fits := by simp [hraw] }
  have hresponse : response.raw = 0x67 :: 0x01 :: bytes32 (generateSecuritySeed asked.env) := hraw
  have hstream : chunks.flatten = responseBytes (responses ++ [response]) := by
    rw [h, responseBytes, responseBytes, List.flatMap_append, answerBytes, hsome]
    rfl
  have hlen : 2 ≤ response.raw.length := two_le_length_serialize _
  have hpos : response.raw.byteAt 0 ≠ UdsSid.negativeResponse := by
    rw [hresponse]
    exact (by decide : (0x67 : UInt8) ≠ 0x7F)
  -- the client decodes the fields by their places
  rcases Client.deserialize_fields mem hlen hpos with ⟨h₀, h₁, h₂, hneg⟩
  refine ⟨Client.deserializeUDSMessage mem response.raw, ?_, hneg, ?_, ?_, ?_⟩
  · rw [received_responses mem hstream, List.map_append]
    rfl
  · rw [h₀, hresponse]
    rfl
  · rw [h₁, hresponse]
    rfl
  · rw [h₂, hresponse]
    rfl

/-- An honest client always unlocks.  The server answers `27 01` with a seed; the client handles the
answer, which came behind earlier responses; what it writes reaches the server behind earlier
requests.  Then the server takes the key, with its session as the answer left it. -/
theorem honest_client_unlocks {server : SessionState} {asked : WorkerInput} {seed : UInt32}
    (hsid : asked.msg.serviceId = UdsSid.securityAccess) (hsub : asked.msg.subFunction = 0x01)
    (hseed : generateSecuritySeed asked.env = seed)
    (responses : List (FittingMessage 65535)) {toClient : List QByteArray}
    (htoClient : toClient.flatten = responseBytes responses ++ answerBytes server asked)
    (mem : UDSMessage.Memory) (client : ClientState) :
    ∃ seedMsg, received mem toClient =
        (responses.map fun m => Client.deserializeUDSMessage mem m.raw) ++ [seedMsg] ∧
      seedMsg.payload = bytes32 seed ∧
      ∀ (requests : List (FittingMessage 1024)) (toServer : List QByteArray),
        toServer.flatten = requestBytes requests ++ reactionBytes client seedMsg →
        ∃ raw, Server.ProtocolParser.udsPackets (Server.ProtocolParser.pushAll toServer).1 =
            requests.map FittingMessage.raw ++ [raw] ∧
          ∀ (key : WorkerInput) (mem' : UDSMessage.Memory),
            key.msg = Server.deserializeUDSMessage mem' raw →
              KeyTaken (worker.step server asked).1 key := by
  rcases seed_received hsid hsub responses htoClient mem with
    ⟨seedMsg, hreceived, hneg, hsid', hsub', hpay⟩
  rw [hseed] at hpay
  refine ⟨seedMsg, hreceived, hpay, ?_⟩
  intro requests toServer htoServer
  -- the reaction of the client is one more request
  have hstream : toServer.flatten =
      (requests ++ [keyMessage seed]).flatMap fun m => Client.sendUdsMessage m.msg := by
    rw [htoServer, reactionBytes_seed client hneg hsid' hsub' hpay, List.flatMap_append,
      List.flatMap_singleton]
    rfl
  refine ⟨(keyMessage seed).raw, ?_, ?_⟩
  · rw [requests_arrive hstream, List.map_append]
    rfl
  · intro key mem' hkey
    have hlen : 2 ≤ (keyMessage seed).raw.length := two_le_length_serialize _
    -- the server still has the seed it answered with
    have hstored : (worker.step server asked).1.seed = seed := by
      rw [(worker_seed hsid hsub).1, hseed]
    apply keyTaken_of_carriesKey
    · rw [hstored, hkey]
      exact carriesKey_sendSecurityKey mem' seed
    · rw [hkey, (Server.deserialize_fields mem' hlen).2.1]
      rfl

/-- A request for a seed, answered with the bytes of a magic number and the sign bit. -/
def askForMagicSeed : WorkerInput where
  source := .tcp clientId
  env := { digest := 0x8003ABCD }
  msg := Server.deserializeUDSMessage {} [0x27, 0x01]

theorem honest_client_unlocks_magicSeed :
    ∃ seedMsg raw,
      received {} [(answerBytes {} askForMagicSeed).take 9, (answerBytes {} askForMagicSeed).drop 9] =
          [seedMsg] ∧ seedMsg.payload = [0xCD, 0xAB, 0x03, 0x80] ∧
        Server.ProtocolParser.udsPackets
          (Server.ProtocolParser.pushAll [reactionBytes {} seedMsg]).1 = [raw] ∧
        KeyTaken (worker.step {} askForMagicSeed).1
          { source := .tcp clientId, msg := Server.deserializeUDSMessage {} raw } := by
  have hcut : [(answerBytes {} askForMagicSeed).take 9,
      (answerBytes {} askForMagicSeed).drop 9].flatten =
        responseBytes [] ++ answerBytes {} askForMagicSeed := by
    simp only [List.flatten_cons, List.flatten_nil, List.append_nil, List.take_append_drop]
    rfl
  rcases @honest_client_unlocks {} askForMagicSeed 0x8003ABCD rfl rfl rfl [] _ hcut {} {} with
    ⟨seedMsg, hreceived, hpay, hall⟩
  rcases hall [] [reactionBytes {} seedMsg] (by simp [requestBytes]) with ⟨raw, hraw, hkey⟩
  exact ⟨seedMsg, raw, hreceived, hpay, hraw, hkey _ {} rfl⟩

end System
end TcpCanUds
