import TcpCanUds.Core.UdsHelper
import TcpCanUds.Server.HandlerSteps

/-!
# RequestBytes — what a response is made of besides the request

A decoded request and a response both start as a bare `UDSMessage msg;`, whose scalars hold whatever
the memory held.  The handlers write every field of a response that is sent.  The decoder leaves the
sub-function of a one-byte request unwritten, and four services read it.
-/

namespace TcpCanUds
namespace Server
namespace UdsHandler

/-- The memory under the two messages of one request. -/
structure StackContents where
  request : UDSMessage.Memory
  response : UDSMessage.Memory
  deriving DecidableEq, Repr

/-- A raw request is decoded and processed: the next session state and the bytes sent back. -/
def respond (env : HandlerEnv) (s : SessionState) (raw : QByteArray) (mem : StackContents) :
    SessionState × QByteArray :=
  let r := processRequest { env with mem := mem.response } s
    (deserializeUDSMessage mem.request raw)
  (r.1, serializeUDSMessage r.2)

/-- The next state and the bytes sent back are the same whatever the memory held. -/
def DependsOnBytesOnly (env : HandlerEnv) (s : SessionState) (raw : QByteArray) : Prop :=
  ∀ mem mem' : StackContents, respond env s raw mem = respond env s raw mem'

/-- The services that read the sub-function. -/
def ReadsSubFunction (sid : UInt8) : Prop :=
  sid = UdsSid.diagnosticSessionControl ∨ sid = UdsSid.ecuReset ∨ sid = UdsSid.securityAccess ∨
    sid = UdsSid.testerPresent

instance : DecidablePred ReadsSubFunction :=
  fun _ => inferInstanceAs (Decidable (_ ∨ _ ∨ _ ∨ _))

/-! ## What the handlers read -/

section

variable (env : HandlerEnv) (s : SessionState)

/-- The memory under the response does not reach the bytes that are sent. -/
theorem respond_response_memory (req : UDSMessage) (mem mem' : UDSMessage.Memory) :
    (processRequest { env with mem := mem } s req).1 =
        (processRequest { env with mem := mem' } s req).1 ∧
      serializeUDSMessage (processRequest { env with mem := mem } s req).2 =
        serializeUDSMessage (processRequest { env with mem := mem' } s req).2 := by
  simp only [processRequest, handleDiagnosticSessionControl, handleReadDataByIdentifier,
    handleTesterPresent, handleSecurityAccess, handleECUReset]
  split_ifs <;> exact ⟨rfl, rfl⟩

/-- Of a request the handler reads the service identifier, the sub-function and the payload. -/
theorem processRequest_congr {req req' : UDSMessage} (hsid : req.serviceId = req'.serviceId)
    (hsub : req.subFunction = req'.subFunction) (hpay : req.payload = req'.payload) :
    processRequest env s req = processRequest env s req' := by
  rcases req with ⟨_, sid, sub, pay, _, _, _, _⟩
  rcases req' with ⟨_, sid', sub', pay', _, _, _, _⟩
  simp only at hsid hsub hpay
  subst hsid hsub hpay
  rfl

/-- Outside the four services the sub-function is not read either. -/
theorem processRequest_congr_of_not_reads {req req' : UDSMessage}
    (hsid : req.serviceId = req'.serviceId) (hpay : req.payload = req'.payload)
    (hno : ¬ ReadsSubFunction req.serviceId) :
    processRequest env s req = processRequest env s req' := by
  rcases req with ⟨_, sid, sub, pay, _, _, _, _⟩
  rcases req' with ⟨_, sid', sub', pay', _, _, _, _⟩
  simp only at hsid hpay hno
  subst hsid hpay
  simp only [ReadsSubFunction, not_or] at hno
  rcases hno with ⟨hctl, hreset, hsec, htest⟩
  simp only [processRequest, if_neg hctl, if_neg hreset, if_neg hsec, if_neg htest]
  rfl

end

/-! ## What the decoder writes -/

/-- Of a one-byte request only the service identifier is written. -/
theorem deserialize_one_byte (mem : UDSMessage.Memory) (sid : UInt8) :
    (deserializeUDSMessage mem [sid]).serviceId = sid ∧
      (deserializeUDSMessage mem [sid]).subFunction = mem.subFunction ∧
      (deserializeUDSMessage mem [sid]).payload = [] := by
  simp only [deserializeUDSMessage]
  refine ⟨?_, ?_, ?_⟩
  · simp only [apply_ite UDSMessage.serviceId, ite_self]
    rfl
  · simp only [apply_ite UDSMessage.subFunction, ite_self]
    rfl
  · simp only [apply_ite UDSMessage.payload, ite_self]
    rfl

section

variable (env : HandlerEnv) (s : SessionState) {raw : QByteArray}

theorem dependsOnBytesOnly_of_congr
    (h : ∀ (mem mem' : UDSMessage.Memory) (env : HandlerEnv),
      processRequest env s (deserializeUDSMessage mem raw) =
        processRequest env s (deserializeUDSMessage mem' raw)) :
    DependsOnBytesOnly env s raw := by
  intro mem mem'
  have hresp := respond_response_memory env s (deserializeUDSMessage mem.request raw)
    mem.response mem'.response
  rw [respond, respond, ← h mem.request mem'.request]
  exact Prod.ext hresp.1 hresp.2

theorem dependsOnBytesOnly_of_two_le (h : 2 ≤ raw.length) : DependsOnBytesOnly env s raw := by
  refine dependsOnBytesOnly_of_congr env s ?_
  intro mem mem' env
  rcases deserialize_fields mem h with ⟨hsid, hsub, hpay⟩
  rcases deserialize_fields mem' h with ⟨hsid', hsub', hpay'⟩
  exact processRequest_congr env s (hsid.trans hsid'.symm) (hsub.trans hsub'.symm)
    (hpay.trans hpay'.symm)

theorem dependsOnBytesOnly_of_not_reads {sid : UInt8} (h : ¬ ReadsSubFunction sid) :
    DependsOnBytesOnly env s [sid] := by
  refine dependsOnBytesOnly_of_congr env s ?_
  intro mem mem' env
  rcases deserialize_one_byte mem sid with ⟨hsid, -, hpay⟩
  rcases deserialize_one_byte mem' sid with ⟨hsid', -, hpay'⟩
  refine processRequest_congr_of_not_reads env s (hsid.trans hsid'.symm)
    (hpay.trans hpay'.symm) ?_
  rwa [hsid]

/-- If the bytes decide the response, they decide whether the request is accepted. -/
theorem DependsOnBytesOnly.accepts_iff {env : HandlerEnv} {s : SessionState}
    (h : DependsOnBytesOnly env s raw) (mem mem' : UDSMessage.Memory) :
    Accepts s (deserializeUDSMessage mem raw) ↔ Accepts s (deserializeUDSMessage mem' raw) := by
  have heq := congrArg (fun r : SessionState × QByteArray => r.2.byteAt 0)
    (h ⟨mem, env.mem⟩ ⟨mem', env.mem⟩)
  -- the first byte of the response is `7F` exactly when the request is refused
  have hpos : ∀ m, Positive (processRequest env s (deserializeUDSMessage m raw)).2 ↔
      Accepts s (deserializeUDSMessage m raw) :=
    fun m => (processRequest_answers env s _).positive_iff
  rw [← hpos mem, ← hpos mem', Positive, Positive]
  exact not_congr (Eq.congr_left heq)

/-- Two contents of the memory let the request be accepted and refused. -/
theorem not_dependsOnBytesOnly {sid : UInt8} (h : ReadsSubFunction sid) :
    ¬ DependsOnBytesOnly env s [sid] := by
  intro hdep
  have hiff := hdep.accepts_iff { subFunction := 0x00 } { subFunction := 0x01 }
  rcases h with rfl | rfl | rfl | rfl <;>
    simp [Accepts, deserializeUDSMessage, UDSMessage.declare] at hiff

end

/-- The response depends on the bytes of the request alone exactly when the request has two bytes,
or one byte that names a service without sub-function. -/
theorem dependsOnBytesOnly_iff (env : HandlerEnv) (s : SessionState) (raw : QByteArray) :
    DependsOnBytesOnly env s raw ↔
      raw ≠ [] ∧ (2 ≤ raw.length ∨ ¬ ReadsSubFunction (raw.byteAt 0)) := by
  match raw with
  | [] =>
      refine iff_of_false ?_ (fun h => h.1 rfl)
      intro hdep
      have hiff := hdep.accepts_iff { serviceId := 0x3E } { serviceId := 0x00 }
      simp [Accepts, deserializeUDSMessage, UDSMessage.declare] at hiff
  | [sid] =>
      constructor
      · intro hdep
        exact ⟨by simp, Or.inr fun hreads => not_dependsOnBytesOnly env s hreads hdep⟩
      · rintro ⟨-, hlen | hno⟩
        · simp at hlen
        · exact dependsOnBytesOnly_of_not_reads env s hno
  | a :: b :: rest =>
      refine iff_of_true (dependsOnBytesOnly_of_two_le env s ?_) ⟨by simp, Or.inl ?_⟩ <;> simp

/-- The one-byte request `3E`: the memory decides between `7E 00` and `7F 3E`. -/
theorem tester_present_depends_on_memory :
    ¬ ∀ (env : HandlerEnv) (s : SessionState) (raw : QByteArray), raw ≠ [] →
      DependsOnBytesOnly env s raw := by
  intro h
  have heq := h {} {} [0x3E] (by decide) ⟨{ subFunction := 0x00 }, {}⟩
    ⟨{ subFunction := 0x01 }, {}⟩
  exact absurd heq (by decide)

end UdsHandler
end Server
end TcpCanUds
