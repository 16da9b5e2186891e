import TcpCanUds.Core.UdsHelper
import TcpCanUds.Server.HandlerSteps

/-!
# ResponseCodec — responses from the server's encoder to the client's decoder

The server serializes the service identifier, the sub-function and the payload of a response; the
client expects the code of a negative response as the third byte.  Positive responses survive the
way.  `makeNegativeResponse` keeps the code out of the payload, so no negative response does.
-/

namespace TcpCanUds
namespace System

open Server UdsHandler

/-- The decoded message means the response: for a positive one the three serialized fields and no
flag; for a negative one the flag, the rejected service and the code. -/
structure SameMeaning (r decoded : UDSMessage) : Prop where
  positive : Positive r → decoded.serviceId = r.serviceId ∧
    decoded.subFunction = r.subFunction ∧ decoded.payload = r.payload ∧
    decoded.isNegativeResponse = false
  negative : ¬ Positive r → decoded.isNegativeResponse = true ∧
    decoded.serviceId = r.subFunction ∧ decoded.negativeCode = r.negativeCode

def clientView (mem : UDSMessage.Memory) (r : UDSMessage) : UDSMessage :=
  Client.deserializeUDSMessage mem (serializeUDSMessage r)

section

variable {env : HandlerEnv} {s s' : SessionState} {req r : UDSMessage}

theorem sameMeaning_of_positive (mem : UDSMessage.Memory) (r : UDSMessage)
    (hpos : Positive r) : SameMeaning r (clientView mem r) :=
  ⟨fun _ => Client.deserialize_fields mem (two_le_length_serialize r) hpos,
    fun hneg => absurd hpos hneg⟩

/-- The client reads the code `0` out of every negative response. -/
theorem negativeCode_clientView (mem : UDSMessage.Memory) (h : Answers env s req s' r)
    (hneg : ¬ Positive r) : (clientView mem r).negativeCode = 0 := by
  have hcode :=
    (Client.deserialize_negative mem (two_le_length_serialize r) (not_not.1 hneg)).2.2
  rwa [length_serializeUDSMessage, (h.of_not_positive hneg).1, if_neg (by decide)] at hcode

theorem not_sameMeaning_of_negative (mem : UDSMessage.Memory) (h : Answers env s req s' r)
    (hneg : ¬ Positive r) : ¬ SameMeaning r (clientView mem r) := by
  intro hsame
  have hcode := (hsame.negative hneg).2.2
  rw [negativeCode_clientView mem h hneg] at hcode
  exact (h.of_not_positive hneg).2 hcode.symm

end

/-- The client understands the response exactly when the server accepts the request. -/
theorem sameMeaning_iff_accepts (env : HandlerEnv) (s : SessionState) (req : UDSMessage)
    (mem : UDSMessage.Memory) :
    SameMeaning (processRequest env s req).2 (clientView mem (processRequest env s req).2) ↔
      Accepts s req := by
  have h := processRequest_answers env s req
  rw [← h.positive_iff]
  constructor
  · intro hsame
    by_contra hneg
    exact not_sameMeaning_of_negative mem h hneg hsame
  · exact sameMeaning_of_positive mem _

/-- A fresh server refuses `10 02` with the code `0x33`; the client reads the code `0`. -/
theorem refused_code_lost :
    ¬ ∀ (env : HandlerEnv) (s : SessionState) (req : UDSMessage) (mem : UDSMessage.Memory),
      SameMeaning (processRequest env s req).2
        (clientView mem (processRequest env s req).2) := by
  intro h
  have hsame := h {} {} (deserializeUDSMessage {} [0x10, 0x02]) {}
  exact absurd (hsame.negative (by decide)).2.2 (by decide)

end System
end TcpCanUds
