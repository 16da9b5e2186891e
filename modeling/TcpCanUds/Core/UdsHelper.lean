import TcpCanUds.Core.Types

/-!
# UdsHelper — UDS messages as bytes (`core/udshelper.cpp` of both programs)

`serializeUDSMessage` is the same in both programs.  The two `deserializeUDSMessage` differ: the
server's leaves fields of the declared message untouched on short input, the client's writes the
service fields on every non-empty input and moves the fields of a negative response.
-/

namespace TcpCanUds

/-- `udshelper::serializeUDSMessage`. -/
def serializeUDSMessage (msg : UDSMessage) : QByteArray :=
  msg.serviceId :: msg.subFunction :: msg.payload

namespace Server

/-- `udshelper::deserializeUDSMessage` of the server. -/
def deserializeUDSMessage (mem : UDSMessage.Memory) (raw : QByteArray) : UDSMessage :=
  let msg := UDSMessage.declare mem
  if raw.isEmpty then msg
  else
    let msg := { msg with serviceId := raw.byteAt 0 }
    let msg := if 2 ≤ raw.length then { msg with subFunction := raw.byteAt 1 } else msg
    let msg := if 2 < raw.length then { msg with payload := raw.midFrom 2 } else msg
    let msg := if 0x40 ≤ msg.serviceId then { msg with isResponse := true } else msg
    if msg.serviceId = UdsSid.negativeResponse then
      let msg := { msg with isNegativeResponse := true }
      if 3 ≤ raw.length then { msg with negativeCode := raw.byteAt 2 } else msg
    else msg

end Server

namespace Client

/-- `udshelper::deserializeUDSMessage` of the client. -/
def deserializeUDSMessage (mem : UDSMessage.Memory) (raw : QByteArray) : UDSMessage :=
  let msg := UDSMessage.declare mem
  if raw.isEmpty then msg
  else
    let sid := raw.byteAt 0
    let msg := { msg with isResponse := false, isNegativeResponse := false, negativeCode := 0 }
    if sid = UdsSid.negativeResponse then
      { msg with
        isNegativeResponse := true
        isResponse := true
        serviceId := if 2 ≤ raw.length then raw.byteAt 1 else 0
        subFunction := if 2 ≤ raw.length then raw.byteAt 1 else 0
        negativeCode := if 3 ≤ raw.length then raw.byteAt 2 else 0
        payload := if 3 < raw.length then raw.midFrom 3 else [] }
    else if 0x40 ≤ sid ∧ sid ≠ UdsSid.negativeResponse then
      { msg with
        isResponse := true
        serviceId := sid
        subFunction := if 2 ≤ raw.length then raw.byteAt 1 else 0
        payload := if 2 < raw.length then raw.midFrom 2 else [] }
    else
      { msg with
        isResponse := false
        serviceId := sid
        subFunction := if 2 ≤ raw.length then raw.byteAt 1 else 0
        payload := if 2 < raw.length then raw.midFrom 2 else [] }

end Client

/-! ## What the decoders see -/

section

variable (mem : UDSMessage.Memory) {raw : QByteArray}

/-- `if (size > 2) payload = mid(2)` takes the payload, also when it is empty. -/
theorem payload_of_raw (raw : QByteArray) :
    (if 2 < raw.length then raw.midFrom 2 else []) = raw.midFrom 2 := by
  split_ifs with h
  · rfl
  · exact (List.drop_eq_nil_of_le (Nat.le_of_not_lt h)).symm

theorem ne_nil_of_two_le (h : 2 ≤ raw.length) : raw ≠ [] :=
  List.ne_nil_of_length_pos (by omega)

theorem Server.deserialize_fields (h : 2 ≤ raw.length) :
    (Server.deserializeUDSMessage mem raw).serviceId = raw.byteAt 0 ∧
      (Server.deserializeUDSMessage mem raw).subFunction = raw.byteAt 1 ∧
      (Server.deserializeUDSMessage mem raw).payload = raw.midFrom 2 := by
  simp only [Server.deserializeUDSMessage, List.isEmpty_iff, ne_nil_of_two_le h, h, if_true,
    if_false]
  refine ⟨?_, ?_, ?_⟩
  · simp only [apply_ite UDSMessage.serviceId, ite_self]
  · simp only [apply_ite UDSMessage.subFunction, ite_self]
  · simp only [apply_ite UDSMessage.payload, ite_self]
    exact payload_of_raw raw

/-- From two bytes on the client reads all three fields of what is not a negative response. -/
theorem Client.deserialize_fields (h : 2 ≤ raw.length)
    (hpos : raw.byteAt 0 ≠ UdsSid.negativeResponse) :
    (Client.deserializeUDSMessage mem raw).serviceId = raw.byteAt 0 ∧
      (Client.deserializeUDSMessage mem raw).subFunction = raw.byteAt 1 ∧
      (Client.deserializeUDSMessage mem raw).payload = raw.midFrom 2 ∧
      (Client.deserializeUDSMessage mem raw).isNegativeResponse = false := by
  simp only [Client.deserializeUDSMessage, List.isEmpty_iff, ne_nil_of_two_le h, h, hpos,
    if_true, if_false]
  refine ⟨?_, ?_, ?_, ?_⟩
  · simp only [apply_ite UDSMessage.serviceId, ite_self]
  · simp only [apply_ite UDSMessage.subFunction, ite_self]
  · simp only [apply_ite UDSMessage.payload, ite_self]
    exact payload_of_raw raw
  · simp only [apply_ite UDSMessage.isNegativeResponse, ite_self]

/-- Of a negative response the client takes the second byte as the rejected service and the third
as the code, `0` when there is none. -/
theorem Client.deserialize_negative (h : 2 ≤ raw.length)
    (hneg : raw.byteAt 0 = UdsSid.negativeResponse) :
    (Client.deserializeUDSMessage mem raw).isNegativeResponse = true ∧
      (Client.deserializeUDSMessage mem raw).serviceId = raw.byteAt 1 ∧
      (Client.deserializeUDSMessage mem raw).negativeCode =
        if 3 ≤ raw.length then raw.byteAt 2 else 0 := by
  simp only [Client.deserializeUDSMessage, List.isEmpty_iff, ne_nil_of_two_le h, h, hneg,
    if_true, if_false]
  exact ⟨trivial, trivial, trivial⟩

end

/-! ## What they see of a serialized message -/

section

variable (msg : UDSMessage)

@[simp] theorem serializeUDSMessage_byteAt_zero :
    (serializeUDSMessage msg).byteAt 0 = msg.serviceId := rfl

@[simp] theorem serializeUDSMessage_byteAt_one :
    (serializeUDSMessage msg).byteAt 1 = msg.subFunction := rfl

@[simp] theorem serializeUDSMessage_midFrom_two :
    (serializeUDSMessage msg).midFrom 2 = msg.payload := rfl

@[simp] theorem length_serializeUDSMessage :
    (serializeUDSMessage msg).length = msg.payload.length + 2 := rfl

theorem two_le_length_serialize : 2 ≤ (serializeUDSMessage msg).length := by
  simp

end

end TcpCanUds
