import TcpCanUds.Lib.ByteOrder

/-!
# Types — the data shared by client and server (`core/types.h`)

Byte strings, service identifiers, session types, negative response codes, the UDS message record
and the CAN frame record.  Both programs have their own `types.h`; the parts modelled here agree.
-/

namespace TcpCanUds

/-! ## Byte strings -/

abbrev QByteArray := List UInt8

namespace QByteArray

/-- `at(i)`; the callers check the size first. -/
def byteAt (b : QByteArray) (i : Nat) : UInt8 :=
  b.getD i 0

/-- `mid(pos, len)`. -/
def mid (b : QByteArray) (pos len : Nat) : QByteArray :=
  (b.drop pos).take len

/-- `mid(pos)`. -/
def midFrom (b : QByteArray) (pos : Nat) : QByteArray :=
  b.drop pos

/-- `qFromLittleEndian<quint16>` on the bytes at `pos`. -/
def word16At (b : QByteArray) (pos : Nat) : UInt16 :=
  Lib.word16 (byteAt b pos) (byteAt b (pos + 1))

/-- `qFromLittleEndian<quint32>` on the bytes at `pos`. -/
def word32At (b : QByteArray) (pos : Nat) : UInt32 :=
  Lib.word32 (byteAt b pos) (byteAt b (pos + 1)) (byteAt b (pos + 2)) (byteAt b (pos + 3))

@[simp] theorem byteAt_cons_zero (a : UInt8) (b : QByteArray) : byteAt (a :: b) 0 = a := rfl

@[simp] theorem byteAt_cons_succ (a : UInt8) (b : QByteArray) (i : Nat) :
    byteAt (a :: b) (i + 1) = byteAt b i := rfl

theorem byteAt_append {b : QByteArray} {i : Nat} (h : i < b.length) (x : QByteArray) :
    byteAt (b ++ x) i = byteAt b i := by
  simp [byteAt, List.getD_eq_getElem?_getD, List.getElem?_append_left h]

theorem word16At_append {b : QByteArray} {pos : Nat} (h : pos + 1 < b.length)
    (x : QByteArray) : word16At (b ++ x) pos = word16At b pos := by
  rw [word16At, word16At, byteAt_append (by omega), byteAt_append h]

theorem mid_append {b : QByteArray} {pos len : Nat} (h : pos + len ≤ b.length)
    (x : QByteArray) : mid (b ++ x) pos len = mid b pos len := by
  simp only [mid]
  rw [List.drop_append_of_le_length (by omega), List.take_append_of_le_length]
  rw [List.length_drop]
  omega

theorem word32At_bytes32 (x : UInt32) : word32At (Lib.bytes32 x) 0 = x :=
  Lib.word32_bytes32 x

end QByteArray

/-! ## Constants -/

namespace UdsSid

@[simp] abbrev diagnosticSessionControl : UInt8 := 0x10
@[simp] abbrev ecuReset : UInt8 := 0x11
@[simp] abbrev securityAccess : UInt8 := 0x27
@[simp] abbrev readDataByIdentifier : UInt8 := 0x22
@[simp] abbrev writeDataByIdentifier : UInt8 := 0x2E
@[simp] abbrev testerPresent : UInt8 := 0x3E
@[simp] abbrev routineControl : UInt8 := 0x31
@[simp] abbrev negativeResponse : UInt8 := 0x7F
@[simp] abbrev positiveResponseMask : UInt8 := 0x40

end UdsSid

namespace DiagnosticSession

@[simp] abbrev defaultSession : UInt8 := 0x01
@[simp] abbrev programmingSession : UInt8 := 0x02
@[simp] abbrev extendedDiagnostic : UInt8 := 0x03

end DiagnosticSession

namespace NegativeResponseCode

abbrev serviceNotSupported : UInt8 := 0x11
abbrev subFunctionNotSupported : UInt8 := 0x12
abbrev incorrectMessageLength : UInt8 := 0x13
abbrev requestOutOfRange : UInt8 := 0x31
abbrev securityAccessDenied : UInt8 := 0x33
abbrev invalidKey : UInt8 := 0x35
abbrev subFunctionNotSupportedInActiveSession : UInt8 := 0x7E

end NegativeResponseCode

namespace DataIdentifier

abbrev vehicleManufacturerSparePartNumber : UInt16 := 0xF187
abbrev vehicleManufacturerEcuSoftwareVersionNumber : UInt16 := 0xF189
abbrev applicationSoftwareIdentification : UInt16 := 0xF190
abbrev supportedDiagnosticServices : UInt16 := 0xF1A3
abbrev currentVolumeLevel : UInt16 := 0x2001
abbrev maxVolumeLevel : UInt16 := 0x2002
abbrev currentTemperature : UInt16 := 0x2003
abbrev batteryVoltage : UInt16 := 0x2004
abbrev engineRpm : UInt16 := 0x2005
abbrev vehicleSpeed : UInt16 := 0x2006

end DataIdentifier

namespace CanId

abbrev udsReq : UInt32 := 0x7E1
abbrev udsResp : UInt32 := 0x7E9

end CanId

/-- `TCP_HEADER_SIZE`: magic (2), type (1) and length (2). -/
abbrev tcpHeaderSize : Nat := 5

/-! ## UDS messages -/

structure UDSMessage where
  requestId : UInt32
  serviceId : UInt8
  subFunction : UInt8
  payload : QByteArray
  timetemp : Int64
  isResponse : Bool
  isNegativeResponse : Bool
  negativeCode : UInt8
  deriving DecidableEq, Repr

namespace UDSMessage

/-- What the scalar fields hold after a bare `UDSMessage msg;`: the struct has no initialisers, so
this is whatever the memory held before. -/
structure Memory where
  requestId : UInt32 := 0
  serviceId : UInt8 := 0
  subFunction : UInt8 := 0
  timetemp : Int64 := 0
  isResponse : Bool := false
  isNegativeResponse : Bool := false
  negativeCode : UInt8 := 0
  deriving DecidableEq, Repr

/-- `UDSMessage msg;`: the payload is constructed empty, the scalars come from memory. -/
def declare (mem : Memory) : UDSMessage :=
  { requestId := mem.requestId
    serviceId := mem.serviceId
    subFunction := mem.subFunction
    payload := []
    timetemp := mem.timetemp
    isResponse := mem.isResponse
    isNegativeResponse := mem.isNegativeResponse
    negativeCode := mem.negativeCode }

end UDSMessage

/-! ## CAN frames -/

/-- `CanFrameData`; `data` is the part of the eight-byte array that was written. -/
structure CanFrameData where
  id : UInt32
  data : QByteArray
  len : UInt8
  deriving DecidableEq, Repr

/-- The first `len` bytes of the data. -/
def CanFrameData.bytes (f : CanFrameData) : QByteArray :=
  f.data.take f.len.toNat

end TcpCanUds
