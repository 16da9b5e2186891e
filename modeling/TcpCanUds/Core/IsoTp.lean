import TcpCanUds.Core.Types

/-!
# IsoTp — the ISO-TP library of both programs (`isotp/isotp.c`)

One link sends and receives messages over CAN frames of eight bytes: a single frame, or a first frame
and consecutive frames under the receiver's flow control.  Both programs have the same copy, built
with `ISO_TP_FRAME_PADDING`.

A function that can send gives the frames it sent, oldest first.  The clock and the send function are
the library's user; one call sees one reading of the clock.
-/

namespace TcpCanUds

/-! ## Configuration and constants -/

/-- `ISO_TP_DEFAULT_BLOCK_SIZE` -/
abbrev isoTpDefaultBlockSize : Nat := 8

/-- `ISO_TP_DEFAULT_ST_MIN` -/
abbrev isoTpDefaultStMin : UInt8 := 0

/-- `ISO_TP_MAX_WFT_NUMBER` -/
abbrev isoTpMaxWftNumber : Nat := 1

/-- `ISO_TP_DEFAULT_RESPONSE_TIMEOUT`, in milliseconds. -/
abbrev isoTpDefaultResponseTimeout : UInt32 := 100

/-- `ISOTP_INVALID_BS` -/
abbrev isotpInvalidBs : Nat := 0xFFFF

/-- `ISOTP_RET_…` -/
inductive IsoTpRet where
  | ok
  | error
  | inprogress
  | overflow
  | wrongSn
  | noData
  | length
  deriving DecidableEq, Repr

/-- `ISOTP_PROTOCOL_RESULT_…`, those that are assigned. -/
inductive IsoTpProtocolResult where
  | ok
  | timeoutBs
  | timeoutCr
  | wrongSn
  | unexpPdu
  | wftOvrn
  | bufferOvflw
  deriving DecidableEq, Repr

inductive IsoTpSendStatus where
  | idle
  | inprogress
  | error
  deriving DecidableEq, Repr

inductive IsoTpReceiveStatus where
  | idle
  | inprogress
  | full
  deriving DecidableEq, Repr

/-- `IsoTpTimeAfter(a, b)`: the difference is read as a signed number. -/
def isoTpTimeAfter (a b : UInt32) : Bool :=
  (b - a).toInt32 < 0

/-! ## Frames -/

namespace Pci

abbrev typeSingle : Nat := 0
abbrev typeFirstFrame : Nat := 1
abbrev typeConsecutiveFrame : Nat := 2
abbrev typeFlowControlFrame : Nat := 3

abbrev flowStatusContinue : Nat := 0
abbrev flowStatusWait : Nat := 1
abbrev flowStatusOverflow : Nat := 2

/-- The first byte of a frame: the type above a field of four bits. -/
def byte (type low : Nat) : UInt8 :=
  UInt8.ofNat (type * 16 + low % 16)

/-- `message.as.common.type` -/
def type (message : QByteArray) : Nat :=
  (message.byteAt 0).toNat / 16

/-- `SF_DL`, `FF_DL_high`, `SN` or `FS`. -/
def low (message : QByteArray) : Nat :=
  (message.byteAt 0).toNat % 16

end Pci

/-- `memcpy(buffer + pos, data, …)` -/
def QByteArray.write (buffer : QByteArray) (pos : Nat) (data : QByteArray) : QByteArray :=
  buffer.take pos ++ data ++ buffer.drop (pos + data.length)

/-! ## The link -/

structure IsoTpLink where
  send_arbitration_id : UInt32
  send_buffer : QByteArray
  send_buf_size : Nat
  send_size : Nat := 0
  send_offset : Nat := 0
  send_sn : Nat := 0
  send_bs_remain : Nat := 0
  send_st_min : UInt8 := 0
  send_wtf_count : Nat := 0
  send_timer_st : UInt32 := 0
  send_timer_bs : UInt32 := 0
  send_protocol_result : IsoTpProtocolResult := .ok
  send_status : IsoTpSendStatus := .idle
  receive_arbitration_id : UInt32 := 0
  receive_buffer : QByteArray
  receive_buf_size : Nat
  receive_size : Nat := 0
  receive_offset : Nat := 0
  receive_sn : Nat := 0
  receive_bs_count : Nat := 0
  receive_timer_cr : UInt32 := 0
  receive_protocol_result : IsoTpProtocolResult := .ok
  receive_status : IsoTpReceiveStatus := .idle
  deriving DecidableEq, Repr

/-- What the library gets from its user: the clock, and whether the send function is set. -/
structure IsoTpUser where
  ms : UInt32
  canSend : Bool := true
  deriving DecidableEq, Repr

/-- The outcome of a function that can send. -/
structure IsoTpOutcome where
  ret : IsoTpRet
  link : IsoTpLink
  frames : List CanFrameData
  deriving DecidableEq, Repr

/-- The two buffers of a link, of `n` bytes each, with whatever they hold. -/
structure IsoTpBuffers (n : Nat) where
  sendBuffer : QByteArray
  receiveBuffer : QByteArray
  length_sendBuffer : sendBuffer.length = n
  length_receiveBuffer : receiveBuffer.length = n

def IsoTpBuffers.zero (n : Nat) : IsoTpBuffers n where
  sendBuffer := List.replicate n 0
  receiveBuffer := List.replicate n 0
  length_sendBuffer := List.length_replicate
  length_receiveBuffer := List.length_replicate

namespace IsoTp

def isotpInitLink (sendid : UInt32) {n : Nat} (buffers : IsoTpBuffers n) : IsoTpLink where
  send_arbitration_id := sendid
  send_buffer := buffers.sendBuffer
  send_buf_size := n
  receive_buffer := buffers.receiveBuffer
  receive_buf_size := n

/-- `isotp_user_send_can`; every frame is `sizeof(message)` bytes long. -/
def isotpUserSendCan (u : IsoTpUser) (id : UInt32) (data : QByteArray) :
    IsoTpRet × List CanFrameData :=
  if u.canSend then (.ok, [{ id := id, data := data, len := 8 }]) else (.error, [])

def isotpMsToStMin (ms : UInt8) : UInt8 :=
  if ms > 0x7F then 0x7F else ms

def isotpStMinToMs (st_min : UInt8) : UInt8 :=
  if 0xF1 ≤ st_min ∧ st_min ≤ 0xF9 then 1
  else if st_min ≤ 0x7F then st_min
  else 0

/-! ### Sending -/

def isotpSendFlowControl (u : IsoTpUser) (link : IsoTpLink) (flow_status block_size : Nat)
    (st_min_ms : UInt8) : List CanFrameData :=
  let message :=
    Pci.byte Pci.typeFlowControlFrame flow_status :: UInt8.ofNat block_size ::
      isotpMsToStMin st_min_ms :: List.replicate 5 0
  (isotpUserSendCan u link.send_arbitration_id message).2

def isotpSendSingleFrame (u : IsoTpUser) (link : IsoTpLink) (id : UInt32) : IsoTpOutcome :=
  let message :=
    Pci.byte Pci.typeSingle link.send_size ::
      (link.send_buffer.take link.send_size ++ List.replicate (7 - link.send_size) 0)
  let sent := isotpUserSendCan u id message
  ⟨sent.1, link, sent.2⟩

def isotpSendFirstFrame (u : IsoTpUser) (link : IsoTpLink) (id : UInt32) : IsoTpOutcome :=
  let message :=
    Pci.byte Pci.typeFirstFrame (link.send_size / 256) :: UInt8.ofNat link.send_size ::
      link.send_buffer.take 6
  let sent := isotpUserSendCan u id message
  if sent.1 = .ok then
    ⟨sent.1, { link with send_offset := link.send_offset + 6, send_sn := 1 }, sent.2⟩
  else ⟨sent.1, link, sent.2⟩

def isotpSendConsecutiveFrame (u : IsoTpUser) (link : IsoTpLink) : IsoTpOutcome :=
  let data_length := min (link.send_size - link.send_offset) 7
  let message :=
    Pci.byte Pci.typeConsecutiveFrame link.send_sn ::
      ((link.send_buffer.drop link.send_offset).take data_length ++
        List.replicate (7 - data_length) 0)
  let sent := isotpUserSendCan u link.send_arbitration_id message
  if sent.1 = .ok then
    ⟨sent.1,
      { link with
        send_offset := link.send_offset + data_length
        send_sn := if link.send_sn + 1 > 0x0F then 0 else link.send_sn + 1 },
      sent.2⟩
  else ⟨sent.1, link, sent.2⟩

/-- `isotp_send_with_id`; `size` is the length of the payload. -/
def isotpSendWithId (u : IsoTpUser) (link : IsoTpLink) (id : UInt32) (payload : QByteArray) :
    IsoTpOutcome :=
  if payload.length > link.send_buf_size then ⟨.overflow, link, []⟩
  else if link.send_status = .inprogress then ⟨.inprogress, link, []⟩
  else
    let link :=
      { link with
        send_size := payload.length
        send_offset := 0
        send_buffer := link.send_buffer.write 0 payload }
    -- a single frame leaves the status and the results as they are
    if link.send_size < 8 then isotpSendSingleFrame u link id
    else
      let first := isotpSendFirstFrame u link id
      if first.ret = .ok then
        { first with
          link :=
            { first.link with
              send_bs_remain := 0
              send_st_min := 0
              send_wtf_count := 0
              send_timer_st := u.ms
              send_timer_bs := u.ms + isoTpDefaultResponseTimeout
              send_protocol_result := .ok
              send_status := .inprogress } }
      else first

def isotpSend (u : IsoTpUser) (link : IsoTpLink) (payload : QByteArray) : IsoTpOutcome :=
  isotpSendWithId u link link.send_arbitration_id payload

/-! ### Receiving -/

def isotpReceiveSingleFrame (link : IsoTpLink) (message : QByteArray) (len : Nat) :
    IsoTpRet × IsoTpLink :=
  if Pci.low message = 0 ∨ Pci.low message > len - 1 then (.length, link)
  else
    (.ok,
      { link with
        receive_buffer := link.receive_buffer.write 0 (message.mid 1 (Pci.low message))
        receive_size := Pci.low message })

def isotpReceiveFirstFrame (link : IsoTpLink) (message : QByteArray) (len : Nat) :
    IsoTpRet × IsoTpLink :=
  if len ≠ 8 then (.length, link)
  else
    let payload_length := Pci.low message * 256 + (message.byteAt 1).toNat
    if payload_length ≤ 7 then (.length, link)
    else if payload_length > link.receive_buf_size then (.overflow, link)
    else
      (.ok,
        { link with
          receive_buffer := link.receive_buffer.write 0 (message.mid 2 6)
          receive_size := payload_length
          receive_offset := 6
          receive_sn := 1 })

def isotpReceiveConsecutiveFrame (link : IsoTpLink) (message : QByteArray) (len : Nat) :
    IsoTpRet × IsoTpLink :=
  if link.receive_sn ≠ Pci.low message then (.wrongSn, link)
  else
    let remaining_bytes := min (link.receive_size - link.receive_offset) 7
    if remaining_bytes > len - 1 then (.length, link)
    else
      (.ok,
        { link with
          receive_buffer :=
            link.receive_buffer.write link.receive_offset (message.mid 1 remaining_bytes)
          receive_offset := link.receive_offset + remaining_bytes
          receive_sn := if link.receive_sn + 1 > 0x0F then 0 else link.receive_sn + 1 })

def isotpReceiveFlowControlFrame (len : Nat) : IsoTpRet :=
  if len < 3 then .length else .ok

/-- `receive_protocol_result` when a new message begins. -/
def beginResult (link : IsoTpLink) : IsoTpProtocolResult :=
  if link.receive_status = .inprogress then .unexpPdu else .ok

/-- `case ISOTP_PCI_TYPE_SINGLE` -/
def onSingleFrame (link : IsoTpLink) (message : QByteArray) (len : Nat) : IsoTpLink :=
  let link := { link with receive_protocol_result := beginResult link }
  let received := isotpReceiveSingleFrame link message len
  if received.1 = .ok then { received.2 with receive_status := .full } else received.2

/-- `case ISOTP_PCI_TYPE_FIRST_FRAME` -/
def onFirstFrame (u : IsoTpUser) (link : IsoTpLink) (message : QByteArray) (len : Nat) :
    IsoTpLink × List CanFrameData :=
  let link := { link with receive_protocol_result := beginResult link }
  let received := isotpReceiveFirstFrame link message len
  if received.1 = .overflow then
    -- the announced length is more than the buffer holds
    ({ received.2 with receive_protocol_result := .bufferOvflw, receive_status := .idle },
      isotpSendFlowControl u link Pci.flowStatusOverflow 0 0)
  else if received.1 = .ok then
    ({ received.2 with
        receive_status := .inprogress
        receive_bs_count := isoTpDefaultBlockSize
        receive_timer_cr := u.ms + isoTpDefaultResponseTimeout },
      isotpSendFlowControl u link Pci.flowStatusContinue isoTpDefaultBlockSize isoTpDefaultStMin)
  else (received.2, [])

/-- `case TSOTP_PCI_TYPE_CONSECUTIVE_FRAME` -/
def onConsecutiveFrame (u : IsoTpUser) (link : IsoTpLink) (message : QByteArray) (len : Nat) :
    IsoTpLink × List CanFrameData :=
  if link.receive_status ≠ .inprogress then
    ({ link with receive_protocol_result := .unexpPdu }, [])
  else
    let received := isotpReceiveConsecutiveFrame link message len
    if received.1 = .wrongSn then
      -- the message is given up
      ({ received.2 with receive_protocol_result := .wrongSn, receive_status := .idle }, [])
    else if received.1 = .ok then
      let link : IsoTpLink :=
        { received.2 with receive_timer_cr := u.ms + isoTpDefaultResponseTimeout }
      if link.receive_offset ≥ link.receive_size then ({ link with receive_status := .full }, [])
      else
        -- `0 == --receive_bs_count`, on an unsigned byte
        let bs_count := (link.receive_bs_count + 255) % 256
        if bs_count = 0 then
          ({ link with receive_bs_count := isoTpDefaultBlockSize },
            isotpSendFlowControl u link Pci.flowStatusContinue isoTpDefaultBlockSize
              isoTpDefaultStMin)
        else ({ link with receive_bs_count := bs_count }, [])
    else (received.2, [])

/-- `case ISOTP_PCI_TYPE_FLOW_CONTROL_FRAME` -/
def onFlowControl (u : IsoTpUser) (link : IsoTpLink) (message : QByteArray) (len : Nat) :
    IsoTpLink :=
  if link.send_status ≠ .inprogress then link
  else if isotpReceiveFlowControlFrame len = .ok then
    -- whatever the flow status, the timer starts again
    let link := { link with send_timer_bs := u.ms + isoTpDefaultResponseTimeout }
    if Pci.low message = Pci.flowStatusOverflow then
      { link with send_protocol_result := .bufferOvflw, send_status := .error }
    else if Pci.low message = Pci.flowStatusWait then
      let wtf_count := (link.send_wtf_count + 1) % 256
      if wtf_count > isoTpMaxWftNumber then
        { link with
          send_wtf_count := wtf_count, send_protocol_result := .wftOvrn, send_status := .error }
      else { link with send_wtf_count := wtf_count }
    else if Pci.low message = Pci.flowStatusContinue then
      -- a block size of zero means no limit
      { link with
        send_bs_remain := if message.byteAt 1 = 0 then isotpInvalidBs else (message.byteAt 1).toNat
        send_st_min := isotpStMinToMs (message.byteAt 2)
        send_wtf_count := 0 }
    else link
  else link

/-- `isotp_on_can_message`; `len` is the length of the data. -/
def isotpOnCanMessage (u : IsoTpUser) (link : IsoTpLink) (data : QByteArray) :
    IsoTpLink × List CanFrameData :=
  if data.length < 2 ∨ data.length > 8 then (link, [])
  else
    -- a short frame is filled up with zeros
    let message := data ++ List.replicate (8 - data.length) 0
    if Pci.type message = Pci.typeSingle then (onSingleFrame link message data.length, [])
    else if Pci.type message = Pci.typeFirstFrame then onFirstFrame u link message data.length
    else if Pci.type message = Pci.typeConsecutiveFrame then
      onConsecutiveFrame u link message data.length
    else if Pci.type message = Pci.typeFlowControlFrame then
      (onFlowControl u link message data.length, [])
    else (link, [])

/-- `isotp_receive`: the bytes copied out, when a message is complete. -/
def isotpReceive (link : IsoTpLink) (payload_size : Nat) : Option QByteArray × IsoTpLink :=
  if link.receive_status ≠ .full then (none, link)
  else
    (some (link.receive_buffer.take (min link.receive_size payload_size)),
      { link with receive_status := .idle })

/-! ### Polling -/

/-- The sender may send its next consecutive frame. -/
def MaySend (u : IsoTpUser) (link : IsoTpLink) : Prop :=
  (link.send_bs_remain = isotpInvalidBs ∨ link.send_bs_remain > 0) ∧
    (link.send_st_min = 0 ∨ (link.send_st_min ≠ 0 ∧ isoTpTimeAfter u.ms link.send_timer_st = true))

instance (u : IsoTpUser) (link : IsoTpLink) : Decidable (MaySend u link) :=
  inferInstanceAs (Decidable (_ ∧ _))

/-- `isotp_poll`, continue send data. -/
def pollSend (u : IsoTpUser) (link : IsoTpLink) : IsoTpLink × List CanFrameData :=
  if MaySend u link then
    let sent := isotpSendConsecutiveFrame u link
    if sent.ret = .ok then
      let link : IsoTpLink :=
        { sent.link with
          send_bs_remain :=
            if sent.link.send_bs_remain ≠ isotpInvalidBs then sent.link.send_bs_remain - 1
            else sent.link.send_bs_remain
          send_timer_bs := u.ms + isoTpDefaultResponseTimeout
          send_timer_st := u.ms + sent.link.send_st_min.toUInt32 }
      (if link.send_offset ≥ link.send_size then { link with send_status := .idle } else link,
        sent.frames)
    else ({ sent.link with send_status := .error }, sent.frames)
  else (link, [])

/-- `isotp_poll`, check timeout of the sender. -/
def pollTimeoutBs (u : IsoTpUser) (link : IsoTpLink) : IsoTpLink :=
  if isoTpTimeAfter u.ms link.send_timer_bs = true then
    { link with send_protocol_result := .timeoutBs, send_status := .error }
  else link

/-- `isotp_poll`, check timeout of the receiver. -/
def pollTimeoutCr (u : IsoTpUser) (link : IsoTpLink) : IsoTpLink :=
  if link.receive_status = .inprogress ∧ isoTpTimeAfter u.ms link.receive_timer_cr = true then
    { link with receive_protocol_result := .timeoutCr, receive_status := .idle }
  else link

def isotpPoll (u : IsoTpUser) (link : IsoTpLink) : IsoTpLink × List CanFrameData :=
  if link.send_status = .inprogress then
    let sent := pollSend u link
    (pollTimeoutCr u (pollTimeoutBs u sent.1), sent.2)
  else (pollTimeoutCr u link, [])

end IsoTp
end TcpCanUds
