import TcpCanUds.Client.CanInterFace
import TcpCanUds.Core.Ringbuffer

/-!
# CanWorker — the client's CAN thread (`client/can_worker.cpp`, `core/can_interface.cpp`)

`Can_InterFace` with its device, its send buffer and its timers, and the worker that forwards its
signals.  A function gives the next state, the frames that `flushSendBuffer` handed to the device and
the signals, oldest first.  What the driver does is an input: whether a device can be created and
connected, and the frames it has read.
-/

namespace TcpCanUds
namespace Client

open Lib IsoTp

/-! ## Frames of the driver -/

inductive FrameType where
  | unknownFrame
  | dataFrame
  | errorFrame
  | remoteRequestFrame
  | invalidFrame
  deriving DecidableEq, Repr

structure QCanBusFrame where
  frameType : FrameType
  frameId : UInt32
  hasExtendedFrameFormat : Bool
  hasFlexibleDataRateFormat : Bool
  payload : QByteArray
  deriving DecidableEq, Repr

namespace QCanBusFrame

/-- The identifier fits the frame format, and the payload the data rate. -/
def IsValid (qFrame : QCanBusFrame) : Prop :=
  qFrame.frameType ≠ .invalidFrame ∧
    qFrame.frameId < (if qFrame.hasExtendedFrameFormat then 0x20000000 else 0x800) ∧
    qFrame.payload.length ≤ (if qFrame.hasFlexibleDataRateFormat then 64 else 8) ∧
    ¬ (qFrame.frameType = .remoteRequestFrame ∧ qFrame.hasFlexibleDataRateFormat = true)

instance : DecidablePred IsValid :=
  fun _ => inferInstanceAs (Decidable (_ ∧ _))

/-- A new `QCanBusFrame` with `setFrameId` and `setPayload`, which set the formats they need. -/
def ofCanFrame (bufFrame : CanFrameData) : QCanBusFrame where
  frameType := .dataFrame
  frameId := bufFrame.id
  hasExtendedFrameFormat := decide (0x800 ≤ bufFrame.id)
  hasFlexibleDataRateFormat := decide (8 < bufFrame.bytes.length)
  payload := bufFrame.bytes

end QCanBusFrame

/-! ## The interface -/

/-- `Can_InterFace`.  `m_device` and `m_pollTimer` say whether the pointer is set, and
`m_reconnectTimer` whether the timer runs. -/
structure CanInterFaceObject extends CanInterFace where
  m_device : Bool
  m_sendRingBuffer : RingBuffer CanFrameData RING_BUF_SIZE
  m_pollTimer : Bool
  m_reconnectTimer : Bool

inductive CanInterFaceSignal where
  | udsMessageReceived (msg : UDSMessage)
  | frameSentSignal (qFrame : QCanBusFrame)
  | frameReceivedSignal (qFrame : QCanBusFrame)
  deriving DecidableEq, Repr

/-- What `createDevice` and `connectDevice` do. -/
inductive DeviceResult where
  /-- `createDevice` gives a null pointer -/
  | noDevice
  | notConnected
  | connected
  deriving DecidableEq, Repr

namespace CanInterFaceObject

/-- The constructor; the arrays of the link hold what `memory` held. -/
def new (memory : IsoTpBuffers isoTpBufferSize) : CanInterFaceObject where
  toCanInterFace := CanInterFace.init memory
  m_device := false
  m_sendRingBuffer := RingBuffer.empty ⟨0, by decide⟩ fun _ => ⟨0, List.replicate 8 0, 0⟩
  m_pollTimer := false
  m_reconnectTimer := false

/-- `isotp_init_link` on the link's own arrays, which keep their bytes. -/
def initLink (link : IsoTpLink) : IsoTpLink :=
  { isotpInitLink CanId.udsReq (IsoTpBuffers.zero isoTpBufferSize) with
    send_buffer := link.send_buffer
    receive_buffer := link.receive_buffer
    receive_arbitration_id := CanId.udsResp }

/-- `init`: the object and what is returned; nothing, when a null device is used.  The dummy frame is
written past `flushSendBuffer`. -/
def init (c : CanInterFaceObject) (result : DeviceResult) : Option (CanInterFaceObject × Bool) :=
  let c :=
    { c with
      m_pollTimer := false
      m_iso_link := initLink c.m_iso_link
      m_sendRingBuffer := { c.m_sendRingBuffer with head := ⟨0, by decide⟩, tail := ⟨0, by decide⟩ }
      m_device := true }
  match result with
  | .noDevice => none
  | .notConnected => some (c, false)
  | .connected => some ({ c with m_pollTimer := true, m_reconnectTimer := false }, true)

/-- The loop of `flushSendBuffer`, `n` rounds at most. -/
def flushLoop :
    Nat → RingBuffer CanFrameData RING_BUF_SIZE →
      RingBuffer CanFrameData RING_BUF_SIZE × List QCanBusFrame
  | 0, ring => (ring, [])
  | n + 1, ring =>
      match ring.pop with
      | none => (ring, [])
      | some (bufFrame, ring) =>
          let qFrame := QCanBusFrame.ofCanFrame bufFrame
          let rest := flushLoop n ring
          -- no `frameSentSignal` beside `writeFrame`
          (rest.1, if qFrame.IsValid then qFrame :: rest.2 else rest.2)

def flushSendBuffer (c : CanInterFaceObject) : CanInterFaceObject × List QCanBusFrame :=
  if c.m_device then
    -- every round takes a frame out, and the buffer holds fewer than `RING_BUF_SIZE`
    let flushed := flushLoop RING_BUF_SIZE c.m_sendRingBuffer
    ({ c with m_sendRingBuffer := flushed.1 }, flushed.2)
  else (c, [])

/-- The function given to `isotp_user_set_send_function`.  A push into a full buffer is not noticed. -/
def sendFunction (c : CanInterFaceObject) (bufFrame : CanFrameData) :
    CanInterFaceObject × List QCanBusFrame :=
  flushSendBuffer
    { c with m_sendRingBuffer := (c.m_sendRingBuffer.push bufFrame).getD c.m_sendRingBuffer }

/-- The calls of the send function, one for each frame of the link. -/
def sendFrames (c : CanInterFaceObject) :
    List CanFrameData → CanInterFaceObject × List QCanBusFrame
  | [] => (c, [])
  | frame :: frames =>
      let sent := c.sendFunction frame
      let rest := sendFrames sent.1 frames
      (rest.1, sent.2 ++ rest.2)

/-- The next link and the frames of `isotp_send` and `isotp_poll` in `sendUdsRawData`.  The length is
cut to sixteen bits. -/
def linkSend (c : CanInterFaceObject) (ms : UInt32) (raw : QByteArray) :
    IsoTpLink × List CanFrameData :=
  let sent := isotpSend { ms := ms } c.m_iso_link (raw.take (raw.length % 65536))
  let polled := isotpPoll { ms := ms } sent.link
  (polled.1, sent.frames ++ polled.2)

def sendUdsRawData (c : CanInterFaceObject) (ms : UInt32) (raw : QByteArray) :
    CanInterFaceObject × List QCanBusFrame :=
  let sent := c.linkSend ms raw
  sendFrames { c with m_iso_link := sent.1 } sent.2

def sendUdsMessage (c : CanInterFaceObject) (ms : UInt32) (msg : UDSMessage) :
    CanInterFaceObject × List QCanBusFrame :=
  c.sendUdsRawData ms (serializeUDSMessage msg)

/-- What the link makes of a frame the device has read. -/
def linkReceive (c : CanInterFaceObject) (ms : UInt32) (mem : UDSMessage.Memory)
    (qFrame : QCanBusFrame) : CanInterFace × CanInterFaceOutput :=
  c.toCanInterFace.onFrame ms mem
    { id := qFrame.frameId, data := qFrame.payload, len := UInt8.ofNat qFrame.payload.length }

/-- One round of the loop of `onFramesReceived`. -/
def onFrameReceived (c : CanInterFaceObject) (ms : UInt32) (mem : UDSMessage.Memory)
    (qFrame : QCanBusFrame) :
    CanInterFaceObject × List QCanBusFrame × List CanInterFaceSignal :=
  if c.m_device = true ∧ qFrame.IsValid then
    let handled := c.linkReceive ms mem qFrame
    let sent := sendFrames { c with toCanInterFace := handled.1 } handled.2.frames
    (sent.1, sent.2,
      .frameReceivedSignal qFrame ::
        handled.2.received.toList.map CanInterFaceSignal.udsMessageReceived)
  else (c, [], [])

/-- The slot of `m_pollTimer`. -/
def pollTimeout (c : CanInterFaceObject) (ms : UInt32) (mem : UDSMessage.Memory) :
    CanInterFaceObject × List QCanBusFrame × List CanInterFaceSignal :=
  if c.m_pollTimer then
    let polled := c.toCanInterFace.pollTimeout ms mem
    let sent := sendFrames { c with toCanInterFace := polled.1 } polled.2.frames
    (sent.1, sent.2, polled.2.received.toList.map CanInterFaceSignal.udsMessageReceived)
  else (c, [], [])

/-- The slot of `errorOccurred`. -/
def onErrorOccurred (c : CanInterFaceObject) : CanInterFaceObject :=
  if c.m_device then { c with m_reconnectTimer := true } else c

/-- `tryReconnect`, the slot of `m_reconnectTimer`. -/
def tryReconnect (c : CanInterFaceObject) (result : DeviceResult) :
    Option (CanInterFaceObject × Bool) :=
  if c.m_reconnectTimer then c.init result else some (c, false)

end CanInterFaceObject

/-! ## The worker -/

inductive CanWorkerSignal where
  | udsMessageReceived (msg : UDSMessage)
  | udsRequestSentSignal (requestData : UDSMessage)
  | udsResponseReceivedSignal (responseData : UDSMessage)
  | signalFrameSent (qFrame : QCanBusFrame)
  | signalFrameReceived (qFrame : QCanBusFrame)
  deriving DecidableEq, Repr

/-- The null pointers that a call can use. -/
inductive NullPointer where
  | m_interface
  | m_device
  deriving DecidableEq, Repr

/-- `Can_worker` and the instance of `Can_InterFace`, which is what `m_interface` points to when it is
not null.  `connected` says whether the three connections of `init` are made. -/
structure CanWorker where
  m_instance : Option CanInterFaceObject := none
  m_interface : Bool := false
  connected : Bool := false

/-- What a call does beyond the state. -/
structure CanWorkerOutcome where
  /-- the frames handed to the device by `flushSendBuffer` -/
  written : List QCanBusFrame := []
  /-- the valid frames read by `onFramesReceived` -/
  read : List QCanBusFrame := []
  signals : List CanWorkerSignal := []
  null : Option NullPointer := none
  deriving DecidableEq, Repr

namespace CanWorker

/-- `Can_InterFace::Instance()`, which is never null behind the call. -/
def Instance (w : CanWorker) (memory : IsoTpBuffers isoTpBufferSize) : CanInterFaceObject :=
  w.m_instance.getD (.new memory)

/-- The state behind `Can_InterFace::Instance()`. -/
def createInstance (w : CanWorker) (memory : IsoTpBuffers isoTpBufferSize) : CanWorker :=
  { w with m_instance := some (w.Instance memory) }

/-- `init`.  The connections are cut first and made again when the interface is up. -/
def init (w : CanWorker) (memory : IsoTpBuffers isoTpBufferSize) (result : DeviceResult) :
    CanWorker × CanWorkerOutcome :=
  -- `if (!Can_InterFace::Instance())` is never taken
  match (w.Instance memory).init result with
  | none => ({ m_instance := some (w.Instance memory), m_interface := true, connected := false },
      { null := some .m_device })
  | some (c, success) => ({ m_instance := some c, m_interface := true, connected := success }, {})

/-- The object behind `m_interface`. -/
def interface (w : CanWorker) : Option CanInterFaceObject :=
  if w.m_interface then w.m_instance else none

def sendUdsData (w : CanWorker) (ms : UInt32) (data : QByteArray) : CanWorker × CanWorkerOutcome :=
  match w.interface with
  | none => (w, { null := some .m_interface })
  | some c =>
      let sent := c.sendUdsRawData ms data
      ({ w with m_instance := some sent.1 }, { written := sent.2 })

/-- The signal comes before the interface is used. -/
def sendUdsMessage (w : CanWorker) (ms : UInt32) (msg : UDSMessage) :
    CanWorker × CanWorkerOutcome :=
  match w.interface with
  | none => (w, { signals := [.udsRequestSentSignal msg], null := some .m_interface })
  | some c =>
      let sent := c.sendUdsMessage ms msg
      ({ w with m_instance := some sent.1 },
        { written := sent.2, signals := [.udsRequestSentSignal msg] })

def onUdsMessageReceived (msg : UDSMessage) : List CanWorkerSignal :=
  if msg.serviceId = 0 then [] else [.udsResponseReceivedSignal msg, .udsMessageReceived msg]

/-- The three connections of `init`. -/
def onSignal : CanInterFaceSignal → List CanWorkerSignal
  | .udsMessageReceived msg => onUdsMessageReceived msg
  | .frameSentSignal qFrame => [.signalFrameSent qFrame]
  | .frameReceivedSignal qFrame => [.signalFrameReceived qFrame]

def forward (w : CanWorker) (signals : List CanInterFaceSignal) : List CanWorkerSignal :=
  if w.connected then signals.flatMap onSignal else []

/-! ### The slots of the instance -/

/-- A round of `Can_InterFace::onFramesReceived`. -/
def onFramesReceived (w : CanWorker) (ms : UInt32) (mem : UDSMessage.Memory)
    (qFrame : QCanBusFrame) : CanWorker × CanWorkerOutcome :=
  match w.m_instance with
  | none => (w, {})
  | some c =>
      let received := c.onFrameReceived ms mem qFrame
      ({ w with m_instance := some received.1 },
        { written := received.2.1
          read := if c.m_device = true ∧ qFrame.IsValid then [qFrame] else []
          signals := w.forward received.2.2 })

def pollTimeout (w : CanWorker) (ms : UInt32) (mem : UDSMessage.Memory) :
    CanWorker × CanWorkerOutcome :=
  match w.m_instance with
  | none => (w, {})
  | some c =>
      let polled := c.pollTimeout ms mem
      ({ w with m_instance := some polled.1 },
        { written := polled.2.1, signals := w.forward polled.2.2 })

def errorOccurred (w : CanWorker) : CanWorker × CanWorkerOutcome :=
  ({ w with m_instance := w.m_instance.map CanInterFaceObject.onErrorOccurred }, {})

/-- The connections of the worker stay as they are. -/
def tryReconnect (w : CanWorker) (result : DeviceResult) : CanWorker × CanWorkerOutcome :=
  match w.m_instance with
  | none => (w, {})
  | some c =>
      match c.tryReconnect result with
      | none => (w, { null := some .m_device })
      | some (c, _) => ({ w with m_instance := some c }, {})

end CanWorker

/-! ## What is handed to the device -/

/-- A frame of the client's link. -/
def IsLinkFrame (frame : CanFrameData) : Prop :=
  frame.id = CanId.udsReq ∧ frame.len = 8

namespace QCanBusFrame

theorem length_ofCanFrame {frame : CanFrameData} (h : IsLinkFrame frame) :
    (ofCanFrame frame).payload.length ≤ 8 := by
  change (frame.data.take frame.len.toNat).length ≤ 8
  rw [List.length_take, h.2]
  exact Nat.min_le_left _ _

theorem isValid_ofCanFrame {frame : CanFrameData} (h : IsLinkFrame frame) :
    (ofCanFrame frame).IsValid := by
  have hlength := length_ofCanFrame h
  have hid : frame.id < 0x800 := by
    rw [h.1]
    decide
  refine ⟨nofun, ?_, ?_, fun hremote => nomatch hremote.1⟩
  · have hshort : (ofCanFrame frame).hasExtendedFrameFormat = false :=
      decide_eq_false (UInt32.not_le.2 hid)
    rw [hshort]
    exact hid
  · split_ifs with hfast
    · exact Nat.le_trans hlength (by decide)
    · exact hlength

end QCanBusFrame

namespace CanInterFaceObject

/-- Nothing waits in the send buffer of an interface with a device, and its link has the identifier
of requests. -/
structure Ready (c : CanInterFaceObject) : Prop where
  buffer : c.m_device = true → c.m_sendRingBuffer.contents = []
  id : c.m_iso_link.send_arbitration_id = CanId.udsReq

/-- The frames that come through to the device. -/
def handed (c : CanInterFaceObject) (frames : List CanFrameData) : List CanFrameData :=
  if c.m_device then frames else []

theorem ready_new (memory : IsoTpBuffers isoTpBufferSize) : (new memory).Ready where
  buffer := nofun
  id := rfl

theorem ready_init {c c' : CanInterFaceObject} {result : DeviceResult} {success : Bool}
    (h : c.init result = some (c', success)) : c'.Ready := by
  cases result with
  | noDevice => exact absurd h (by simp [init])
  | notConnected | connected =>
      rcases Prod.mk.inj (Option.some.inj h) with ⟨rfl, -⟩
      exact ⟨fun _ => (RingBuffer.contents_eq_nil_iff _).2 rfl, rfl⟩

/-- The loop empties a buffer that it has enough rounds for, and skips what is not valid. -/
theorem flushLoop_eq (n : Nat) (ring : RingBuffer CanFrameData RING_BUF_SIZE)
    (h : ring.contents.length ≤ n) :
    (flushLoop n ring).1.contents = [] ∧
      (flushLoop n ring).2 =
        (ring.contents.map QCanBusFrame.ofCanFrame).filter fun qFrame => qFrame.IsValid := by
  induction n generalizing ring with
  | zero =>
      have hnil := List.length_eq_zero_iff.1 (Nat.le_zero.1 h)
      exact ⟨hnil, by rw [hnil]; rfl⟩
  | succ n ih =>
      cases hpop : ring.pop with
      | none =>
          have hnil := ring.pop_eq_none_iff.1 hpop
          simp only [flushLoop, hpop]
          exact ⟨hnil, by rw [hnil]; rfl⟩
      | some popped =>
          rcases popped with ⟨bufFrame, rest⟩
          have hcontents := RingBuffer.contents_pop hpop
          rw [hcontents] at h ⊢
          rcases ih rest (Nat.le_of_succ_le_succ h) with ⟨hempty, hwritten⟩
          simp only [flushLoop, hpop]
          refine ⟨hempty, ?_⟩
          rw [hwritten, List.map_cons, List.filter_cons]
          by_cases hvalid : (QCanBusFrame.ofCanFrame bufFrame).IsValid
          · rw [if_pos hvalid, if_pos (decide_eq_true hvalid)]
          · rw [if_neg hvalid, if_neg fun h => hvalid (of_decide_eq_true h)]

/-- A frame of the link is pushed and taken out again at once. -/
theorem sendFunction_of_ready {c : CanInterFaceObject} (hdevice : c.m_device = true)
    (hbuffer : c.m_sendRingBuffer.contents = []) {frame : CanFrameData} (hframe : IsLinkFrame frame) :
    (c.sendFunction frame).1.m_sendRingBuffer.contents = [] ∧
      (c.sendFunction frame).2 = [QCanBusFrame.ofCanFrame frame] := by
  -- an empty buffer of 128 slots is not full
  have hroom : c.m_sendRingBuffer.push frame ≠ none := by
    intro hfull
    have hlength := (RingBuffer.push_eq_none_iff _ _).1 hfull
    rw [hbuffer] at hlength
    exact absurd hlength (by decide)
  rcases Option.ne_none_iff_exists'.1 hroom with ⟨ring, hpush⟩
  have hcontents : ring.contents = [frame] := by
    rw [RingBuffer.contents_push hpush, hbuffer]
    rfl
  have hflush := flushLoop_eq RING_BUF_SIZE ring (by rw [hcontents]; exact Nat.le_of_ble_eq_true rfl)
  rw [hcontents] at hflush
  simp only [sendFunction, flushSendBuffer, hpush, hdevice, Option.getD_some, if_true]
  refine ⟨hflush.1, hflush.2.trans ?_⟩
  exact List.filter_eq_self.2 fun qFrame hq => by
    rcases List.mem_singleton.1 hq with rfl
    exact decide_eq_true (QCanBusFrame.isValid_ofCanFrame hframe)

/-- Sending changes nothing but the send buffer. -/
theorem sendFunction_rest (c : CanInterFaceObject) (frame : CanFrameData) :
    (c.sendFunction frame).1.toCanInterFace = c.toCanInterFace ∧
      (c.sendFunction frame).1.m_device = c.m_device ∧
      (c.m_device = false → (c.sendFunction frame).2 = []) := by
  unfold sendFunction flushSendBuffer
  split_ifs with hdevice
  · exact ⟨rfl, rfl, fun h => absurd (hdevice.symm.trans h) (by decide)⟩
  · exact ⟨rfl, rfl, fun _ => rfl⟩

theorem sendFrames_of_ready {c : CanInterFaceObject} (h : c.Ready) {frames : List CanFrameData}
    (hframes : ∀ frame ∈ frames, IsLinkFrame frame) :
    (c.sendFrames frames).1.Ready ∧
      (c.sendFrames frames).2 = (c.handed frames).map QCanBusFrame.ofCanFrame := by
  induction frames generalizing c with
  | nil =>
      refine ⟨h, ?_⟩
      unfold handed
      split_ifs <;> rfl
  | cons frame frames ih =>
      rcases c.sendFunction_rest frame with ⟨hlink, hsame, hnone⟩
      have hframe := hframes frame List.mem_cons_self
      have hready : (c.sendFunction frame).1.Ready := by
        refine ⟨fun hdevice => ?_, ?_⟩
        · rw [hsame] at hdevice
          exact (sendFunction_of_ready hdevice (h.buffer hdevice) hframe).1
        · rw [hlink]
          exact h.id
      rcases ih hready fun f hf => hframes f (List.mem_cons_of_mem _ hf) with ⟨hrest, hwritten⟩
      refine ⟨hrest, ?_⟩
      -- without a device nothing is written, neither here nor behind
      simp only [sendFrames, hwritten, handed, hsame]
      split_ifs with hdevice
      · rw [(sendFunction_of_ready hdevice (h.buffer hdevice) hframe).2]
        rfl
      · rw [hnone (by simpa using hdevice)]
        rfl

/-! ### The calls -/

/-- The link behind a call, and the frames it gave in the call. -/
structure LinkCall (link : IsoTpLink) (frames : List CanFrameData) : Prop where
  id : link.send_arbitration_id = CanId.udsReq
  isLinkFrame : ∀ frame ∈ frames, IsLinkFrame frame
  length_le : frames.length ≤ 2

/-- A call of the link that gives at most two frames, each from a link with the same identifier. -/
theorem linkCall_append {link link₁ link₂ : IsoTpLink} (hid : link.send_arbitration_id = CanId.udsReq)
    (h₁ : link₁.send_arbitration_id = CanId.udsReq) (h₂ : link₂.send_arbitration_id = CanId.udsReq)
    {frames₁ frames₂ : List CanFrameData} (hframes₁ : AtMostOne link₁.send_arbitration_id frames₁)
    (hframes₂ : AtMostOne link₂.send_arbitration_id frames₂) :
    LinkCall link (frames₁ ++ frames₂) where
  id := hid
  isLinkFrame frame hmem := by
    rcases List.mem_append.1 hmem with hmem | hmem
    · exact ⟨(hframes₁.mem hmem).1.trans h₁, (hframes₁.mem hmem).2⟩
    · exact ⟨(hframes₂.mem hmem).1.trans h₂, (hframes₂.mem hmem).2⟩
  length_le := by
    have hlength₁ := hframes₁.length_le
    have hlength₂ := hframes₂.length_le
    rw [List.length_append]
    omega

section

variable {c : CanInterFaceObject} (h : c.Ready) (ms : UInt32)

include h

theorem linkCall_linkSend (raw : QByteArray) :
    LinkCall (c.linkSend ms raw).1 (c.linkSend ms raw).2 := by
  have hsent := (congrArg Prod.fst (config_isotpSend { ms := ms } c.m_iso_link
    (raw.take (raw.length % 65536)))).trans h.id
  have hpolled := (congrArg Prod.fst (config_isotpPoll { ms := ms }
    (isotpSend { ms := ms } c.m_iso_link (raw.take (raw.length % 65536))).link)).trans hsent
  exact linkCall_append hpolled h.id hsent (atMostOne_isotpSend _ _ _) (atMostOne_isotpPoll _ _)

theorem linkCall_pollTimeout (mem : UDSMessage.Memory) :
    LinkCall (c.toCanInterFace.pollTimeout ms mem).1.m_iso_link
      (c.toCanInterFace.pollTimeout ms mem).2.frames := by
  have hpolled := (congrArg Prod.fst (config_isotpPoll { ms := ms } c.m_iso_link)).trans h.id
  have hreceived := (congrArg Prod.fst (config_isotpReceive
    (isotpPoll { ms := ms } c.m_iso_link).1 isoTpBufferSize)).trans hpolled
  have hcall := linkCall_append hreceived h.id h.id
    (atMostOne_isotpPoll { ms := ms } c.m_iso_link) (.inl rfl)
  rw [List.append_nil] at hcall
  exact hcall

theorem linkCall_linkReceive (mem : UDSMessage.Memory) (qFrame : QCanBusFrame) :
    LinkCall (c.linkReceive ms mem qFrame).1.m_iso_link
      (c.linkReceive ms mem qFrame).2.frames := by
  unfold linkReceive CanInterFace.onFrame
  split_ifs with hother
  · exact ⟨h.id, fun _ hmem => absurd hmem List.not_mem_nil, Nat.zero_le _⟩
  · -- the link keeps its identifier through the frame, the poll and the receive
    have hhandled := fun data => (congrArg Prod.fst
      (config_isotpOnCanMessage { ms := ms } c.m_iso_link data)).trans h.id
    have hpolled := fun data => (congrArg Prod.fst (config_isotpPoll { ms := ms }
      (isotpOnCanMessage { ms := ms } c.m_iso_link data).1)).trans (hhandled data)
    have hreceived := fun data => (congrArg Prod.fst (config_isotpReceive
      (isotpPoll { ms := ms } (isotpOnCanMessage { ms := ms } c.m_iso_link data).1).1
      isoTpBufferSize)).trans (hpolled data)
    exact linkCall_append (hreceived _) h.id (hhandled _) (atMostOne_isotpOnCanMessage _ _ _)
      (atMostOne_isotpPoll _ _)

omit h in
/-- Behind a call of the link the frames go to the device. -/
theorem sendFrames_of_linkCall {link : CanInterFace} {frames : List CanFrameData}
    (hbuffer : c.m_device = true → c.m_sendRingBuffer.contents = [])
    (hcall : LinkCall link.m_iso_link frames) :
    (sendFrames { c with toCanInterFace := link } frames).1.Ready ∧
      (sendFrames { c with toCanInterFace := link } frames).2 =
        (c.handed frames).map QCanBusFrame.ofCanFrame :=
  sendFrames_of_ready (c := { c with toCanInterFace := link }) ⟨hbuffer, hcall.id⟩ hcall.isLinkFrame

theorem sendUdsRawData_of_ready (raw : QByteArray) :
    (c.sendUdsRawData ms raw).1.Ready ∧
      (c.sendUdsRawData ms raw).2 =
        (c.handed (c.linkSend ms raw).2).map QCanBusFrame.ofCanFrame :=
  sendFrames_of_linkCall h.buffer (linkCall_linkSend h ms raw)

theorem onFrameReceived_of_ready (mem : UDSMessage.Memory) (qFrame : QCanBusFrame) :
    (c.onFrameReceived ms mem qFrame).1.Ready ∧
      (c.onFrameReceived ms mem qFrame).2.1 =
        if c.m_device = true ∧ qFrame.IsValid then
          (c.handed (c.linkReceive ms mem qFrame).2.frames).map QCanBusFrame.ofCanFrame
        else [] := by
  unfold onFrameReceived
  split_ifs with htaken
  · exact sendFrames_of_linkCall h.buffer (linkCall_linkReceive h ms mem qFrame)
  · exact ⟨h, rfl⟩

theorem pollTimeout_of_ready (mem : UDSMessage.Memory) :
    (c.pollTimeout ms mem).1.Ready ∧
      (c.pollTimeout ms mem).2.1 =
        if c.m_pollTimer then
          (c.handed (c.toCanInterFace.pollTimeout ms mem).2.frames).map QCanBusFrame.ofCanFrame
        else [] := by
  unfold pollTimeout
  split_ifs with htimer
  · exact sendFrames_of_linkCall h.buffer (linkCall_pollTimeout h ms mem)
  · exact ⟨h, rfl⟩

end

/-- What makes a request send: it can begin, or the message under way goes on. -/
theorem linkSend_ne_nil_iff (c : CanInterFaceObject) (ms : UInt32) (raw : QByteArray) :
    (c.linkSend ms raw).2 ≠ [] ↔
      (raw.length % 65536 ≤ c.m_iso_link.send_buf_size ∧
          c.m_iso_link.send_status ≠ .inprogress) ∨
        (c.m_iso_link.send_status = .inprogress ∧ MaySend { ms := ms } c.m_iso_link) := by
  have hlength : (raw.take (raw.length % 65536)).length = raw.length % 65536 := by
    rw [List.length_take]
    exact Nat.min_eq_left (Nat.mod_le _ _)
  have hbegin := isotpSend_sends_iff { ms := ms } c.m_iso_link rfl (raw.take (raw.length % 65536))
  rw [hlength] at hbegin
  have hor : (c.linkSend ms raw).2 ≠ [] ↔
      (isotpSend { ms := ms } c.m_iso_link (raw.take (raw.length % 65536))).frames ≠ [] ∨
        (isotpPoll { ms := ms }
          (isotpSend { ms := ms } c.m_iso_link (raw.take (raw.length % 65536))).link).2 ≠ [] := by
    rw [linkSend, Ne, List.append_eq_nil_iff, not_and_or]
  rw [hor, hbegin]
  by_cases hfree : raw.length % 65536 ≤ c.m_iso_link.send_buf_size ∧
      c.m_iso_link.send_status ≠ .inprogress
  · exact ⟨fun _ => .inl hfree, fun _ => .inl hfree⟩
  · -- a refused message leaves the link as it was
    have hsame : (isotpSend { ms := ms } c.m_iso_link (raw.take (raw.length % 65536))).link =
        c.m_iso_link := by
      rcases Nat.lt_or_ge c.m_iso_link.send_buf_size (raw.length % 65536) with hlong | hfits
      · rw [isotpSend_overflow (by rw [hlength]; exact hlong)]
      · rw [isotpSend_inprogress (by rw [hlength]; exact hfits)
          (by_contra fun hbusy => hfree ⟨hfits, hbusy⟩)]
    rw [hsame, isotpPoll_sends_iff _ _ rfl]

end CanInterFaceObject
end Client
end TcpCanUds
