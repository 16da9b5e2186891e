import Mathlib.Data.List.Forall2
import Mathlib.Data.List.InsertIdx
import TcpCanUds.Client.CanWorker
import TcpCanUds.Core.IsoTpLatency
import TcpCanUds.Server.CanWorkerServer

/-!
# LossyCan — the two programs on a bus that loses frames

Requests and responses cross each other on one bus.  Every frame of either program can be lost: the
bus drops it, or the driver does.  Both programs run on the two ends of a `TimedDuplex`, so what one
decodes is what the other was told to send, less what was lost.
-/

namespace TcpCanUds
namespace System

open Lib IsoTp Server Client

/-! ## The two programs -/

structure LossyCan where
  server : CanWorkerServer
  client : CanInterFaceObject
  now : Nat
  /-- the frames under way to the server, and when they were sent -/
  toServer : List CanFrameData := []
  toServerTimes : List Nat := []
  toClient : List CanFrameData := []
  toClientTimes : List Nat := []
  /-- what the client's `sendUdsMessage` was given -/
  requests : List UDSMessage := []
  /-- what the server passed on to its UDS worker -/
  received : List UDSMessage := []
  /-- what the server's `sendUdsMessage` was given -/
  responses : List UDSMessage := []
  /-- what the client emitted with `udsMessageReceived` -/
  emitted : List UDSMessage := []

inductive LossyAction where
  | tick
  | request (msg : UDSMessage)
  | respond (msg : UDSMessage)
  | clientPoll (mem : UDSMessage.Memory)
  | serverPoll
  | deliverToServer (mem : UDSMessage.Memory)
  | deliverToClient (mem : UDSMessage.Memory)
  | loseToServer (i : Nat)
  | loseToClient (i : Nat)
  deriving DecidableEq, Repr

/-- A frame that the client handed to its device, as the server's socket reads it. -/
def onBus (qFrame : QCanBusFrame) : CanFrameData where
  id := qFrame.frameId
  data := qFrame.payload
  len := UInt8.ofNat qFrame.payload.length

def messagesOf (signals : List CanInterFaceSignal) : List UDSMessage :=
  signals.filterMap fun
    | .udsMessageReceived msg => some msg
    | .frameSentSignal _ | .frameReceivedSignal _ => none

namespace LossyCan

/-- Both programs behind a successful `init`. -/
def init (serverBuffers : IsoTpBuffers Server.isoTpBufferSize)
    (memory : IsoTpBuffers Client.isoTpBufferSize) (now : Nat) : LossyCan where
  server := CanWorkerServer.init serverBuffers true
  client :=
    (((CanInterFaceObject.new memory).init .connected).map Prod.fst).getD (.new memory)
  now := now

section

variable (ahead : WhichEnd → Nat) (st : LossyCan)

/-- What `isotp_user_get_ms` returns in each program. -/
def ms (side : WhichEnd) : UInt32 :=
  UInt32.ofNat (st.now + ahead side)

/-- The client sends the frames it handed to its device. -/
def clientSends (client : CanInterFaceObject) (written : List QCanBusFrame) : LossyCan :=
  { st with
    client := client
    toServer := st.toServer ++ written.map onBus
    toServerTimes := stampedAt st.now st.toServerTimes (st.toServer ++ written.map onBus) }

def serverSends (server : CanWorkerServer) (frames : List CanFrameData) : LossyCan :=
  { st with
    server := server
    toClient := st.toClient ++ frames
    toClientTimes := stampedAt st.now st.toClientTimes (st.toClient ++ frames) }

def next : LossyAction → LossyCan
  | .tick => { st with now := st.now + 1 }
  | .request msg =>
      let sent := st.client.sendUdsMessage (st.ms ahead .near) msg
      { st.clientSends sent.1 sent.2 with requests := st.requests ++ [msg] }
  | .respond msg =>
      let sent := st.server.sendUdsMessage (st.ms ahead .far) msg
      { st.serverSends sent.1 sent.2.frames with responses := st.responses ++ [msg] }
  | .clientPoll mem =>
      let polled := st.client.pollTimeout (st.ms ahead .near) mem
      { st.clientSends polled.1 polled.2.1 with
        emitted := st.emitted ++ messagesOf polled.2.2 }
  | .serverPoll =>
      let polled := st.server.pollTimeout (st.ms ahead .far)
      st.serverSends polled.1 polled.2.frames
  | .deliverToServer mem =>
      match st.toServer with
      | [] => st
      | frame :: rest =>
          let handled := st.server.onFrameReceived (st.ms ahead .far) mem frame
          { st.serverSends handled.1 handled.2.frames with
            toServer := rest
            toServerTimes := st.toServerTimes.tail
            received := st.received ++ handled.2.received.toList }
  | .deliverToClient mem =>
      match st.toClient with
      | [] => st
      | frame :: rest =>
          let handled :=
            st.client.onFrameReceived (st.ms ahead .near) mem (QCanBusFrame.ofCanFrame frame)
          { st.clientSends handled.1 handled.2.1 with
            toClient := rest
            toClientTimes := st.toClientTimes.tail
            emitted := st.emitted ++ messagesOf handled.2.2 }
  | .loseToServer i =>
      { st with toServer := st.toServer.eraseIdx i, toServerTimes := st.toServerTimes.eraseIdx i }
  | .loseToClient i =>
      { st with toClient := st.toClient.eraseIdx i, toClientTimes := st.toClientTimes.eraseIdx i }

/-- The clock waits for the frames that are under way; nothing else is asked of a run. -/
def OnTime (st : LossyCan) : LossyAction → Prop
  | .tick => ∀ time ∈ st.toServerTimes ++ st.toClientTimes, st.now < time + TimedDuplex.latency
  | _ => True

instance (st : LossyCan) : (a : LossyAction) → Decidable (st.OnTime a)
  | .tick =>
      inferInstanceAs (Decidable (∀ time ∈ st.toServerTimes ++ st.toClientTimes,
        st.now < time + TimedDuplex.latency))
  | .request _ | .respond _ | .clientPoll _ | .serverPoll | .deliverToServer _ | .deliverToClient _
  | .loseToServer _ | .loseToClient _ => isTrue trivial

end

def machine (ahead : WhichEnd → Nat) (st : LossyCan) : Machine LossyCan LossyAction Unit where
  init := st
  step := fun st a => (st.next ahead a, ())

/-! ## The links below them -/

/-- The bytes that a message is sent as: its size is cast to sixteen bits. -/
def wire (msg : UDSMessage) : QByteArray :=
  (serializeUDSMessage msg).take ((serializeUDSMessage msg).length % 65536)

/-- What a program makes of the messages its link gave: the empty ones are dropped. -/
def Decoded (decode : UDSMessage.Memory → QByteArray → UDSMessage) (raws : List QByteArray)
    (msgs : List UDSMessage) : Prop :=
  List.Forall₂ (fun raw msg => ∃ mem, msg = decode mem raw) (raws.filter (0 < ·.length)) msgs

def serverDecode (mem : UDSMessage.Memory) (raw : QByteArray) : UDSMessage :=
  { Server.deserializeUDSMessage mem raw with isResponse := true }

def frameOf (id : UInt32) (data : QByteArray) : CanFrameData where
  id := id
  data := data
  len := 8

/-- The client runs on one end. -/
structure ClientFollows (c : CanInterFaceObject) (bus : List CanFrameData)
    (requests emitted : List UDSMessage) (e : LinkEnd) : Prop where
  link : c.m_iso_link = e.link
  bus : bus = e.out.map (frameOf CanId.udsReq)
  ready : c.Ready
  device : c.m_device = true
  pollTimer : c.m_pollTimer = true
  configured :
    config e.link = (CanId.udsReq, Client.isoTpBufferSize, CanId.udsResp, Client.isoTpBufferSize)
  requests : e.sent.Sublist (requests.map wire)
  emitted : Decoded Client.deserializeUDSMessage e.fetched emitted

/-- The server runs on the other. -/
structure ServerFollows (w : CanWorkerServer) (bus : List CanFrameData)
    (responses received : List UDSMessage) (e : LinkEnd) : Prop where
  link : w = ⟨true, some e.link⟩
  bus : bus = e.out.map (frameOf CanId.udsResp)
  configured : config e.link = (CanId.udsResp, Server.isoTpBufferSize, 0, Server.isoTpBufferSize)
  responses : e.sent.Sublist (responses.map wire)
  received : Decoded serverDecode e.fetched received

structure Follows (st : LossyCan) (t : TimedDuplex) : Prop where
  now : t.now = st.now
  client : ClientFollows st.client st.toServer st.requests st.emitted t.duplex.near
  server : ServerFollows st.server st.toClient st.responses st.received t.duplex.far
  toServerTimes : st.toServerTimes = t.nearTimes
  toClientTimes : st.toClientTimes = t.farTimes

/-! ## Frames and messages -/

theorem eq_frameOf {id : UInt32} {frame : CanFrameData} (h : frame.id = id ∧ frame.len = 8) :
    frame = frameOf id frame.data := by
  rcases frame with ⟨id', data, len⟩
  rcases h with ⟨rfl, hlen⟩
  exact congrArg _ hlen

theorem frames_eq_map {id : UInt32} {frames : List CanFrameData} (h : AtMostOne id frames) :
    frames = (frames.map CanFrameData.data).map (frameOf id) := by
  rcases h with rfl | ⟨data, rfl⟩
  · rfl
  · rfl

theorem bytes_frameOf (id : UInt32) {f : QByteArray} (h : f.length = 8) :
    (frameOf id f).bytes = f :=
  List.take_of_length_le (Nat.le_of_eq h)

/-- A frame of eight bytes comes through the driver as it is. -/
theorem onBus_ofCanFrame {id : UInt32} {f : QByteArray} (h : f.length = 8) :
    onBus (QCanBusFrame.ofCanFrame (frameOf id f)) = frameOf id f := by
  have hbytes := bytes_frameOf id h
  simp only [onBus, QCanBusFrame.ofCanFrame, hbytes, h]
  rfl

theorem Decoded.snoc {decode : UDSMessage.Memory → QByteArray → UDSMessage} {raws : List QByteArray}
    {msgs : List UDSMessage} (h : Decoded decode raws msgs) (mem : UDSMessage.Memory)
    (raw : Option QByteArray) :
    Decoded decode (raws ++ raw.toList)
      (msgs ++ (raw.bind fun raw =>
        if 0 < raw.length then some (decode mem raw) else none).toList) := by
  rw [Decoded, List.filter_append]
  refine List.rel_append h ?_
  cases raw with
  | none => exact List.Forall₂.nil
  | some raw =>
      by_cases hpos : 0 < raw.length
      · simp only [Option.toList_some, List.filter_cons, hpos, decide_true, if_true, List.filter_nil,
          Option.bind_some]
        exact .cons ⟨mem, rfl⟩ .nil
      · simp only [Option.toList_some, List.filter_cons, hpos, decide_false, Bool.false_eq_true,
          if_false, List.filter_nil, Option.bind_some, Option.toList_none]
        exact .nil

theorem messagesOf_received (msg : Option UDSMessage) :
    messagesOf (msg.toList.map CanInterFaceSignal.udsMessageReceived) = msg.toList := by
  cases msg <;> rfl

/-! ## The client -/

theorem sendFrames_rest (c : CanInterFaceObject) (frames : List CanFrameData) :
    (c.sendFrames frames).1.toCanInterFace = c.toCanInterFace ∧
      (c.sendFrames frames).1.m_device = c.m_device ∧
      (c.sendFrames frames).1.m_pollTimer = c.m_pollTimer := by
  induction frames generalizing c with
  | nil => exact ⟨rfl, rfl, rfl⟩
  | cons frame frames ih =>
      have hframe : (c.sendFunction frame).1.toCanInterFace = c.toCanInterFace ∧
          (c.sendFunction frame).1.m_device = c.m_device ∧
          (c.sendFunction frame).1.m_pollTimer = c.m_pollTimer := by
        unfold CanInterFaceObject.sendFunction CanInterFaceObject.flushSendBuffer
        split_ifs <;> exact ⟨rfl, rfl, rfl⟩
      rcases ih (c.sendFunction frame).1 with ⟨hlink, hdevice, htimer⟩
      exact ⟨hlink.trans hframe.1, hdevice.trans hframe.2.1, htimer.trans hframe.2.2⟩

section

variable {c : CanInterFaceObject} {bus : List CanFrameData} {requests emitted : List UDSMessage}
  {e e' : LinkEnd} {ms : UInt32}

/-- What the link sends goes to the bus. -/
theorem ClientFollows.sends (h : ClientFollows c bus requests emitted e) {frames : List CanFrameData}
    (hcall : CanInterFaceObject.LinkCall e'.link frames)
    (hout : e'.out = e.out ++ frames.map CanFrameData.data)
    (height : ∀ f ∈ e'.out, f.length = 8) (hconfig : config e'.link = config e.link)
    {requests' emitted' : List UDSMessage} (hrequests : e'.sent.Sublist (requests'.map wire))
    (hemitted : Decoded Client.deserializeUDSMessage e'.fetched emitted') :
    ClientFollows (CanInterFaceObject.sendFrames { c with m_iso_link := e'.link } frames).1
      (bus ++ (CanInterFaceObject.sendFrames { c with m_iso_link := e'.link } frames).2.map onBus)
      requests' emitted' e' := by
  rcases sendFrames_rest { c with m_iso_link := e'.link } frames with ⟨hlink, hdevice, htimer⟩
  have hsent := @CanInterFaceObject.sendFrames_of_linkCall c ⟨e'.link⟩ frames h.ready.buffer hcall
  rcases hsent with ⟨hready, hwritten⟩
  refine {
    link := congrArg CanInterFace.m_iso_link hlink
    bus := ?_
    ready := hready
    device := hdevice.trans h.device
    pollTimer := htimer.trans h.pollTimer
    configured := hconfig.trans h.configured
    requests := hrequests
    emitted := hemitted }
  have hdata : ∀ f ∈ frames.map CanFrameData.data, f.length = 8 := fun f hf =>
    height f (hout ▸ List.mem_append_right _ hf)
  -- a frame of the link is on the bus what it was in the link
  have hbus : (frames.map QCanBusFrame.ofCanFrame).map onBus =
      (frames.map CanFrameData.data).map (frameOf CanId.udsReq) := by
    rw [List.map_map, List.map_map]
    refine List.map_congr_left fun frame hmem => ?_
    calc
      onBus (QCanBusFrame.ofCanFrame frame) =
          onBus (QCanBusFrame.ofCanFrame (frameOf CanId.udsReq frame.data)) := by
        rw [← eq_frameOf (hcall.isLinkFrame frame hmem)]
      _ = frameOf CanId.udsReq frame.data :=
        onBus_ofCanFrame (hdata frame.data (List.mem_map_of_mem hmem))
  rw [hwritten, CanInterFaceObject.handed, if_pos h.device, hbus, h.bus, hout, List.map_append]

end

/-! ## The client's calls -/

section

variable {c : CanInterFaceObject} {bus : List CanFrameData} {requests emitted : List UDSMessage}
  {e : LinkEnd} {ms : UInt32}

theorem config_send (u : IsoTpUser) (raw : QByteArray) :
    config (e.send u raw).link = config e.link :=
  config_isotpSend u e.link raw

theorem config_poll (u : IsoTpUser) : config (e.poll u).link = config e.link :=
  config_isotpPoll u e.link

theorem config_handle (u : IsoTpUser) (f : QByteArray) : config (e.handle u f).link = config e.link :=
  config_isotpOnCanMessage u e.link f

theorem config_fetch : config e.fetch.link = config e.link :=
  config_isotpReceive e.link _

/-- A message that the link refuses is not begun. -/
theorem sent_send (u : IsoTpUser) (msg : UDSMessage) (h : e.sent.Sublist (requests.map wire)) :
    (e.send u (wire msg)).sent.Sublist ((requests ++ [msg]).map wire) := by
  rw [List.map_append]
  simp only [LinkEnd.send]
  split_ifs
  · exact h.append (List.Sublist.refl _)
  · exact h.trans (List.sublist_append_left _ _)

/-- `sendUdsMessage` sends and polls. -/
theorem ClientFollows.request (h : ClientFollows c bus requests emitted e) (msg : UDSMessage)
    (height : ∀ f ∈ ((e.send { ms := ms } (wire msg)).poll { ms := ms }).out, f.length = 8) :
    ClientFollows (c.sendUdsMessage ms msg).1 (bus ++ (c.sendUdsMessage ms msg).2.map onBus)
      (requests ++ [msg]) emitted ((e.send { ms := ms } (wire msg)).poll { ms := ms }) := by
  have hlink : (c.linkSend ms (serializeUDSMessage msg)).1 =
      ((e.send { ms := ms } (wire msg)).poll { ms := ms }).link := by
    rw [CanInterFaceObject.linkSend, h.link]
    rfl
  have hcall := CanInterFaceObject.linkCall_linkSend h.ready ms (serializeUDSMessage msg)
  rw [hlink] at hcall
  rw [CanInterFaceObject.sendUdsMessage, CanInterFaceObject.sendUdsRawData, hlink]
  refine h.sends hcall ?_ height ((config_poll _).trans (config_send _ _))
    (sent_send _ msg h.requests) h.emitted
  rw [CanInterFaceObject.linkSend, h.link, List.map_append, ← List.append_assoc]
  rfl

/-- The slot of the poll timer polls and fetches. -/
theorem ClientFollows.pollTimeout (h : ClientFollows c bus requests emitted e)
    (mem : UDSMessage.Memory) (height : ∀ f ∈ (e.poll { ms := ms }).fetch.out, f.length = 8) :
    ClientFollows (c.pollTimeout ms mem).1 (bus ++ (c.pollTimeout ms mem).2.1.map onBus) requests
      (emitted ++ messagesOf (c.pollTimeout ms mem).2.2) (e.poll { ms := ms }).fetch := by
  have hsize : (isotpPoll { ms := ms } e.link).1.receive_buf_size = Client.isoTpBufferSize :=
    congrArg (fun config => config.2.2.2) ((config_poll (e := e) { ms := ms }).trans h.configured)
  have hlink : (c.toCanInterFace.pollTimeout ms mem).1 = ⟨(e.poll { ms := ms }).fetch.link⟩ := by
    simp only [CanInterFace.pollTimeout, CanInterFace.pollAndReceive, h.link, ← hsize]
    rfl
  have hcall := CanInterFaceObject.linkCall_pollTimeout h.ready ms mem
  rw [hlink] at hcall
  rw [CanInterFaceObject.pollTimeout, if_pos h.pollTimer, messagesOf_received]
  simp only [hlink]
  refine h.sends hcall ?_ height (config_fetch.trans (config_poll _)) h.requests ?_
  · simp only [CanInterFace.pollTimeout, CanInterFace.pollAndReceive, h.link]
    rfl
  · have hsnoc := h.emitted.snoc mem
      (isotpReceive (isotpPoll { ms := ms } e.link).1 Client.isoTpBufferSize).1
    simp only [CanInterFace.pollTimeout, CanInterFace.pollAndReceive, h.link]
    rw [← hsize] at hsnoc ⊢
    exact hsnoc

end

theorem isValid_response {f : QByteArray} (h : f.length = 8) :
    (QCanBusFrame.ofCanFrame (frameOf CanId.udsResp f)).IsValid := by
  have hbytes := bytes_frameOf CanId.udsResp h
  have hid : (frameOf CanId.udsResp f).id = CanId.udsResp := rfl
  simp only [QCanBusFrame.IsValid, QCanBusFrame.ofCanFrame, hbytes, h, hid]
  decide

section

variable {c : CanInterFaceObject} {bus : List CanFrameData} {requests emitted : List UDSMessage}
  {e : LinkEnd} {ms : UInt32}

/-- A response frame is handled, and a poll and a fetch follow. -/
theorem ClientFollows.frame (h : ClientFollows c bus requests emitted e) (mem : UDSMessage.Memory)
    {f : QByteArray} (hf : f.length = 8)
    (height : ∀ g ∈ ((e.handle { ms := ms } f).poll { ms := ms }).fetch.out, g.length = 8) :
    ClientFollows
      (c.onFrameReceived ms mem (QCanBusFrame.ofCanFrame (frameOf CanId.udsResp f))).1
      (bus ++ (c.onFrameReceived ms mem
        (QCanBusFrame.ofCanFrame (frameOf CanId.udsResp f))).2.1.map onBus)
      requests
      (emitted ++ messagesOf (c.onFrameReceived ms mem
        (QCanBusFrame.ofCanFrame (frameOf CanId.udsResp f))).2.2)
      ((e.handle { ms := ms } f).poll { ms := ms }).fetch := by
  have hconfig : config ((e.handle { ms := ms } f).poll { ms := ms }).link = config e.link :=
    (config_poll _).trans (config_handle _ _)
  have hsize : (isotpPoll { ms := ms } (isotpOnCanMessage { ms := ms } e.link f).1).1.receive_buf_size =
      Client.isoTpBufferSize :=
    congrArg (fun config => config.2.2.2) (hconfig.trans h.configured)
  have hid : (frameOf CanId.udsResp f).id = c.m_iso_link.receive_arbitration_id := by
    rw [h.link]
    exact (congrArg (fun config => config.2.2.1) h.configured).symm
  have hreceive : c.linkReceive ms mem (QCanBusFrame.ofCanFrame (frameOf CanId.udsResp f)) =
      c.toCanInterFace.onFrame ms mem (frameOf CanId.udsResp f) := by
    change c.toCanInterFace.onFrame ms mem (onBus _) = _
    rw [onBus_ofCanFrame hf]
  have hframe : c.toCanInterFace.onFrame ms mem (frameOf CanId.udsResp f) =
      let handled := isotpOnCanMessage { ms := ms } e.link f
      let rest := CanInterFace.pollAndReceive handled.1 ms mem
      (rest.1, { rest.2 with frames := handled.2 ++ rest.2.frames }) := by
    rw [CanInterFace.onFrame, if_neg (not_not.2 hid), h.link, bytes_frameOf _ hf]
  -- the link behind the slot is that of the end, behind its frame, its poll and its fetch
  have hlink : (c.linkReceive ms mem (QCanBusFrame.ofCanFrame (frameOf CanId.udsResp f))).1 =
      ⟨((e.handle { ms := ms } f).poll { ms := ms }).fetch.link⟩ := by
    rw [hreceive, hframe]
    simp only [CanInterFace.pollAndReceive, ← hsize]
    rfl
  have hcall := CanInterFaceObject.linkCall_linkReceive h.ready ms mem
    (QCanBusFrame.ofCanFrame (frameOf CanId.udsResp f))
  rw [hlink] at hcall
  rw [CanInterFaceObject.onFrameReceived, if_pos ⟨h.device, isValid_response hf⟩]
  simp only [hlink]
  -- what is left: the frames that go out, and the message that may come out
  refine h.sends hcall ?_ height (config_fetch.trans hconfig) h.requests ?_
  · rw [hreceive, hframe]
    simp only [CanInterFace.pollAndReceive, List.map_append, ← List.append_assoc]
    rfl
  · have hsnoc := h.emitted.snoc mem
      (isotpReceive (isotpPoll { ms := ms } (isotpOnCanMessage { ms := ms } e.link f).1).1
        Client.isoTpBufferSize).1
    rw [hreceive, hframe]
    simp only [CanInterFace.pollAndReceive, messagesOf, List.filterMap_cons]
    rw [← messagesOf, messagesOf_received]
    rw [← hsize] at hsnoc ⊢
    exact hsnoc

end

/-! ## The server's calls -/

section

variable {w : CanWorkerServer} {bus : List CanFrameData} {responses received : List UDSMessage}
  {e : LinkEnd} {ms : UInt32}

theorem ServerFollows.id (h : ServerFollows w bus responses received e) :
    e.link.send_arbitration_id = CanId.udsResp :=
  congrArg Prod.fst h.configured

theorem ServerFollows.respond (h : ServerFollows w bus responses received e) (msg : UDSMessage) :
    ServerFollows (w.sendUdsMessage ms msg).1 (bus ++ (w.sendUdsMessage ms msg).2.frames)
      (responses ++ [msg]) received (e.send { ms := ms } (wire msg)) := by
  have hframes := atMostOne_isotpSend { ms := ms } e.link (wire msg)
  rw [h.id] at hframes
  rw [CanWorkerServer.sendUdsMessage_eq ms msg (congrArg CanWorkerServer.m_initialized h.link)
    (congrArg CanWorkerServer.m_isoTpLink h.link)]
  refine ⟨?_, ?_, (config_send _ _).trans h.configured, sent_send _ msg h.responses, h.received⟩
  · rw [h.link]
    rfl
  · change bus ++ (isotpSend { ms := ms } e.link (wire msg)).frames = _
    rw [h.bus, LinkEnd.send, List.map_append, ← frames_eq_map hframes]

theorem ServerFollows.pollTimeout (h : ServerFollows w bus responses received e) :
    ServerFollows (w.pollTimeout ms).1 (bus ++ (w.pollTimeout ms).2.frames) responses received
      (e.poll { ms := ms }) := by
  have hframes := atMostOne_isotpPoll { ms := ms } e.link
  rw [h.id] at hframes
  simp only [CanWorkerServer.pollTimeout, h.link, if_true]
  refine ⟨rfl, ?_, (config_poll _).trans h.configured, h.responses, h.received⟩
  rw [h.bus, LinkEnd.poll, List.map_append, ← frames_eq_map hframes]

theorem ServerFollows.frame (h : ServerFollows w bus responses received e) (mem : UDSMessage.Memory)
    {f : QByteArray} (hf : f.length = 8) :
    ServerFollows (w.onFrameReceived ms mem (frameOf CanId.udsReq f)).1
      (bus ++ (w.onFrameReceived ms mem (frameOf CanId.udsReq f)).2.frames) responses
      (received ++ (w.onFrameReceived ms mem (frameOf CanId.udsReq f)).2.received.toList)
      (e.handle { ms := ms } f).fetch := by
  have hframes := atMostOne_isotpOnCanMessage { ms := ms } e.link f
  rw [h.id] at hframes
  have hid : ¬ (frameOf CanId.udsReq f).id ≠ CanId.udsReq := not_not.2 rfl
  simp only [CanWorkerServer.onFrameReceived, h.link, if_neg hid, bytes_frameOf _ hf]
  refine ⟨rfl, ?_, (config_fetch.trans (config_handle _ _)).trans h.configured, h.responses, ?_⟩
  · rw [h.bus, LinkEnd.fetch, LinkEnd.handle, List.map_append, ← frames_eq_map hframes]
  · have hsnoc := h.received.snoc mem (e.handle { ms := ms } f |>.link |> fun link =>
      (isotpReceive link link.receive_buf_size).1)
    refine (congrArg (Decoded serverDecode _) ?_).mp hsnoc
    simp only [LinkEnd.handle]
    cases (isotpReceive (isotpOnCanMessage { ms := ms } e.link f).1
      (isotpOnCanMessage { ms := ms } e.link f).1.receive_buf_size).1 <;> rfl

end

/-! ## Both together -/

variable {ahead : WhichEnd → Nat} {st : LossyCan} {t t' : TimedDuplex}

/-- The client's side after a call of its own. -/
theorem Follows.clientSends (h : Follows st t) {client : CanInterFaceObject}
    {written : List QCanBusFrame} {requests emitted : List UDSMessage} {toClient : List CanFrameData}
    {toClientTimes : List Nat}
    (hclient : ClientFollows client (st.toServer ++ written.map onBus) requests emitted
      t'.duplex.near)
    (hserver : ServerFollows st.server toClient st.responses st.received t'.duplex.far)
    (hnow : t'.now = t.now) (htimes : t'.nearTimes = stampedAt t.now t.nearTimes t'.duplex.near.out)
    (htimes' : toClientTimes = t'.farTimes) :
    Follows { st.clientSends client written with
      requests := requests, emitted := emitted, toClient := toClient
      toClientTimes := toClientTimes } t' where
  now := hnow.trans h.now
  client := hclient
  server := hserver
  toServerTimes := by
    change stampedAt st.now st.toServerTimes (st.toServer ++ written.map onBus) = _
    rw [hclient.bus, stampedAt_map, htimes, h.now, h.toServerTimes]
  toClientTimes := htimes'

theorem Follows.serverSends (h : Follows st t) {server : CanWorkerServer}
    {frames toServer : List CanFrameData} {responses received : List UDSMessage}
    {toServerTimes : List Nat}
    (hserver : ServerFollows server (st.toClient ++ frames) responses received t'.duplex.far)
    (hclient : ClientFollows st.client toServer st.requests st.emitted t'.duplex.near)
    (hnow : t'.now = t.now) (htimes : t'.farTimes = stampedAt t.now t.farTimes t'.duplex.far.out)
    (htimes' : toServerTimes = t'.nearTimes) :
    Follows { st.serverSends server frames with
      responses := responses, received := received, toServer := toServer
      toServerTimes := toServerTimes } t' where
  now := hnow.trans h.now
  client := hclient
  server := hserver
  toServerTimes := htimes'
  toClientTimes := by
    change stampedAt st.now st.toClientTimes (st.toClient ++ frames) = _
    rw [hserver.bus, stampedAt_map, htimes, h.now, h.toClientTimes]

theorem Follows.user (h : Follows st t) (side : WhichEnd) {c : EndCall}
    (hc : ∀ u ∈ c.user, u = { ms := st.ms ahead side }) : t.OnTime ahead (.act side c) := by
  intro u hu
  rw [hc u hu, LossyCan.ms, h.now]

/-- Every step of the programs is one of the links, or a few at one time. -/
def Simulated (ahead : WhichEnd → Nat) (st' : LossyCan) : Prop :=
  ∃ t', TimedDuplex.Safe ahead t' ∧ Follows st' t'

theorem Follows.request (h : Follows st t) (hsafe : TimedDuplex.Safe ahead t) (msg : UDSMessage) :
    Simulated ahead (st.next ahead (.request msg)) := by
  have hsend := hsafe.step (c := .act .near (.send { ms := st.ms ahead .near } (wire msg)))
    (h.user .near fun u hu => (Option.mem_some_iff.1 hu).symm)
  have hpoll := hsend.step (c := .act .near (.poll { ms := st.ms ahead .near }))
    (h.user .near fun u hu => (Option.mem_some_iff.1 hu).symm)
  refine ⟨_, hpoll, h.clientSends (h.client.request msg fun f hf => hpoll.sound.eight hf) h.server rfl ?_
    h.toClientTimes⟩
  refine stampedAt_twice ?_ ?_
  · rw [hsafe.punctual.nearTimes]
    exact (List.prefix_append _ _).length_le
  · exact (List.prefix_append _ _).length_le

theorem Follows.clientPoll (h : Follows st t) (hsafe : TimedDuplex.Safe ahead t)
    (mem : UDSMessage.Memory) : Simulated ahead (st.next ahead (.clientPoll mem)) := by
  have hpoll := hsafe.step (c := .act .near (.poll { ms := st.ms ahead .near }))
    (h.user .near fun u hu => (Option.mem_some_iff.1 hu).symm)
  have hfetch := hpoll.step (c := .act .near .fetch) fun _ hu => absurd hu (Option.not_mem_none _)
  refine ⟨_, hfetch, h.clientSends (h.client.pollTimeout mem fun f hf => hfetch.sound.eight hf) h.server
    rfl ?_ h.toClientTimes⟩
  refine stampedAt_twice ?_ (Nat.le_refl _)
  rw [hsafe.punctual.nearTimes]
  exact (List.prefix_append _ _).length_le

theorem Follows.respond (h : Follows st t) (hsafe : TimedDuplex.Safe ahead t) (msg : UDSMessage) :
    Simulated ahead (st.next ahead (.respond msg)) := by
  have hsend := hsafe.step (c := .act .far (.send { ms := st.ms ahead .far } (wire msg)))
    (h.user .far fun u hu => (Option.mem_some_iff.1 hu).symm)
  exact ⟨_, hsend, h.serverSends (h.server.respond msg) h.client rfl rfl h.toServerTimes⟩

theorem Follows.serverPoll (h : Follows st t) (hsafe : TimedDuplex.Safe ahead t) :
    Simulated ahead (st.next ahead .serverPoll) := by
  have hpoll := hsafe.step (c := .act .far (.poll { ms := st.ms ahead .far }))
    (h.user .far fun u hu => (Option.mem_some_iff.1 hu).symm)
  exact ⟨_, hpoll, h.serverSends h.server.pollTimeout h.client rfl rfl h.toServerTimes⟩

theorem Follows.deliverToServer (h : Follows st t) (hsafe : TimedDuplex.Safe ahead t)
    (mem : UDSMessage.Memory) : Simulated ahead (st.next ahead (.deliverToServer mem)) := by
  have hbus := h.client.bus
  cases hout : t.duplex.near.out with
  | nil =>
      rw [hout, List.map_nil] at hbus
      rw [next, hbus]
      exact ⟨t, hsafe, h⟩
  | cons f rest =>
      have hf : f.length = 8 := hsafe.sound.eight (hout ▸ List.mem_cons_self)
      have harrive := hsafe.step (c := .act .far (.arrive { ms := st.ms ahead .far }))
        (h.user .far fun u hu => (Option.mem_some_iff.1 hu).symm)
      have harrived : t.step (.act .far (.arrive { ms := st.ms ahead .far })) =
          { t with
            duplex := ⟨{ t.duplex.near with out := rest },
              t.duplex.far.handle { ms := st.ms ahead .far } f⟩
            nearTimes := t.nearTimes.tail
            farTimes := stampedAt t.now t.farTimes
              (t.duplex.far.handle { ms := st.ms ahead .far } f).out } := by
        rw [TimedDuplex.step, TimedDuplex.call_arrive (t := t.swap) hout]
        rfl
      rw [harrived] at harrive
      have hfetch := harrive.step (c := .act .far .fetch) fun _ hu =>
        absurd hu (Option.not_mem_none _)
      rw [hout, List.map_cons] at hbus
      simp only [next, hbus]
      refine ⟨_, hfetch, h.serverSends (h.server.frame mem hf) { h.client with bus := rfl } rfl ?_
        (congrArg List.tail h.toServerTimes)⟩
      refine stampedAt_twice ?_ (Nat.le_refl _)
      rw [hsafe.punctual.farTimes]
      exact (List.prefix_append _ _).length_le

theorem Follows.deliverToClient (h : Follows st t) (hsafe : TimedDuplex.Safe ahead t)
    (mem : UDSMessage.Memory) : Simulated ahead (st.next ahead (.deliverToClient mem)) := by
  have hbus := h.server.bus
  cases hout : t.duplex.far.out with
  | nil =>
      rw [hout, List.map_nil] at hbus
      rw [next, hbus]
      exact ⟨t, hsafe, h⟩
  | cons f rest =>
      have hf : f.length = 8 := hsafe.sound.swap.eight (hout ▸ List.mem_cons_self)
      -- one slot is three calls of the link at one time: the frame, the poll and the fetch
      have harrive := hsafe.step (c := .act .near (.arrive { ms := st.ms ahead .near }))
        (h.user .near fun u hu => (Option.mem_some_iff.1 hu).symm)
      rw [TimedDuplex.step, TimedDuplex.call_arrive hout] at harrive
      have hpoll := harrive.step (c := .act .near (.poll { ms := st.ms ahead .near }))
        fun u hu => by rw [← Option.mem_some_iff.1 hu, LossyCan.ms, h.now]
      have hfetch := hpoll.step (c := .act .near .fetch) fun _ hu =>
        absurd hu (Option.not_mem_none _)
      rw [hout, List.map_cons] at hbus
      simp only [next, hbus]
      refine ⟨_, hfetch, h.clientSends (h.client.frame mem hf fun g hg => hfetch.sound.eight hg)
        { h.server with bus := rfl } rfl ?_ (congrArg List.tail h.toClientTimes)⟩
      have hhandled : t.nearTimes.length ≤
          (t.duplex.near.handle { ms := st.ms ahead .near } f).out.length := by
        rw [hsafe.punctual.nearTimes]
        exact (List.prefix_append _ _).length_le
      have hpolled : (t.duplex.near.handle { ms := st.ms ahead .near } f).out.length ≤
          ((t.duplex.near.handle { ms := st.ms ahead .near } f).poll
            { ms := st.ms ahead .near }).out.length :=
        (List.prefix_append _ _).length_le
      -- they stamp the bus three times, the slot only once
      calc
        stampedAt t.now (stampedAt t.now (stampedAt t.now t.nearTimes _) _) _ =
            stampedAt t.now (stampedAt t.now t.nearTimes _) _ :=
          congrArg (fun times => stampedAt t.now times _) (stampedAt_twice hhandled hpolled)
        _ = stampedAt t.now t.nearTimes _ :=
          stampedAt_twice (hhandled.trans hpolled) (Nat.le_refl _)

theorem Follows.loseToServer (h : Follows st t) (hsafe : TimedDuplex.Safe ahead t) (i : Nat) :
    Simulated ahead (st.next ahead (.loseToServer i)) := by
  have hlose := hsafe.step (c := .act .near (.lose i)) fun _ hu => absurd hu (Option.not_mem_none _)
  refine ⟨_, hlose, h.now, { h.client with bus := ?_ }, h.server, ?_, h.toClientTimes⟩
  · exact (congrArg (·.eraseIdx i) h.client.bus).trans (List.eraseIdx_map ..)
  · exact congrArg (·.eraseIdx i) h.toServerTimes

theorem Follows.loseToClient (h : Follows st t) (hsafe : TimedDuplex.Safe ahead t) (i : Nat) :
    Simulated ahead (st.next ahead (.loseToClient i)) := by
  have hlose := hsafe.step (c := .act .far (.lose i)) fun _ hu => absurd hu (Option.not_mem_none _)
  refine ⟨_, hlose, h.now, h.client, { h.server with bus := ?_ }, h.toServerTimes, ?_⟩
  · exact (congrArg (·.eraseIdx i) h.server.bus).trans (List.eraseIdx_map ..)
  · exact congrArg (·.eraseIdx i) h.toClientTimes

theorem Follows.tick (h : Follows st t) (hsafe : TimedDuplex.Safe ahead t)
    (hon : st.OnTime .tick) : Simulated ahead (st.next ahead .tick) := by
  have htick := hsafe.step (c := .tick) fun time htime => by
    rw [← h.toServerTimes, ← h.toClientTimes] at htime
    rw [h.now]
    exact hon time htime
  exact ⟨_, htick, congrArg Nat.succ h.now, h.client, h.server, h.toServerTimes, h.toClientTimes⟩

theorem Simulated.next (h : Simulated ahead st) {a : LossyAction} (hon : st.OnTime a) :
    Simulated ahead (st.next ahead a) := by
  rcases h with ⟨t, hsafe, hfollows⟩
  cases a with
  | tick => exact hfollows.tick hsafe hon
  | request msg => exact hfollows.request hsafe msg
  | respond msg => exact hfollows.respond hsafe msg
  | clientPoll mem => exact hfollows.clientPoll hsafe mem
  | serverPoll => exact hfollows.serverPoll hsafe
  | deliverToServer mem => exact hfollows.deliverToServer hsafe mem
  | deliverToClient mem => exact hfollows.deliverToClient hsafe mem
  | loseToServer i => exact hfollows.loseToServer hsafe i
  | loseToClient i => exact hfollows.loseToClient hsafe i

theorem simulated_init (ahead : WhichEnd → Nat) (serverBuffers : IsoTpBuffers Server.isoTpBufferSize)
    (memory : IsoTpBuffers Client.isoTpBufferSize) (now : Nat) :
    Simulated ahead (init serverBuffers memory now) := by
  let near : IsoTpLink := CanInterFaceObject.initLink (CanInterFaceObject.new memory).m_iso_link
  have hnear : Duplex.Unused near := {
    send_status := fun heq => IsoTpSendStatus.noConfusion heq
    receive_status := rfl
    send_buf_size := show Client.isoTpBufferSize ≤ 4096 by decide
    receive_buf_size := show 8 ≤ Client.isoTpBufferSize by decide
    room := Nat.le_of_eq memory.length_receiveBuffer.symm }
  have hfar : Duplex.Unused (isotpInitLink CanId.udsResp serverBuffers) :=
    Duplex.unused_isotpInitLink _ _ (by decide) (by decide)
  refine ⟨_, TimedDuplex.safe_start hnear hfar ahead now, rfl, ?_, ?_, rfl, rfl⟩
  · exact {
      link := rfl
      bus := rfl
      ready := @CanInterFaceObject.ready_init (CanInterFaceObject.new memory) _ .connected _ rfl
      device := rfl
      pollTimer := rfl
      configured := rfl
      requests := List.nil_sublist _
      emitted := List.Forall₂.nil }
  · exact {
      link := rfl
      bus := rfl
      configured := rfl
      responses := List.nil_sublist _
      received := List.Forall₂.nil }

theorem simulated_run {st : LossyCan} (h : Simulated ahead st) {actions : List LossyAction}
    (hon : (machine ahead st).Along OnTime st actions) :
    Simulated ahead ((machine ahead st).after actions) := by
  have hstep : ∀ st' a, Simulated ahead st' → OnTime st' a →
      Simulated ahead ((machine ahead st).step st' a).1 := fun _ _ h hon => h.next hon
  exact (machine ahead st).exec_invariant_along hstep h hon

/-- Nothing that is decoded was not sent. -/
theorem Decoded.exists_sublist {decode : UDSMessage.Memory → QByteArray → UDSMessage}
    {fetched : List QByteArray} {sent msgs : List UDSMessage} (h : Decoded decode fetched msgs)
    (hsub : fetched.Sublist (sent.map wire)) :
    ∃ kept, kept.Sublist sent ∧
      List.Forall₂ (fun msg got => ∃ mem, got = decode mem (wire msg)) kept msgs := by
  have hraws : (fetched.filter (0 < ·.length)).Sublist (sent.map wire) :=
    List.filter_sublist.trans hsub
  rcases List.sublist_map_iff.1 hraws with ⟨kept, hkept, heq⟩
  rw [Decoded, heq, List.forall₂_map_left_iff] at h
  exact ⟨kept, hkept, h⟩

/-- Whatever the bus loses, the server passes on only requests that the client was given, and the
client emits only responses that the server was given: each at most once, in their order, and decoded
from the bytes that it was sent as. -/
theorem messages_survive_loss (ahead : WhichEnd → Nat)
    (serverBuffers : IsoTpBuffers Server.isoTpBufferSize)
    (memory : IsoTpBuffers Client.isoTpBufferSize) (now : Nat) {actions : List LossyAction}
    (hon : (machine ahead (init serverBuffers memory now)).Along OnTime
      (init serverBuffers memory now) actions) :
    let st := (machine ahead (init serverBuffers memory now)).after actions
    (∃ kept, kept.Sublist st.requests ∧
        List.Forall₂ (fun msg got => ∃ mem, got = serverDecode mem (wire msg)) kept st.received) ∧
      ∃ kept, kept.Sublist st.responses ∧
        List.Forall₂ (fun msg got => ∃ mem, got = Client.deserializeUDSMessage mem (wire msg)) kept
          st.emitted := by
  rcases simulated_run (simulated_init ahead serverBuffers memory now) hon with ⟨t, hsafe, hfollows⟩
  rcases hsafe.sound.fetched with ⟨hforth, hback⟩
  exact ⟨hfollows.server.received.exists_sublist (hforth.trans hfollows.client.requests),
    hfollows.client.emitted.exists_sublist (hback.trans hfollows.server.responses)⟩

/-- Two requests, of which the first one is lost. -/
def lostRequest : List LossyAction :=
  [.tick, .request (UDSMessage.declare {}), .loseToServer 0, .request (UDSMessage.declare {}),
    .deliverToServer {}, .clientPoll {}, .serverPoll]

theorem messages_survive_loss_lostRequest :
    let st := (machine (fun _ => 7) (init (IsoTpBuffers.zero _) (IsoTpBuffers.zero _) 0)).after
      lostRequest
    ∃ kept, kept.Sublist st.requests ∧
      List.Forall₂ (fun msg got => ∃ mem, got = serverDecode mem (wire msg)) kept st.received := by
  have hon : (machine (fun _ => 7) (init (IsoTpBuffers.zero _) (IsoTpBuffers.zero _) 0)).Along OnTime
      (init (IsoTpBuffers.zero _) (IsoTpBuffers.zero _) 0) lostRequest :=
    ⟨fun _ h => (by cases h), trivial, trivial, trivial, trivial, trivial, trivial, trivial⟩
  exact (messages_survive_loss (fun _ => 7) _ _ 0 hon).1

end LossyCan
end System
end TcpCanUds
