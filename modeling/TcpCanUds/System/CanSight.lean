import TcpCanUds.Server.CanReception
import TcpCanUds.System.CanDelivery
import TcpCanUds.System.LossyCan

/-!
# CanSight — the two programs on the bus, seen from their links

A run of the two programs is a run of a `CanSystem` when the clock, the client's driver and the times of
the frames are left out.  `Up` is what holds of both programs whatever happens on the bus; under it
every poll and every delivery is the one of the `CanSystem`.
-/

namespace TcpCanUds
namespace System

open Lib IsoTp Server Client

namespace LossyCan

/-- The links and the bus, with what the client is said to have emitted. -/
def sight (st : LossyCan) (emitted : List UDSMessage) : CanSystem where
  server := st.server
  client := st.client.toCanInterFace
  toClient := st.toClient
  toServer := st.toServer
  emitted := emitted

/-! ## What always holds -/

/-- The client behind a successful `init`, with its link between two calls. -/
structure ClientUp (c : CanInterFaceObject) (clink : IsoTpLink) : Prop where
  link : c.toCanInterFace = ⟨clink⟩
  config :
    config clink = (CanId.udsReq, Client.isoTpBufferSize, CanId.udsResp, Client.isoTpBufferSize)
  receiver : ReceiverInv clink
  ready : c.Ready
  device : c.m_device = true
  pollTimer : c.m_pollTimer = true

structure Up (st : LossyCan) (slink clink : IsoTpLink) : Prop where
  server : CanWorkerServer.Sound st.server slink
  client : ClientUp st.client clink

/-! ## The client's link -/

section

variable {clink : IsoTpLink} (ms : UInt32) (mem : UDSMessage.Memory)

/-- A poll and a receive behind it keep the receive buffer, and leave no complete message. -/
theorem receiverInv_pollAndReceive
    (hlength : clink.receive_buffer.length = clink.receive_buf_size)
    (hinv : clink.receive_status ≠ .full → ReceiverInv clink) :
    ReceiverInv (CanInterFace.pollAndReceive clink ms mem).1.m_iso_link := by
  have hquiet := quiet_isotpPoll { ms := ms } clink
  have hconfig := config_isotpPoll { ms := ms } clink
  rcases hquiet.reception_eq with ⟨hbuffer, -⟩
  have hroom : (isotpPoll { ms := ms } clink).1.receive_buffer.length =
      (isotpPoll { ms := ms } clink).1.receive_buf_size := by
    rw [hbuffer, receive_buf_size_of_config hconfig, hlength]
  have hidle : ∀ link : IsoTpLink, link.receive_buffer.length = link.receive_buf_size →
      link.receive_status = .idle → ReceiverInv link := by
    intro link hlink hstatus
    have hne : link.receive_status ≠ .inprogress := fun h => nomatch hstatus.symm.trans h
    exact {
      length := hlink
      notFull := fun h => nomatch hstatus.symm.trans h
      offset_le := fun h => absurd h hne
      size_le := fun h => absurd h hne }
  change ReceiverInv (isotpReceive (isotpPoll { ms := ms } clink).1 Client.isoTpBufferSize).2
  rw [isotpReceive]
  split_ifs with hwaits
  · rcases hquiet.status with hsame | hended
    · exact (hinv (hsame ▸ hwaits)).quiet hconfig hquiet
    · exact hidle _ hroom hended
  · exact hidle _ hroom rfl

/-- So does a frame before them. -/
theorem receiverInv_onFrame (h : ReceiverInv clink) (hbuf : 8 ≤ clink.receive_buf_size)
    (data : QByteArray) :
    ReceiverInv (CanInterFace.pollAndReceive
      (isotpOnCanMessage { ms := ms } clink data).1 ms mem).1.m_iso_link := by
  have hstep := receiveFrame_step { ms := ms } data h.notFull hbuf
  have hreceived := h.step hbuf (config_receiveFrame { ms := ms } clink data) hstep
  rw [receiveFrame, isotpReceive] at hreceived
  refine receiverInv_pollAndReceive ms mem ?_ fun hwaits => ?_
  · split_ifs at hreceived with hwaits
    · exact hreceived.length
    · exact hreceived.length
  · rw [if_pos hwaits] at hreceived
    exact hreceived

end

/-! ## The client -/

section

variable {c : CanInterFaceObject} {clink clink' : IsoTpLink} {frames : List CanFrameData}

theorem ClientUp.receive_buf_size (h : ClientUp c clink) :
    clink.receive_buf_size = Client.isoTpBufferSize :=
  congrArg (fun c => c.2.2.2) h.config

theorem ClientUp.eight_le (h : ClientUp c clink) : 8 ≤ clink.receive_buf_size := by
  rw [h.receive_buf_size]
  decide

/-- The frames of a call go to the device, one by one. -/
theorem ClientUp.sends (h : ClientUp c clink)
    (hcall : CanInterFaceObject.LinkCall clink' frames)
    (hconfig : IsoTp.config clink' = IsoTp.config clink) (hreceiver : ReceiverInv clink') :
    ClientUp (CanInterFaceObject.sendFrames { c with m_iso_link := clink' } frames).1 clink' ∧
      (CanInterFaceObject.sendFrames { c with m_iso_link := clink' } frames).2 =
        frames.map QCanBusFrame.ofCanFrame := by
  rcases sendFrames_rest { c with m_iso_link := clink' } frames with ⟨hlink, hdevice, htimer⟩
  have hsent := @CanInterFaceObject.sendFrames_of_linkCall c ⟨clink'⟩ frames h.ready.buffer hcall
  rcases hsent with ⟨hready, hwritten⟩
  refine ⟨{
    link := hlink
    config := hconfig.trans h.config
    receiver := hreceiver
    ready := hready
    device := hdevice.trans h.device
    pollTimer := htimer.trans h.pollTimer }, ?_⟩
  rw [CanInterFaceObject.handed, if_pos h.device] at hwritten
  exact hwritten

theorem ClientUp.sendUdsMessage (h : ClientUp c clink) (ms : UInt32) (msg : UDSMessage) :
    ClientUp (c.sendUdsMessage ms msg).1 (c.linkSend ms (serializeUDSMessage msg)).1 ∧
      (c.sendUdsMessage ms msg).2 =
        (c.linkSend ms (serializeUDSMessage msg)).2.map QCanBusFrame.ofCanFrame := by
  have hcall := CanInterFaceObject.linkCall_linkSend h.ready ms (serializeUDSMessage msg)
  have hlink : c.m_iso_link = clink := congrArg CanInterFace.m_iso_link h.link
  refine h.sends hcall ?_ ?_
  · rw [CanInterFaceObject.linkSend, hlink]
    exact (config_isotpPoll _ _).trans (config_isotpSend _ _ _)
  · rw [CanInterFaceObject.linkSend, hlink]
    exact (h.receiver.quiet (config_isotpSend _ _ _) (quiet_isotpSend _ _ _)).quiet
      (config_isotpPoll _ _) (quiet_isotpPoll _ _)

theorem ClientUp.pollTimeout (h : ClientUp c clink) (ms : UInt32) (mem : UDSMessage.Memory) :
    ClientUp (c.pollTimeout ms mem).1 (c.toCanInterFace.pollTimeout ms mem).1.m_iso_link ∧
      (c.pollTimeout ms mem).2.1 =
        (c.toCanInterFace.pollTimeout ms mem).2.frames.map QCanBusFrame.ofCanFrame := by
  have hcall := CanInterFaceObject.linkCall_pollTimeout h.ready ms mem
  have hlink : c.m_iso_link = clink := congrArg CanInterFace.m_iso_link h.link
  rw [CanInterFaceObject.pollTimeout, if_pos h.pollTimer]
  refine h.sends hcall ?_ ?_
  · rw [h.link]
    exact (config_isotpReceive _ _).trans (config_isotpPoll _ _)
  · rw [h.link]
    exact receiverInv_pollAndReceive ms mem h.receiver.length fun _ => h.receiver

/-- A valid frame that the device has read. -/
theorem ClientUp.onFrameReceived (h : ClientUp c clink) (ms : UInt32) (mem : UDSMessage.Memory)
    {qFrame : QCanBusFrame} (hvalid : qFrame.IsValid) :
    ClientUp (c.onFrameReceived ms mem qFrame).1 (c.linkReceive ms mem qFrame).1.m_iso_link ∧
      (c.onFrameReceived ms mem qFrame).2.1 =
        (c.linkReceive ms mem qFrame).2.frames.map QCanBusFrame.ofCanFrame := by
  have hcall := CanInterFaceObject.linkCall_linkReceive h.ready ms mem qFrame
  rw [CanInterFaceObject.onFrameReceived, if_pos ⟨h.device, hvalid⟩]
  refine h.sends hcall ?_ ?_
  · rw [CanInterFaceObject.linkReceive, h.link, CanInterFace.onFrame]
    split_ifs with hother
    · rfl
    · exact (config_isotpReceive _ _).trans
        ((config_isotpPoll _ _).trans (config_isotpOnCanMessage _ _ _))
  · rw [CanInterFaceObject.linkReceive, h.link, CanInterFace.onFrame]
    split_ifs with hother
    · exact h.receiver
    · exact receiverInv_onFrame ms mem h.receiver h.eight_le _

end

/-! ## Every action keeps both programs up -/

section

variable {st : LossyCan} {slink clink : IsoTpLink}

theorem Up.next (h : Up st slink clink) (ahead : WhichEnd → Nat) (a : LossyAction) :
    ∃ slink' clink', Up (st.next ahead a) slink' clink' := by
  have hserver := fun i => h.server.step (IsoTpBuffers.zero _) i
  cases a with
  | tick | loseToServer i | loseToClient i => exact ⟨slink, clink, h.server, h.client⟩
  | request msg => exact ⟨slink, _, h.server, (h.client.sendUdsMessage _ msg).1⟩
  | respond msg =>
      rcases hserver (.sendUdsMessage (st.ms ahead .far) msg) with ⟨slink', -, hsound, -⟩
      exact ⟨slink', clink, hsound, h.client⟩
  | clientPoll mem => exact ⟨slink, _, h.server, (h.client.pollTimeout _ mem).1⟩
  | serverPoll =>
      rcases hserver (.pollTimeout (st.ms ahead .far)) with ⟨slink', -, hsound, -⟩
      exact ⟨slink', clink, hsound, h.client⟩
  | deliverToServer mem =>
      cases hbus : st.toServer with
      | nil =>
          simp only [LossyCan.next, hbus]
          exact ⟨slink, clink, h⟩
      | cons frame rest =>
          rcases hserver (.frameReceived (st.ms ahead .far) mem frame) with ⟨slink', -, hsound, -⟩
          simp only [LossyCan.next, hbus]
          exact ⟨slink', clink, hsound, h.client⟩
  | deliverToClient mem =>
      cases hbus : st.toClient with
      | nil =>
          simp only [LossyCan.next, hbus]
          exact ⟨slink, clink, h⟩
      | cons frame rest =>
          simp only [LossyCan.next, hbus]
          -- a frame that the driver takes for invalid is left out by the slot
          by_cases hvalid : (QCanBusFrame.ofCanFrame frame).IsValid
          · exact ⟨slink, _, h.server, (h.client.onFrameReceived _ mem hvalid).1⟩
          · have hsame : st.client.onFrameReceived (st.ms ahead .near) mem
                (QCanBusFrame.ofCanFrame frame) = (st.client, [], []) := by
              rw [CanInterFaceObject.onFrameReceived, if_neg fun htaken => hvalid htaken.2]
            rw [hsame]
            exact ⟨slink, clink, h.server, h.client⟩

theorem up_init (serverBuffers : IsoTpBuffers Server.isoTpBufferSize)
    (memory : IsoTpBuffers Client.isoTpBufferSize) (now : Nat) :
    ∃ slink clink, Up (init serverBuffers memory now) slink clink := by
  rcases CanWorkerServer.sound_after serverBuffers [] with ⟨slink, hsound⟩
  refine ⟨slink, _, hsound, {
    link := rfl
    config := rfl
    receiver := {
      length := memory.length_receiveBuffer
      notFull := fun h => IsoTpReceiveStatus.noConfusion h
      offset_le := fun h => IsoTpReceiveStatus.noConfusion h
      size_le := fun h => IsoTpReceiveStatus.noConfusion h }
    ready := @CanInterFaceObject.ready_init (CanInterFaceObject.new memory) _ .connected _ rfl
    device := rfl
    pollTimer := rfl }⟩

end

/-! ## The actions as those of the two links -/

/-- The client's frames come through its driver as they are. -/
theorem onBus_written {frames : List CanFrameData} (hlink : ∀ frame ∈ frames, IsLinkFrame frame)
    (height : ∀ frame ∈ frames, frame.data.length = 8) :
    (frames.map QCanBusFrame.ofCanFrame).map onBus = frames := by
  rw [List.map_map]
  refine (List.map_congr_left fun frame hmem => ?_).trans (List.map_id frames)
  calc
    onBus (QCanBusFrame.ofCanFrame frame) =
        onBus (QCanBusFrame.ofCanFrame (frameOf CanId.udsReq frame.data)) := by
      rw [← eq_frameOf (hlink frame hmem)]
    _ = frameOf CanId.udsReq frame.data := onBus_ofCanFrame (height frame hmem)
    _ = frame := (eq_frameOf (hlink frame hmem)).symm

section

variable {st : LossyCan} {slink clink : IsoTpLink} {ahead : WhichEnd → Nat}
  {emitted : List UDSMessage} {mem : UDSMessage.Memory}

theorem sight_deliverToServer :
    (sight st emitted).next mem (.deliverToServer (st.ms ahead .far)) =
      sight (st.next ahead (.deliverToServer mem)) emitted := by
  cases hbus : st.toServer with
  | nil => simp only [CanSystem.next, LossyCan.next, sight, hbus]
  | cons frame rest => simp only [CanSystem.next, LossyCan.next, sight, hbus, serverSends]

/-- The frames that the client adds to the bus have eight bytes. -/
def AddsEight (st : CanSystem) (mem : UDSMessage.Memory) (a : CanAction) : Prop :=
  ∀ frame ∈ (st.next mem a).toServer, frame.data.length = 8

theorem sight_clientPoll (h : Up st slink clink)
    (height : AddsEight (sight st emitted) mem (.clientPoll (st.ms ahead .near))) :
    ∃ new, (st.next ahead (.clientPoll mem)).emitted = st.emitted ++ new ∧
      (sight st emitted).next mem (.clientPoll (st.ms ahead .near)) =
        sight (st.next ahead (.clientPoll mem)) (emitted ++ new) := by
  let polled := st.client.toCanInterFace.pollTimeout (st.ms ahead .near) mem
  rcases h.client.pollTimeout (st.ms ahead .near) mem with ⟨hup, hwritten⟩
  have hcall := CanInterFaceObject.linkCall_pollTimeout h.client.ready (st.ms ahead .near) mem
  have hbus := onBus_written hcall.isLinkFrame
    fun frame hmem => height frame (List.mem_append_right _ hmem)
  have hemitted : messagesOf (st.client.pollTimeout (st.ms ahead .near) mem).2.2 =
      polled.2.received.toList := by
    rw [CanInterFaceObject.pollTimeout, if_pos h.client.pollTimer]
    exact messagesOf_received _
  refine ⟨polled.2.received.toList, congrArg (st.emitted ++ ·) hemitted, ?_⟩
  simp only [CanSystem.next, LossyCan.next, sight, CanSystem.clientStep, clientSends, hup.link, hwritten,
    hbus]
  rfl

/-- A response frame comes through the driver as it is. -/
theorem linkReceive_frameOf (c : CanInterFaceObject) (ms : UInt32) (mem : UDSMessage.Memory)
    {f : QByteArray} (hf : f.length = 8) :
    c.linkReceive ms mem (QCanBusFrame.ofCanFrame (frameOf CanId.udsResp f)) =
      c.toCanInterFace.onFrame ms mem (frameOf CanId.udsResp f) := by
  change c.toCanInterFace.onFrame ms mem (onBus _) = _
  rw [onBus_ofCanFrame hf]

theorem sight_deliverToClient (h : Up st slink clink)
    (hbus : ∀ frame ∈ st.toClient, frame = frameOf CanId.udsResp frame.data ∧ frame.data.length = 8)
    (height : AddsEight (sight st emitted) mem (.deliverToClient (st.ms ahead .near))) :
    ∃ new, (st.next ahead (.deliverToClient mem)).emitted = st.emitted ++ new ∧
      (sight st emitted).next mem (.deliverToClient (st.ms ahead .near)) =
        sight (st.next ahead (.deliverToClient mem)) (emitted ++ new) := by
  cases hframes : st.toClient with
  | nil =>
      simp only [CanSystem.next, LossyCan.next, sight, hframes]
      exact ⟨[], (List.append_nil _).symm, by rw [List.append_nil]⟩
  | cons frame rest =>
      rcases hbus frame (by rw [hframes]; exact List.mem_cons_self) with ⟨hframe, hf⟩
      have hvalid := isValid_response hf
      have hreceive := linkReceive_frameOf st.client (st.ms ahead .near) mem hf
      rw [← hframe] at hvalid hreceive
      rcases h.client.onFrameReceived (st.ms ahead .near) mem hvalid with ⟨hup, hwritten⟩
      have hcall := CanInterFaceObject.linkCall_linkReceive h.client.ready (st.ms ahead .near) mem
        (QCanBusFrame.ofCanFrame frame)
      rw [hreceive] at hup hwritten hcall
      -- the frames of the slot are among those the link adds, so they come to the bus as they are
      have hadded : ∀ g ∈ (st.client.toCanInterFace.onFrame (st.ms ahead .near) mem frame).2.frames,
          g.data.length = 8 := by
        intro g hg
        refine height g ?_
        simp only [CanSystem.next, sight, hframes, CanSystem.clientStep]
        exact List.mem_append_right _ hg
      have hwire := onBus_written hcall.isLinkFrame hadded
      have hemitted : messagesOf (st.client.onFrameReceived (st.ms ahead .near) mem
          (QCanBusFrame.ofCanFrame frame)).2.2 =
          (st.client.toCanInterFace.onFrame (st.ms ahead .near) mem frame).2.received.toList := by
        rw [CanInterFaceObject.onFrameReceived, if_pos ⟨h.client.device, hvalid⟩, hreceive]
        exact messagesOf_received _
      refine ⟨(st.client.toCanInterFace.onFrame (st.ms ahead .near) mem frame).2.received.toList, ?_, ?_⟩
      · simp only [LossyCan.next, hframes]
        exact congrArg (st.emitted ++ ·) hemitted
      · simp only [CanSystem.next, LossyCan.next, sight, hframes, CanSystem.clientStep, clientSends,
          hup.link, hwritten, hwire]

end

/-! ## Links at rest -/

/-- Neither link has anything to do, and nothing is on the way to the client. -/
structure Resting (st : LossyCan) (slink clink : IsoTpLink) : Prop where
  up : Up st slink clink
  serverSend : slink.send_status = .idle
  serverReceive : slink.receive_status = .idle
  clientSend : clink.send_status = .idle
  clientReceive : clink.receive_status = .idle
  toClient : st.toClient = []

section

variable {st st' : LossyCan} {slink clink slink' clink' : IsoTpLink} {ahead : WhichEnd → Nat}

theorem Up.server_eq (h : Up st slink clink) : st.server = ⟨true, some slink⟩ := by
  have hrunning := h.server.running
  have hlink := h.server.isLink
  rcases hserver : st.server with ⟨initialized, link⟩
  rw [hserver] at hrunning hlink
  simp only at hrunning hlink
  rw [hrunning, hlink]

/-- The same sight shows the same links. -/
theorem Up.links_eq (h : Up st slink clink) (h' : Up st' slink' clink')
    (hsame : sight st' [] = sight st []) : slink' = slink ∧ clink' = clink := by
  have hserver : st'.server = st.server := congrArg CanSystem.server hsame
  have hclient : st'.client.toCanInterFace = st.client.toCanInterFace :=
    congrArg CanSystem.client hsame
  rw [h.server_eq, h'.server_eq] at hserver
  rw [h.client.link, h'.client.link] at hclient
  exact ⟨Option.some.inj (congrArg CanWorkerServer.m_isoTpLink hserver),
    congrArg CanInterFace.m_iso_link hclient⟩

theorem Resting.idle (h : Resting st slink clink) :
    CanSystem.Idle { sight st [] with toServer := [] } slink clink where
  server := h.up.server_eq
  serverConfig := h.up.server.config
  serverSend := h.serverSend
  serverReceive := h.serverReceive
  client := h.up.client.link
  clientConfig := h.up.client.config
  clientSend := h.clientSend
  clientReceive := h.clientReceive
  clientBuffer := h.up.client.receiver.length.trans h.up.client.receive_buf_size
  toClient := h.toClient
  toServer := rfl
  emitted := rfl

/-- At rest the links do nothing but take what comes to the server. -/
theorem Resting.next_sight (h : Resting st slink clink) (mem : UDSMessage.Memory) {a : CanAction}
    (ha : ∀ ms, a ≠ .deliverToServer ms) : (sight st []).next mem a = sight st [] := by
  cases a with
  | serverPoll ms =>
      refine CanSystem.next_serverPoll_quiet mem ms h.up.server_eq (isotpPoll_quiet ?_ ?_)
      · exact fun hin => nomatch h.serverSend.symm.trans hin
      · exact fun hin => nomatch h.serverReceive.symm.trans hin
  | clientPoll ms =>
      refine CanSystem.next_clientPoll_waits mem ms h.up.client.link ?_ ?_ ?_
      · exact fun hin => nomatch h.clientSend.symm.trans hin
      · exact fun hin => nomatch h.clientReceive.symm.trans hin
      · exact fun hin => nomatch h.clientReceive.symm.trans hin
  | deliverToServer ms => exact absurd rfl (ha ms)
  | deliverToClient ms =>
      have hbus : (sight st []).toClient = [] := h.toClient
      simp only [CanSystem.next, hbus]

end

/-- The actions that do nothing to links at rest. -/
def Waits : LossyAction → Prop
  | .tick | .clientPoll _ | .serverPoll | .deliverToClient _ => True
  | .request _ | .respond _ | .deliverToServer _ | .loseToServer _ | .loseToClient _ => False

/-- The same to see, and the same messages. -/
structure Same (st st' : LossyCan) : Prop where
  sight : sight st' [] = sight st []
  requests : st'.requests = st.requests
  received : st'.received = st.received
  responses : st'.responses = st.responses
  emitted : st'.emitted = st.emitted

section

variable {st st' : LossyCan} {slink clink : IsoTpLink} {ahead : WhichEnd → Nat}

theorem Same.toServer (h : Same st st') : st'.toServer = st.toServer :=
  congrArg CanSystem.toServer h.sight

/-- No poll and no delivery to the client is a message for the server, or one of its own. -/
theorem messages_of_waits (ahead : WhichEnd → Nat) (st : LossyCan) {a : LossyAction} (ha : Waits a) :
    (st.next ahead a).requests = st.requests ∧ (st.next ahead a).received = st.received ∧
      (st.next ahead a).responses = st.responses := by
  cases a with
  | tick | clientPoll mem | serverPoll => exact ⟨rfl, rfl, rfl⟩
  | deliverToClient mem =>
      cases hbus : st.toClient with
      | nil => simp only [LossyCan.next, hbus, and_self]
      | cons frame rest =>
          simp only [LossyCan.next, hbus]
          exact ⟨rfl, rfl, rfl⟩
  | request msg | respond msg | deliverToServer mem | loseToServer i | loseToClient i => exact ha.elim

theorem Resting.same (h : Resting st slink clink) {a : LossyAction} (ha : Waits a)
    (height : ∀ frame ∈ st.toServer, frame.data.length = 8) : Same st (st.next ahead a) := by
  rcases messages_of_waits ahead st ha with ⟨hrequests, hreceived, hresponses⟩
  have hquiet := fun mem (b : CanAction) hb => h.next_sight mem (a := b) hb
  have hadds : ∀ mem (b : CanAction), (∀ ms, b ≠ .deliverToServer ms) →
      AddsEight (sight st []) mem b := by
    intro mem b hb frame hframe
    rw [hquiet mem b hb] at hframe
    exact height frame hframe
  -- what the client emits would be seen
  have hnone : ∀ {new : List UDSMessage}, sight st [] = sight (st.next ahead a) ([] ++ new) →
      (st.next ahead a).emitted = st.emitted ++ new →
      sight (st.next ahead a) [] = sight st [] ∧ (st.next ahead a).emitted = st.emitted := by
    intro new hsight hemitted
    have hnew : [] = new := congrArg CanSystem.emitted hsight
    rw [← hnew] at hsight hemitted
    exact ⟨hsight.symm, hemitted.trans (List.append_nil _)⟩
  cases a with
  | tick => exact ⟨rfl, rfl, rfl, rfl, rfl⟩
  | serverPoll =>
      have hsight := hquiet {} (.serverPoll (st.ms ahead .far)) fun _ heq => nomatch heq
      exact ⟨hsight, hrequests, hreceived, hresponses, rfl⟩
  | clientPoll mem =>
      have hne : ∀ ms, CanAction.clientPoll (st.ms ahead .near) ≠ .deliverToServer ms :=
        fun _ heq => nomatch heq
      rcases sight_clientPoll h.up (hadds mem _ hne) with ⟨new, hemitted, hsight⟩
      rw [hquiet mem _ hne] at hsight
      rcases hnone hsight hemitted with ⟨hsame, hno⟩
      exact ⟨hsame, hrequests, hreceived, hresponses, hno⟩
  | deliverToClient mem =>
      have hne : ∀ ms, CanAction.deliverToClient (st.ms ahead .near) ≠ .deliverToServer ms :=
        fun _ heq => nomatch heq
      have hempty : ∀ frame ∈ st.toClient,
          frame = frameOf CanId.udsResp frame.data ∧ frame.data.length = 8 := by
        rw [h.toClient]
        exact fun _ hmem => absurd hmem List.not_mem_nil
      rcases sight_deliverToClient h.up hempty (hadds mem _ hne) with ⟨new, hemitted, hsight⟩
      rw [hquiet mem _ hne] at hsight
      rcases hnone hsight hemitted with ⟨hsame, hno⟩
      exact ⟨hsame, hrequests, hreceived, hresponses, hno⟩
  | request msg | respond msg | deliverToServer mem | loseToServer i | loseToClient i => exact ha.elim

/-- Links that look the same are at rest as well. -/
theorem Resting.congr (h : Resting st slink clink) (hsame : sight st' [] = sight st [])
    (hup : ∃ slink' clink', Up st' slink' clink') : Resting st' slink clink := by
  rcases hup with ⟨slink', clink', hup⟩
  rcases h.up.links_eq hup hsame with ⟨rfl, rfl⟩
  exact {
    up := hup
    serverSend := h.serverSend
    serverReceive := h.serverReceive
    clientSend := h.clientSend
    clientReceive := h.clientReceive
    toClient := (congrArg CanSystem.toClient hsame).trans h.toClient }

/-! ## A request of one frame -/

theorem Resting.request (h : Resting st slink clink) (ahead : WhichEnd → Nat) (hbus : st.toServer = [])
    {msg : UDSMessage} (hshort : (serializeUDSMessage msg).length < 8) :
    ∃ clink', Resting (st.next ahead (.request msg)) slink clink' ∧
      (st.next ahead (.request msg)).toServer =
        [frameOf CanId.udsReq (singleFrame (serializeUDSMessage msg))] := by
  let raw := serializeUDSMessage msg
  let u : IsoTpUser := { ms := st.ms ahead .near }
  have hlink : st.client.m_iso_link = clink := congrArg CanInterFace.m_iso_link h.up.client.link
  have hwhole : raw.take (raw.length % 65536) = raw := by
    rw [Nat.mod_eq_of_lt (Nat.lt_trans hshort (by decide)), List.take_length]
  have hfits : raw.length ≤ clink.send_buf_size := by
    have hbuf : clink.send_buf_size = Client.isoTpBufferSize :=
      congrArg (fun c => c.2.1) h.up.client.config
    rw [hbuf]
    exact Nat.le_trans (Nat.le_of_lt hshort) (by decide)
  have hid : clink.send_arbitration_id = CanId.udsReq := congrArg Prod.fst h.up.client.config
  have hsend := isotpSend_single (u := u) rfl hfits
    (fun hin => nomatch h.clientSend.symm.trans hin) hshort
  -- the poll behind the send has nothing to do
  have hquiet : isotpPoll u (isotpSend u clink raw).link = ((isotpSend u clink raw).link, []) := by
    rw [hsend]
    refine isotpPoll_quiet ?_ ?_
    · exact fun hin => nomatch h.clientSend.symm.trans hin
    · exact fun hin => nomatch h.clientReceive.symm.trans hin
  have hcall : st.client.linkSend (st.ms ahead .near) raw =
      ((isotpSend u clink raw).link, [frameOf CanId.udsReq (singleFrame raw)]) := by
    rw [CanInterFaceObject.linkSend, hlink, hwhole]
    rw [hquiet, hsend, hid]
    rfl
  rcases h.up.client.sendUdsMessage (st.ms ahead .near) msg with ⟨hup, hwritten⟩
  rw [hcall] at hup hwritten
  have hlinkFrame : ∀ frame ∈ [frameOf CanId.udsReq (singleFrame raw)], IsLinkFrame frame := by
    intro frame hmem
    rw [List.mem_singleton.1 hmem]
    exact ⟨rfl, rfl⟩
  have height : ∀ frame ∈ [frameOf CanId.udsReq (singleFrame raw)], frame.data.length = 8 := by
    intro frame hmem
    rw [List.mem_singleton.1 hmem]
    exact length_singleFrame (Nat.le_of_lt_succ hshort)
  -- a frame of the link comes to the bus as it is
  have hframes := onBus_written hlinkFrame height
  have hsent : (isotpSend u clink raw).link.send_status = clink.send_status ∧
      (isotpSend u clink raw).link.receive_status = clink.receive_status := by
    rw [hsend]
    exact ⟨rfl, rfl⟩
  refine ⟨_, {
    up := ⟨h.up.server, hup⟩
    serverSend := h.serverSend
    serverReceive := h.serverReceive
    clientSend := hsent.1.trans h.clientSend
    clientReceive := hsent.2.trans h.clientReceive
    toClient := h.toClient }, ?_⟩
  change st.toServer ++ (st.client.sendUdsMessage (st.ms ahead .near) msg).2.map onBus = _
  rw [hwritten, hframes, hbus]
  rfl

/-- The server takes the request and passes it on. -/
theorem Resting.take (h : Resting st slink clink) (ahead : WhichEnd → Nat) {p : QByteArray}
    (hpos : 0 < p.length) (hshort : p.length < 8) (hbus : st.toServer = [frameOf CanId.udsReq (singleFrame p)])
    (mem : UDSMessage.Memory) :
    ∃ slink', Resting (st.next ahead (.deliverToServer mem)) slink' clink ∧
      (st.next ahead (.deliverToServer mem)).toServer = [] ∧
      (st.next ahead (.deliverToServer mem)).received = st.received ++ [serverDecode mem p] := by
  let u : IsoTpUser := { ms := st.ms ahead .far }
  let handled := (isotpOnCanMessage u slink (singleFrame p)).1
  rcases received_singleFrame u slink (Nat.le_of_lt_succ hshort) hpos with
    ⟨hreceived, hframes, hstatus⟩
  have hroom : p.length ≤ handled.receive_buf_size := by
    have hbuf := receive_buf_size_of_config (config_isotpOnCanMessage u slink (singleFrame p))
    rw [hbuf, h.up.server.receive_buf_size]
    exact Nat.le_trans (Nat.le_of_lt hshort) (by decide)
  have hfetch := hreceived.isotpReceive hroom
  have hid : ¬ (frameOf CanId.udsReq (singleFrame p)).id ≠ CanId.udsReq := not_not.2 rfl
  have hstep : st.server.onFrameReceived (st.ms ahead .far) mem
      (frameOf CanId.udsReq (singleFrame p)) =
      (⟨true, some { handled with receive_status := .idle }⟩,
        { frames := [], received := some (serverDecode mem p) }) := by
    rw [CanWorkerServer.onFrameReceived, h.up.server_eq]
    simp only
    rw [if_neg hid, bytes_frameOf _ (length_singleFrame (Nat.le_of_lt_succ hshort))]
    rw [hfetch, hframes]
    simp only [hpos, if_true]
    rfl
  have hnext : st.next ahead (.deliverToServer mem) =
      { st.serverSends ⟨true, some { handled with receive_status := .idle }⟩ [] with
        toServer := []
        toServerTimes := st.toServerTimes.tail
        received := st.received ++ [serverDecode mem p] } := by
    simp only [LossyCan.next, hbus, hstep]
    rfl
  -- the links of the next state are known twice: by the step and by the call
  rcases h.up.next ahead (.deliverToServer mem) with ⟨slink', clink', hup⟩
  have hserver := hup.server_eq
  have hclient := hup.client.link
  rw [hnext] at hserver hclient hup ⊢
  obtain rfl : _ = slink' := Option.some.inj (congrArg CanWorkerServer.m_isoTpLink hserver)
  obtain rfl : clink = clink' :=
    congrArg CanInterFace.m_iso_link (h.up.client.link.symm.trans hclient)
  refine ⟨_, {
    up := hup
    serverSend := hstatus.trans h.serverSend
    serverReceive := rfl
    clientSend := h.clientSend
    clientReceive := h.clientReceive
    toClient := ?_ }, rfl, rfl⟩
  change st.toClient ++ [] = []
  rw [List.append_nil]
  exact h.toClient

end

end LossyCan
end System
end TcpCanUds
