import TcpCanUds.System.CanSystem

/-!
# CanDelivery — a response from the server's CAN worker to the client

Polls and deliveries come in any order; no timer expires.  What is on the bus and in the links is told
by three numbers: consecutive frames sent, frames taken by the client, grants taken by the server.
-/

namespace TcpCanUds
namespace System

open Lib IsoTp Server Client

namespace CanSystem

/-! ## A message of one frame -/

/-- What stays the same while the client takes frames. -/
structure ClientReady (clink : IsoTpLink) : Prop where
  config :
    config clink = (CanId.udsReq, Client.isoTpBufferSize, CanId.udsResp, Client.isoTpBufferSize)
  send : clink.send_status = .idle

theorem ClientReady.send_ne {clink : IsoTpLink} (h : ClientReady clink) :
    clink.send_status ≠ .inprogress := by
  rw [h.send]
  exact fun heq => IsoTpSendStatus.noConfusion heq

theorem ClientReady.receiveId {clink : IsoTpLink} (h : ClientReady clink) :
    clink.receive_arbitration_id = CanId.udsResp :=
  congrArg (fun c => c.2.2.1) h.config

theorem ClientReady.sendId {clink : IsoTpLink} (h : ClientReady clink) :
    clink.send_arbitration_id = CanId.udsReq :=
  congrArg (fun c => c.1) h.config

/-- The frame is on the bus, or the message is emitted. -/
structure SingleDelivery (mem : UDSMessage.Memory) (p : QByteArray) (st : CanSystem)
    (slink clink : IsoTpLink) : Prop where
  server : st.server = ⟨true, some slink⟩
  serverSend : slink.send_status = .idle
  serverReceive : slink.receive_status = .idle
  client : st.client = ⟨clink⟩
  clientReady : ClientReady clink
  clientReceive : clink.receive_status = .idle
  toServer : st.toServer = []
  delivery : (st.toClient = [{ id := CanId.udsResp, data := singleFrame p, len := 8 }] ∧
      st.emitted = []) ∨
    (st.toClient = [] ∧ st.emitted = [Client.deserializeUDSMessage mem p])

section

variable {mem : UDSMessage.Memory} {p : QByteArray} {st : CanSystem} {slink clink : IsoTpLink}

theorem SingleDelivery.idle (h : SingleDelivery mem p st slink clink) :
    ∃ link ∈ st.server.m_isoTpLink, link.send_status = .idle :=
  ⟨slink, by rw [h.server]; rfl, h.serverSend⟩

/-- The client takes the frame. -/
theorem SingleDelivery.take (hshort : p.length ≤ 7) (hpos : 0 < p.length)
    (h : SingleDelivery mem p st slink clink)
    (hbus : st.toClient = [{ id := CanId.udsResp, data := singleFrame p, len := 8 }])
    (hemitted : st.emitted = []) (ms : UInt32) :
    (∃ clink', SingleDelivery mem p (st.next mem (.deliverToClient ms)) slink clink') ∧
      (st.next mem (.deliverToClient ms)).toClient = [] := by
  rcases received_singleFrame { ms := ms } clink hshort hpos with
    ⟨hreceived, hframes, hstatus⟩
  have hsend : (isotpOnCanMessage { ms := ms } clink (singleFrame p)).1.send_status = .idle :=
    hstatus.trans h.clientReady.send
  rw [next_deliverToClient_emits mem ms h.client h.clientReady.receiveId hbus
    (length_singleFrame hshort) (Prod.ext rfl hframes)
    (by rw [hsend]; exact fun heq => IsoTpSendStatus.noConfusion heq) hreceived hpos
    (Nat.le_trans hshort (by decide)), hemitted]
  refine ⟨⟨_, h.server, h.serverSend, h.serverReceive, rfl, ⟨?_, hsend⟩, rfl, h.toServer,
    Or.inr ⟨rfl, rfl⟩⟩, rfl⟩
  exact (config_isotpOnCanMessage _ _ _).trans h.clientReady.config

theorem SingleDelivery.next (hshort : p.length ≤ 7) (hpos : 0 < p.length)
    (h : SingleDelivery mem p st slink clink) (a : CanAction) :
    ∃ clink', SingleDelivery mem p (st.next mem a) slink clink' := by
  cases a with
  | serverPoll ms =>
      have hquiet : isotpPoll { ms := ms } slink = (slink, []) := by
        refine isotpPoll_quiet (fun hin => ?_) (fun hin => ?_)
        · cases h.serverSend.symm.trans hin
        · cases h.serverReceive.symm.trans hin
      rw [next_serverPoll_quiet mem ms h.server hquiet]
      exact ⟨clink, h⟩
  | clientPoll ms =>
      rw [next_clientPoll_waits mem ms h.client h.clientReady.send_ne
        (fun hin => by cases h.clientReceive.symm.trans hin)
        (fun hin => by cases h.clientReceive.symm.trans hin)]
      exact ⟨clink, h⟩
  | deliverToServer ms =>
      simp only [CanSystem.next, h.toServer]
      exact ⟨clink, h⟩
  | deliverToClient ms =>
      rcases h.delivery with ⟨hbus, hemitted⟩ | ⟨hbus, hemitted⟩
      · exact (h.take hshort hpos hbus hemitted ms).1
      · simp only [CanSystem.next, hbus]
        exact ⟨clink, h⟩

end

/-! ## A message of several frames -/

/-- The `d`-th frame of the message, the first frame being the zeroth. -/
def messageFrame (p : QByteArray) : Nat → CanFrameData
  | 0 => { id := CanId.udsResp, data := firstFrame p, len := 8 }
  | n + 1 => { id := CanId.udsResp, data := consecutiveFrame p n, len := 8 }

/-- The frames from the `d`-th on that are on the bus when `n` consecutive frames were sent. -/
def framesOnBus (p : QByteArray) (n d : Nat) : List CanFrameData :=
  (List.range' d (n + 1 - d)).map (messageFrame p)

/-- How many flow control frames the client has sent behind `d` frames. -/
def grantsGiven (p : QByteArray) (d : Nat) : Nat :=
  -- one for the first frame; the last frame brings none
  if d = 0 then 0 else min (d - 1) (consecutiveCount p - 1) / 8 + 1

def flowControl : CanFrameData where
  id := CanId.udsReq
  data := continueFrame
  len := 8

/-- The client's link behind `d` frames. -/
inductive Taking (p : QByteArray) (d : Nat) (clink : IsoTpLink) : Prop where
  | waiting (hd : d = 0) (hstatus : clink.receive_status = .idle)
      (hroom : clink.receive_buffer.length = Client.isoTpBufferSize) : Taking p d clink
  | taking (n : Nat) (hd : d = n + 1) (hn : n < consecutiveCount p) (h : Receives p n clink) :
      Taking p d clink
  | done (hd : d = consecutiveCount p + 1) (hstatus : clink.receive_status = .idle)
      (hresult : clink.receive_protocol_result ≠ .timeoutCr) : Taking p d clink

/-- `n` consecutive frames sent, `d` frames taken by the client, `c` grants taken by the server. -/
structure Delivery (mem : UDSMessage.Memory) (p : QByteArray) (n d c : Nat) (st : CanSystem)
    (slink clink : IsoTpLink) : Prop where
  server : st.server = ⟨true, some slink⟩
  serverId : slink.send_arbitration_id = CanId.udsResp
  serverReceive : slink.receive_status = .idle
  sends : Sends p n c slink
  sent_le : n ≤ consecutiveCount p
  client : st.client = ⟨clink⟩
  clientReady : ClientReady clink
  taking : Taking p d clink
  taken_le : d ≤ n + 1
  toClient : st.toClient = framesOnBus p n d
  toServer : st.toServer = List.replicate (grantsGiven p d - c) flowControl
  grants_le : c ≤ grantsGiven p d
  emitted : st.emitted =
    if d = consecutiveCount p + 1 then [Client.deserializeUDSMessage mem p] else []

section

variable {p : QByteArray} {n d c : Nat}

theorem framesOnBus_snoc (h : d ≤ n + 1) :
    framesOnBus p (n + 1) d = framesOnBus p n d ++ [messageFrame p (n + 1)] := by
  rw [framesOnBus, framesOnBus, show n + 1 + 1 - d = n + 1 - d + 1 by omega, List.range'_concat,
    List.map_append, List.map_singleton]
  congr 3
  omega

theorem framesOnBus_cons (h : d < n + 1) :
    framesOnBus p n d = messageFrame p d :: framesOnBus p n (d + 1) := by
  rw [framesOnBus, framesOnBus, show n + 1 - d = n + 1 - (d + 1) + 1 by omega, List.range'_succ,
    List.map_cons]

theorem framesOnBus_self : framesOnBus p n (n + 1) = [] := by
  rw [framesOnBus, Nat.sub_self]
  rfl

theorem framesOnBus_eq_nil_iff (h : d ≤ n + 1) : framesOnBus p n d = [] ↔ d = n + 1 := by
  rw [framesOnBus, List.map_eq_nil_iff, List.range'_eq_nil_iff]
  omega

/-- The client grants a block with the first frame and behind every eighth consecutive one but the
last. -/
theorem grantsGiven_succ (h : n + 1 < consecutiveCount p) :
    grantsGiven p (n + 2) = grantsGiven p (n + 1) + if (n + 1) % 8 = 0 then 1 else 0 := by
  rw [grantsGiven, grantsGiven, if_neg (by omega), if_neg (by omega)]
  split_ifs with hblock <;> omega

theorem grantsGiven_last (h : n + 1 = consecutiveCount p) :
    grantsGiven p (n + 2) = grantsGiven p (n + 1) := by
  rw [grantsGiven, grantsGiven, if_neg (by omega), if_neg (by omega)]
  omega

theorem grantsGiven_le_succ : grantsGiven p d ≤ grantsGiven p (d + 1) := by
  rw [grantsGiven, grantsGiven, if_neg (Nat.succ_ne_zero d)]
  split_ifs <;> omega

/-- A flow control frame under way finds the server in progress and its last block used up. -/
theorem grant_in_turn (hn : n ≤ 8 * c) (hd : d ≤ n + 1) (hle : n ≤ consecutiveCount p)
    (hpos : 0 < consecutiveCount p) (h : c < grantsGiven p d) :
    n < consecutiveCount p ∧ n = 8 * c := by
  rw [grantsGiven] at h
  split_ifs at h with hzero
  · omega
  · omega

end

/-! ### What each action keeps -/

section

variable {mem : UDSMessage.Memory} {p : QByteArray} {n d c : Nat} {st : CanSystem}
  {slink clink : IsoTpLink}

theorem Delivery.sent_le_grants (h : Delivery mem p n d c st slink clink) : n ≤ 8 * c := by
  have hgrants := h.sends.grants
  omega

theorem Delivery.serverTimer (h : Delivery mem p n d c st slink clink) (ms : UInt32) :
    slink.receive_status = .inprogress → isoTpTimeAfter ms slink.receive_timer_cr = false :=
  fun hin => by cases h.serverReceive.symm.trans hin

theorem Delivery.length_toClient (h : Delivery mem p n d c st slink clink) :
    st.toClient.length = n + 1 - d := by
  rw [h.toClient, framesOnBus, List.length_map, List.length_range']

theorem Delivery.length_toServer (h : Delivery mem p n d c st slink clink) :
    st.toServer.length = grantsGiven p d - c := by
  rw [h.toServer, List.length_replicate]

theorem Delivery.noTimeout (h : Delivery mem p n d c st slink clink) (hd : 0 < d) :
    clink.receive_protocol_result ≠ .timeoutCr := by
  cases h.taking with
  | waiting hzero => omega
  | taking _ _ _ hreceives => exact hreceives.noTimeout
  | done _ _ hresult => exact hresult

/-- A poll with a grant sends the next frame. -/
theorem Delivery.sendNext (h : Delivery mem p n d c st slink clink) (hn : n < consecutiveCount p)
    (hc : n < 8 * c) (ms : UInt32) :
    ∃ slink', Delivery mem p (n + 1) d c (st.next mem (.serverPoll ms)) slink' clink ∧
      slink'.send_timer_bs = ms + isoTpDefaultResponseTimeout := by
  rcases h.sends.poll (u := { ms := ms }) rfl hn hc (h.serverTimer ms) with
    ⟨hnext, hframes, hstatus, htimer⟩
  have hconfig := config_isotpPoll { ms := ms } slink
  rw [next_serverPoll mem ms h.server, hframes]
  refine ⟨(isotpPoll { ms := ms } slink).1,
    { server := rfl
      serverId := (congrArg (fun c => c.1) hconfig).trans h.serverId
      serverReceive := hstatus.trans h.serverReceive
      sends := hnext
      sent_le := hn
      client := h.client
      clientReady := h.clientReady
      taking := h.taking
      taken_le := Nat.le_succ_of_le h.taken_le
      toClient := ?_
      toServer := h.toServer
      grants_le := h.grants_le
      emitted := h.emitted }, htimer⟩
  rw [framesOnBus_snoc h.taken_le, ← h.toClient, h.serverId]
  rfl

/-- Any other poll changes nothing. -/
theorem Delivery.serverPoll_quiet (h : Delivery mem p n d c st slink clink)
    (hsends : ¬ (n < consecutiveCount p ∧ n < 8 * c)) (ms : UInt32)
    (htimer : st.TimersHold (.serverPoll ms)) : st.next mem (.serverPoll ms) = st := by
  refine next_serverPoll_quiet mem ms h.server (isotpPoll_quiet (fun hin => ?_) (h.serverTimer ms))
  -- in progress, the link waits for a grant
  have hmay : ¬ MaySend { ms := ms } slink := by
    rw [h.sends.maySend_iff]
    exact fun hc => hsends ⟨h.sends.inprogress_iff.1 hin, hc⟩
  refine ⟨hmay, htimer slink ?_ hin hmay⟩
  rw [h.server]
  rfl

theorem Delivery.clientPoll (h : Delivery mem p n d c st slink clink) (ms : UInt32)
    (htimer : st.TimersHold (.clientPoll ms)) : st.next mem (.clientPoll ms) = st := by
  -- a whole message is taken out of the link with its last frame
  have hfull : clink.receive_status ≠ .full := by
    intro hfull
    cases h.taking with
    | waiting _ hstatus => cases hstatus.symm.trans hfull
    | taking _ _ _ hreceives => cases hreceives.status.symm.trans hfull
    | done _ hstatus => cases hstatus.symm.trans hfull
  have hlink : st.client.m_iso_link = clink := by rw [h.client]
  exact next_clientPoll_waits mem ms h.client h.clientReady.send_ne hfull (hlink ▸ htimer)

/-- The server takes the next grant. -/
theorem Delivery.takeGrant (hpos : 0 < consecutiveCount p)
    (h : Delivery mem p n d c st slink clink) (hgrant : c < grantsGiven p d) (ms : UInt32) :
    ∃ slink', Delivery mem p n d (c + 1) (st.next mem (.deliverToServer ms)) slink' clink := by
  rcases grant_in_turn h.sent_le_grants h.taken_le h.sent_le hpos hgrant with ⟨hn, hc⟩
  rcases h.sends.grant (u := { ms := ms }) hn hc with ⟨link', hframe, hsends, hstatus⟩
  -- flow control leaves the receiving half alone, so the worker hands nothing up
  have hreceive : isotpReceive link' link'.receive_buf_size = (none, link') := by
    rw [isotpReceive, if_pos]
    rw [hstatus, h.serverReceive]
    exact fun heq => IsoTpReceiveStatus.noConfusion heq
  have hbus : st.toServer =
      flowControl :: List.replicate (grantsGiven p d - (c + 1)) flowControl := by
    rw [h.toServer, show grantsGiven p d - c = grantsGiven p d - (c + 1) + 1 by omega,
      List.replicate_succ]
  have hbytes : flowControl.bytes = continueFrame := bytes_of_eight _ rfl
  have hid : ¬ flowControl.id ≠ CanId.udsReq := not_not.2 rfl
  have hnext : st.next mem (.deliverToServer ms) =
      { st with
        server := ⟨true, some link'⟩
        toServer := List.replicate (grantsGiven p d - (c + 1)) flowControl } := by
    simp only [CanSystem.next, hbus, CanWorkerServer.onFrameReceived, h.server, if_neg hid, hbytes,
      hframe, hreceive, List.append_nil]
  have hconfig := config_isotpOnCanMessage { ms := ms } slink continueFrame
  rw [hframe] at hconfig
  rw [hnext]
  exact ⟨link',
    { server := rfl
      serverId := (congrArg (fun c => c.1) hconfig).trans h.serverId
      serverReceive := hstatus.trans h.serverReceive
      sends := hsends
      sent_le := h.sent_le
      client := h.client
      clientReady := h.clientReady
      taking := h.taking
      taken_le := h.taken_le
      toClient := h.toClient
      toServer := rfl
      grants_le := hgrant
      emitted := h.emitted }⟩

theorem Delivery.toServer_nil (h : Delivery mem p n d c st slink clink)
    (hgrant : ¬ c < grantsGiven p d) : st.toServer = [] := by
  rw [h.toServer, Nat.sub_eq_zero_of_le (Nat.le_of_not_lt hgrant)]
  rfl

/-- The client takes the first frame and grants the first block. -/
theorem Delivery.takeFirst (hlong : 8 ≤ p.length) (hsize : p.length ≤ Client.isoTpBufferSize)
    (h : Delivery mem p n 0 c st slink clink)
    (hroom : clink.receive_buffer.length = Client.isoTpBufferSize) (ms : UInt32) :
    ∃ clink', Delivery mem p n 1 c (st.next mem (.deliverToClient ms)) slink clink' ∧
      clink'.receive_timer_cr = ms + isoTpDefaultResponseTimeout := by
  have hbus := h.toClient.trans (framesOnBus_cons (Nat.succ_pos n))
  have hbuf : clink.receive_buf_size = Client.isoTpBufferSize :=
    congrArg (fun c => c.2.2.2) h.clientReady.config
  rcases receives_firstFrame { ms := ms } clink rfl hlong (hbuf ▸ hsize)
    (Nat.lt_of_le_of_lt hsize (by decide)) (hroom ▸ hsize) with ⟨hreceives, hframes, hsend, htimer⟩
  have hconfig := config_isotpOnCanMessage { ms := ms } clink (firstFrame p)
  generalize hframe : isotpOnCanMessage { ms := ms } clink (firstFrame p) = handled at *
  rcases handled with ⟨clink', frames⟩
  have hready : ClientReady clink' :=
    ⟨hconfig.trans h.clientReady.config, hsend.trans h.clientReady.send⟩
  rw [next_deliverToClient_waits mem ms h.client h.clientReady.receiveId hbus
    (length_firstFrame (by omega)) hframe hready.send_ne
    (fun hfull => by cases hreceives.status.symm.trans hfull) htimer]
  -- nothing was granted before the first frame
  have hgiven : grantsGiven p 1 = 1 := by
    rw [grantsGiven, if_neg (by decide)]
    omega
  have hc : c = 0 := Nat.le_zero.1 h.grants_le
  refine ⟨clink',
    { server := h.server
      serverId := h.serverId
      serverReceive := h.serverReceive
      sends := h.sends
      sent_le := h.sent_le
      client := rfl
      clientReady := hready
      taking := .taking 0 rfl (by rw [consecutiveCount]; omega) hreceives
      taken_le := Nat.succ_pos n
      toClient := rfl
      toServer := ?_
      grants_le := by omega
      emitted := ?_ }, htimer⟩
  · change st.toServer ++ frames = _
    rw [h.toServer, hc, hgiven, show frames = _ from hframes, h.clientReady.sendId]
    rfl
  · change st.emitted = _
    rw [h.emitted, if_neg (by omega), if_neg (by rw [consecutiveCount]; omega)]

/-- The client takes a consecutive frame, and grants another block behind every eighth. -/
theorem Delivery.takeNext (h : Delivery mem p n (d + 1) c st slink clink) (hd : d + 1 < n + 1)
    (hreceives : Receives p d clink) (hmore : d + 1 < consecutiveCount p) (ms : UInt32) :
    ∃ clink', Delivery mem p n (d + 2) c (st.next mem (.deliverToClient ms)) slink clink' ∧
      clink'.receive_timer_cr = ms + isoTpDefaultResponseTimeout := by
  have hbus := h.toClient.trans (framesOnBus_cons hd)
  rcases hreceives.consecutive (u := { ms := ms }) rfl hmore with
    ⟨hreceives', hframes, hsend, htimer⟩
  have hconfig := config_isotpOnCanMessage { ms := ms } clink (consecutiveFrame p d)
  generalize hframe : isotpOnCanMessage { ms := ms } clink (consecutiveFrame p d) = handled at *
  rcases handled with ⟨clink', frames⟩
  have hready : ClientReady clink' :=
    ⟨hconfig.trans h.clientReady.config, hsend.trans h.clientReady.send⟩
  -- the message is not complete, so the slot of the client does nothing beyond the link
  rw [next_deliverToClient_waits mem ms h.client h.clientReady.receiveId hbus
    (length_consecutiveFrame p d) hframe hready.send_ne
    (fun hfull => by cases hreceives'.status.symm.trans hfull) htimer]
  have hgiven := grantsGiven_succ hmore
  have hle := h.grants_le
  refine ⟨clink',
    { server := h.server
      serverId := h.serverId
      serverReceive := h.serverReceive
      sends := h.sends
      sent_le := h.sent_le
      client := rfl
      clientReady := hready
      taking := .taking (d + 1) rfl hmore hreceives'
      taken_le := hd
      toClient := rfl
      toServer := ?_
      grants_le := by omega
      emitted := ?_ }, htimer⟩
  · -- another grant behind every eighth frame
    change st.toServer ++ frames = _
    rw [h.toServer, show frames = _ from hframes, h.clientReady.sendId, hgiven]
    split_ifs
    · rw [Nat.sub_add_comm hle, List.replicate_succ']
      rfl
    · rw [List.append_nil]
      rfl
  · change st.emitted = _
    rw [h.emitted, if_neg (by omega), if_neg (by omega)]

/-- The last consecutive frame completes the message. -/
theorem Delivery.takeLast (hlong : 8 ≤ p.length) (hsize : p.length ≤ Client.isoTpBufferSize)
    (h : Delivery mem p n (d + 1) c st slink clink) (hd : d + 1 < n + 1)
    (hreceives : Receives p d clink) (hend : d + 1 = consecutiveCount p) (ms : UInt32) :
    ∃ clink', Delivery mem p n (d + 2) c (st.next mem (.deliverToClient ms)) slink clink' := by
  have hbus := h.toClient.trans (framesOnBus_cons hd)
  rcases hreceives.last (u := { ms := ms }) hend with ⟨hreceived, hframes, hsend⟩
  have hconfig := config_isotpOnCanMessage { ms := ms } clink (consecutiveFrame p d)
  generalize hframe : isotpOnCanMessage { ms := ms } clink (consecutiveFrame p d) = handled at *
  rcases handled with ⟨clink', frames⟩
  obtain rfl : frames = [] := hframes
  have hready : ClientReady clink' :=
    ⟨hconfig.trans h.clientReady.config, hsend.trans h.clientReady.send⟩
  rw [next_deliverToClient_emits mem ms h.client h.clientReady.receiveId hbus
    (length_consecutiveFrame p d) hframe hready.send_ne hreceived (by omega) hsize]
  refine ⟨{ clink' with receive_status := .idle },
    { server := h.server
      serverId := h.serverId
      serverReceive := h.serverReceive
      sends := h.sends
      sent_le := h.sent_le
      client := rfl
      clientReady := ⟨hready.config, hready.send⟩
      taking := .done (by rw [← hend]) rfl hreceived.noTimeout
      taken_le := hd
      toClient := rfl
      toServer := by rw [grantsGiven_last hend]; exact h.toServer
      grants_le := by rw [grantsGiven_last hend]; exact h.grants_le
      emitted := ?_ }⟩
  change st.emitted ++ _ = _
  rw [h.emitted, if_neg (by omega), if_pos (by rw [← hend]), List.nil_append]

/-- The client takes the next frame on the bus. -/
theorem Delivery.takeFrame (hlong : 8 ≤ p.length) (hsize : p.length ≤ Client.isoTpBufferSize)
    (h : Delivery mem p n d c st slink clink) (hd : d < n + 1) (ms : UInt32) :
    ∃ clink', Delivery mem p n (d + 1) c (st.next mem (.deliverToClient ms)) slink clink' ∧
      (d < consecutiveCount p → clink'.receive_timer_cr = ms + isoTpDefaultResponseTimeout) := by
  cases h.taking with
  | waiting hzero hstatus hroom =>
      subst hzero
      rcases h.takeFirst hlong hsize hroom ms with ⟨clink', h', htimer⟩
      exact ⟨clink', h', fun _ => htimer⟩
  | taking k hk hlt hreceives =>
      subst hk
      by_cases hend : k + 1 = consecutiveCount p
      · rcases h.takeLast hlong hsize hd hreceives hend ms with ⟨clink', h'⟩
        exact ⟨clink', h', fun hlast => absurd hend (Nat.ne_of_lt hlast)⟩
      · rcases h.takeNext hd hreceives (Nat.lt_of_le_of_ne hlt hend) ms with ⟨clink', h', htimer⟩
        exact ⟨clink', h', fun _ => htimer⟩
  | done hall =>
      -- nothing more is sent
      have hle := h.sent_le
      omega

theorem Delivery.toClient_nil (h : Delivery mem p n d c st slink clink) (hd : ¬ d < n + 1) :
    st.toClient = [] := by
  rw [h.toClient, Nat.le_antisymm h.taken_le (Nat.le_of_not_lt hd), framesOnBus_self]

theorem Delivery.completed_iff (h : Delivery mem p n d c st slink clink) :
    Completed st ↔ d = consecutiveCount p + 1 ∧ st.toServer = [] := by
  have hle := h.sent_le
  have htaken := h.taken_le
  have hidle : (∃ link ∈ st.server.m_isoTpLink, link.send_status = .idle) ↔
      n = consecutiveCount p := by
    have hstatus := h.sends.status
    simp only [h.server, Option.mem_some_iff, exists_eq_left', hstatus]
    split_ifs with hlt
    · exact iff_of_false id (Nat.ne_of_lt hlt)
    · exact iff_of_true rfl (by omega)
  rw [Completed, hidle, h.toClient, framesOnBus_eq_nil_iff htaken]
  constructor
  · rintro ⟨hn, hd, hserver⟩
    exact ⟨by omega, hserver⟩
  · rintro ⟨hd, hserver⟩
    exact ⟨by omega, by omega, hserver⟩

end

/-! ## Whole runs -/

/-- The state of a delivery, whatever the length of the message. -/
def Underway (mem : UDSMessage.Memory) (p : QByteArray) (st : CanSystem) : Prop :=
  if p.length < 8 then ∃ slink clink, SingleDelivery mem p st slink clink
  else ∃ n d c slink clink, Delivery mem p n d c st slink clink

section

variable {mem : UDSMessage.Memory} {p : QByteArray} {st : CanSystem} {slink clink : IsoTpLink}

/-- The worker hands the whole serialized message to its link. -/
theorem Idle.send_eq (h : Idle st slink clink) {msg : UDSMessage}
    (hsize : (serializeUDSMessage msg).length ≤ Client.isoTpBufferSize) (ms : UInt32) :
    st.send ms msg =
      { st with
        server := ⟨true, some (isotpSend { ms := ms } slink (serializeUDSMessage msg)).link⟩
        toClient := (isotpSend { ms := ms } slink (serializeUDSMessage msg)).frames } := by
  have hmod : (serializeUDSMessage msg).length % 65536 = (serializeUDSMessage msg).length :=
    Nat.mod_eq_of_lt (Nat.lt_of_le_of_lt hsize (by decide))
  have hsend := CanWorkerServer.sendUdsMessage_eq ms msg (w := st.server) (by rw [h.server])
    (by rw [h.server])
  rw [hmod, List.take_length] at hsend
  rw [send, hsend, h.server, h.toClient]
  rfl

theorem Idle.fits (h : Idle st slink clink)
    (hsize : p.length ≤ Client.isoTpBufferSize) : p.length ≤ slink.send_buf_size := by
  have hbuf : slink.send_buf_size = Server.isoTpBufferSize :=
    congrArg (fun c => c.2.1) h.serverConfig
  rw [hbuf]
  exact Nat.le_trans hsize (by decide)

theorem Idle.sendId (h : Idle st slink clink) : slink.send_arbitration_id = CanId.udsResp :=
  congrArg (fun c => c.1) h.serverConfig

theorem Idle.send_ne (h : Idle st slink clink) : slink.send_status ≠ .inprogress := by
  rw [h.serverSend]
  exact fun heq => IsoTpSendStatus.noConfusion heq

theorem singleDelivery_send (h : Idle st slink clink) {msg : UDSMessage}
    (hshort : (serializeUDSMessage msg).length < 8) (ms : UInt32) :
    ∃ slink', SingleDelivery mem (serializeUDSMessage msg) (st.send ms msg) slink' clink := by
  have hsize : (serializeUDSMessage msg).length ≤ Client.isoTpBufferSize :=
    Nat.le_trans (Nat.le_of_lt hshort) (by decide)
  rw [h.send_eq hsize, isotpSend_single rfl (h.fits hsize) h.send_ne hshort, h.sendId]
  exact ⟨_,
    { server := rfl
      serverSend := h.serverSend
      serverReceive := h.serverReceive
      client := h.client
      clientReady := ⟨h.clientConfig, h.clientSend⟩
      clientReceive := h.clientReceive
      toServer := h.toServer
      delivery := Or.inl ⟨rfl, h.emitted⟩ }⟩

theorem delivery_send (mem : UDSMessage.Memory) (h : Idle st slink clink) {msg : UDSMessage}
    (hlong : 8 ≤ (serializeUDSMessage msg).length)
    (hsize : (serializeUDSMessage msg).length ≤ Client.isoTpBufferSize) (ms : UInt32) :
    ∃ slink', Delivery mem (serializeUDSMessage msg) 0 0 0 (st.send ms msg) slink' clink ∧
      slink'.send_timer_bs = ms + isoTpDefaultResponseTimeout := by
  rw [h.send_eq hsize, isotpSend_first rfl (h.fits hsize) h.send_ne hlong, h.sendId]
  refine ⟨_,
    { server := rfl
      serverId := h.sendId
      serverReceive := h.serverReceive
      sends := sends_started _ _ hlong
      sent_le := Nat.zero_le _
      client := h.client
      clientReady := ⟨h.clientConfig, h.clientSend⟩
      taking := .waiting rfl h.clientReceive h.clientBuffer
      taken_le := Nat.zero_le _
      toClient := rfl
      toServer := h.toServer
      grants_le := Nat.zero_le _
      emitted := ?_ }, rfl⟩
  rw [if_neg (Nat.succ_ne_zero _).symm]
  exact h.emitted

theorem underway_send (h : Idle st slink clink) {msg : UDSMessage}
    (hsize : (serializeUDSMessage msg).length ≤ Client.isoTpBufferSize) (ms : UInt32) :
    Underway mem (serializeUDSMessage msg) (st.send ms msg) := by
  by_cases hshort : (serializeUDSMessage msg).length < 8
  · rw [Underway, if_pos hshort]
    rcases singleDelivery_send h hshort ms with ⟨slink', hsent⟩
    exact ⟨slink', clink, hsent⟩
  · rw [Underway, if_neg hshort]
    rcases delivery_send mem h (Nat.le_of_not_lt hshort) hsize ms with ⟨slink', hsent, -⟩
    exact ⟨0, 0, 0, slink', clink, hsent⟩

theorem Underway.next (hpos : 0 < p.length) (hsize : p.length ≤ Client.isoTpBufferSize)
    (h : Underway mem p st) (a : CanAction) (htimers : st.TimersHold a) :
    Underway mem p (st.next mem a) := by
  by_cases hshort : p.length < 8
  · rw [Underway, if_pos hshort] at h ⊢
    rcases h with ⟨slink, clink, h⟩
    exact ⟨slink, h.next (Nat.le_of_lt_succ hshort) hpos a⟩
  · rw [Underway, if_neg hshort] at h ⊢
    rcases h with ⟨n, d, c, slink, clink, h⟩
    have hlong : 8 ≤ p.length := Nat.le_of_not_lt hshort
    -- each action that finds something to do moves one of the three counters by one
    cases a with
    | serverPoll ms =>
        by_cases hsends : n < consecutiveCount p ∧ n < 8 * c
        · rcases h.sendNext hsends.1 hsends.2 ms with ⟨slink', h', -⟩
          exact ⟨n + 1, d, c, slink', clink, h'⟩
        · rw [h.serverPoll_quiet hsends ms htimers]
          exact ⟨n, d, c, slink, clink, h⟩
    | clientPoll ms =>
        rw [h.clientPoll ms htimers]
        exact ⟨n, d, c, slink, clink, h⟩
    | deliverToServer ms =>
        by_cases hgrant : c < grantsGiven p d
        · rcases h.takeGrant (by rw [consecutiveCount]; omega) hgrant ms with ⟨slink', h'⟩
          exact ⟨n, d, c + 1, slink', clink, h'⟩
        · simp only [CanSystem.next, h.toServer_nil hgrant]
          exact ⟨n, d, c, slink, clink, h⟩
    | deliverToClient ms =>
        by_cases hd : d < n + 1
        · rcases h.takeFrame hlong hsize hd ms with ⟨clink', h', -⟩
          exact ⟨n, d + 1, c, slink, clink', h'⟩
        · simp only [CanSystem.next, h.toClient_nil hd]
          exact ⟨n, d, c, slink, clink, h⟩

theorem Underway.emitted (h : Underway mem p st) (hdone : Completed st) :
    st.emitted = [Client.deserializeUDSMessage mem p] := by
  by_cases hshort : p.length < 8
  · rw [Underway, if_pos hshort] at h
    rcases h with ⟨slink, clink, h⟩
    rcases h.delivery with ⟨hbus, -⟩ | ⟨-, hemitted⟩
    · cases hbus.symm.trans hdone.2.1
    · exact hemitted
  · rw [Underway, if_neg hshort] at h
    rcases h with ⟨n, d, c, slink, clink, h⟩
    rw [h.emitted, if_pos (h.completed_iff.1 hdone).1]

/-- No count goes beyond the number of frames. -/
theorem Delivery.counts_le {n d c : Nat} (hpos : 0 < consecutiveCount p)
    (h : Delivery mem p n d c st slink clink) : n + d + c ≤ 3 * consecutiveCount p + 1 := by
  have hgrants : grantsGiven p d ≤ consecutiveCount p := by
    rw [grantsGiven]
    split_ifs <;> omega
  have hsent := h.sent_le
  have htaken := h.taken_le
  have hgranted := h.grants_le
  omega

/-- While the message is under way some frame is to be sent or taken, and none is twice. -/
theorem Delivery.progress {n d c : Nat} (hlong : 8 ≤ p.length)
    (hsize : p.length ≤ Client.isoTpBufferSize) (h : Delivery mem p n d c st slink clink)
    (hdone : ¬ Completed st) (far near : UInt32) :
    ∃ a, (st.TimersHold a ∧ a.At far near) ∧ ∃ n' d' c' slink' clink',
      Delivery mem p n' d' c' (st.next mem a) slink' clink' ∧ n' + d' + c' = n + d + c + 1 := by
  have hsent := h.sent_le
  have htaken := h.taken_le
  have hpos : 0 < consecutiveCount p := by
    rw [consecutiveCount]
    omega
  -- the client takes what is there, then the server takes the grants, then it sends
  by_cases hd : d < n + 1
  · rcases h.takeFrame hlong hsize hd near with ⟨clink', h', -⟩
    exact ⟨.deliverToClient near, ⟨trivial, rfl⟩, n, d + 1, c, slink, clink', h', by omega⟩
  · by_cases hgrant : c < grantsGiven p d
    · rcases h.takeGrant hpos hgrant far with ⟨slink', h'⟩
      exact ⟨.deliverToServer far, ⟨trivial, rfl⟩, n, d, c + 1, slink', clink, h', by omega⟩
    · have hgranted : c = grantsGiven p d := Nat.le_antisymm h.grants_le (Nat.le_of_not_lt hgrant)
      -- with both directions empty, the message is not completed because frames are to be sent
      have hn : n < consecutiveCount p := by
        by_contra hn
        exact hdone (h.completed_iff.2 ⟨by omega, h.toServer_nil hgrant⟩)
      have hc : n < 8 * c := by
        rw [hgranted, grantsGiven, if_neg (by omega)]
        omega
      rcases h.sendNext hn hc far with ⟨slink', h', -⟩
      refine ⟨.serverPoll far, ⟨?_, rfl⟩, n + 1, d, c, slink', clink, h', by omega⟩
      intro link hlink _ hmay
      rw [h.server] at hlink
      obtain rfl := Option.mem_some_iff.1 hlink
      exact absurd ((h.sends.maySend_iff).2 hc) hmay

/-- Every message under way can be completed, at any clock values. -/
theorem Underway.exists_completion (hpos : 0 < p.length) (hsize : p.length ≤ Client.isoTpBufferSize)
    (h : Underway mem p st) (far near : UInt32) :
    ∃ run, (canMachine mem st).Along (fun s a => s.TimersHold a ∧ a.At far near) st run ∧
      Completed ((canMachine mem st).exec st run) := by
  by_cases hshort : p.length < 8
  · rw [Underway, if_pos hshort] at h
    rcases h with ⟨slink, clink, h⟩
    rcases h.delivery with ⟨hbus, hemitted⟩ | ⟨hbus, -⟩
    · rcases h.take (Nat.le_of_lt_succ hshort) hpos hbus hemitted near with ⟨⟨clink', h'⟩, hempty⟩
      exact ⟨[.deliverToClient near], ⟨⟨trivial, rfl⟩, trivial⟩, h'.idle, hempty, h'.toServer⟩
    · exact ⟨[], trivial, h.idle, hbus, h.toServer⟩
  · rw [Underway, if_neg hshort] at h
    rcases h with ⟨n, d, c, slink, clink, h⟩
    have hlong : 8 ≤ p.length := Nat.le_of_not_lt hshort
    have hcount : 0 < consecutiveCount p := by
      rw [consecutiveCount]
      omega
    have hle := h.counts_le hcount
    -- the rank is what the three counts leave of their bound
    refine (canMachine mem st).exists_run_along (I := fun k s => ∃ n d c slink clink,
      Delivery mem p n d c s slink clink ∧ k + (n + d + c) = 3 * consecutiveCount p + 1) ?_
      (k := 3 * consecutiveCount p + 1 - (n + d + c)) ⟨n, d, c, slink, clink, h, by omega⟩
    rintro k s ⟨n, d, c, slink, clink, h, hk⟩ hdone
    rcases h.progress hlong hsize hdone far near with ⟨a, ha, n', d', c', slink', clink', h', hsum⟩
    have hle' := h'.counts_le hcount
    exact ⟨a, ha, k - 1, by omega, n', d', c', slink', clink', h', by omega⟩

end

/-- Once a message sent on idle links has been sent and has arrived, the client has emitted it, once
and decoded from exactly its bytes. -/
theorem emitted_of_completed (mem : UDSMessage.Memory) {st : CanSystem} {slink clink : IsoTpLink}
    (hidle : Idle st slink clink) {msg : UDSMessage}
    (hsize : (serializeUDSMessage msg).length ≤ Client.isoTpBufferSize) (ms : UInt32)
    {run : List CanAction}
    (htimers : (canMachine mem (st.send ms msg)).Along TimersHold (st.send ms msg) run)
    (hdone : Completed ((canMachine mem (st.send ms msg)).after run)) :
    ((canMachine mem (st.send ms msg)).after run).emitted =
      [Client.deserializeUDSMessage mem (serializeUDSMessage msg)] := by
  have hpos : 0 < (serializeUDSMessage msg).length := by simp
  have hunderway := (canMachine mem (st.send ms msg)).exec_invariant_along
    (I := Underway mem (serializeUDSMessage msg))
    (fun s a hs ha => hs.next hpos hsize a ha) (underway_send hidle hsize ms) htimers
  exact hunderway.emitted hdone

/-- First frame, flow control, one consecutive frame. -/
theorem longResponse_emitted :
    let mem : UDSMessage.Memory := {}
    let st := init (IsoTpBuffers.zero _) (IsoTpBuffers.zero _)
    let sent := st.send 0 CanWorkerServer.longResponse
    let run := [.deliverToClient 0, .deliverToServer 0, .serverPoll 0, .deliverToClient 0]
    ((canMachine mem sent).after run).emitted =
      [Client.deserializeUDSMessage mem (serializeUDSMessage CanWorkerServer.longResponse)] :=
  emitted_of_completed {} (idle_init (IsoTpBuffers.zero _) (IsoTpBuffers.zero _)) (by decide) 0
    (by decide +kernel) (by decide +kernel)

end CanSystem
end System
end TcpCanUds
