import TcpCanUds.Server.CanWorkerServer

/-!
# SendRace — `isotp_send` in the main thread against the CAN thread

`CanServer::sendCanResponse` runs in the main thread and works on the link that the CAN thread polls
and feeds with frames.  `isotp_send` hands the first frame to the bus before it sets the link up for
the rest of the message, so the receiver's flow control can come in between; it is then thrown away,
and the set-up waits for one that will not come.
-/

namespace TcpCanUds
namespace Server

open Lib IsoTp

/-- Where the main thread stands in `isotp_send_with_id`. -/
inductive MainThread where
  | eventLoop
  /-- behind the status test and the copy of a message that needs several frames -/
  | copied
  /-- behind the first frame -/
  | handed
  deriving DecidableEq, Repr

structure SendRace where
  worker : CanWorkerServer
  main : MainThread
  deriving DecidableEq, Repr

inductive SendStep where
  /-- `sendUdsMessage` up to the first frame of the message, the whole call when one frame is enough -/
  | sendUdsMessage (ms : UInt32) (msg : UDSMessage)
  | handFirstFrame (ms : UInt32)
  | initFlags (ms : UInt32)
  | frameReceived (ms : UInt32) (mem : UDSMessage.Memory) (frame : CanFrameData)
  | pollTimeout (ms : UInt32)
  deriving DecidableEq, Repr

namespace SendRace

/-! ## The steps of the main thread -/

/-- The test of the status and, for a message of several frames, the copy. -/
def beginSend (s : SendRace) (ms : UInt32) (msg : UDSMessage) : SendRace × CanWorkerOutput :=
  match s.worker.m_isoTpLink with
  | none => (s, {})
  | some link =>
      let payload := (serializeUDSMessage msg).take ((serializeUDSMessage msg).length % 65536)
      if s.worker.m_initialized = true ∧ payload.length ≤ link.send_buf_size ∧
          link.send_status ≠ .inprogress ∧ 8 ≤ payload.length then
        ({ worker :=
            { s.worker with
              m_isoTpLink := some
                { link with
                  send_size := payload.length
                  send_offset := 0
                  send_buffer := link.send_buffer.write 0 payload } }
           main := .copied },
          {})
      else
        -- one frame, or refused: nothing happens behind the hand-over
        let sent := s.worker.sendUdsMessage ms msg
        ({ s with worker := sent.1 }, sent.2)

/-- `isotp_send_first_frame` -/
def handFirstFrame (s : SendRace) (ms : UInt32) : SendRace × CanWorkerOutput :=
  match s.worker.m_isoTpLink with
  | none => (s, {})
  | some link =>
      let first := isotpSendFirstFrame { ms := ms } link link.send_arbitration_id
      ({ worker := { s.worker with m_isoTpLink := some first.link }
         main := if first.ret = .ok then .handed else .eventLoop },
        { frames := first.frames, failed := if first.ret = .ok then none else some first.ret })

/-- The multi-frame control flags. -/
def initFlags (s : SendRace) (ms : UInt32) : SendRace × CanWorkerOutput :=
  match s.worker.m_isoTpLink with
  | none => (s, {})
  | some link =>
      ({ worker :=
          { s.worker with
            m_isoTpLink := some
              { link with
                send_bs_remain := 0
                send_st_min := 0
                send_wtf_count := 0
                send_timer_st := ms
                send_timer_bs := ms + isoTpDefaultResponseTimeout
                send_protocol_result := .ok
                send_status := .inprogress } }
         main := .eventLoop },
        {})

/-- The main thread goes on only where it stands; the CAN thread comes in anywhere. -/
def step (s : SendRace) : SendStep → SendRace × CanWorkerOutput
  | .sendUdsMessage ms msg => if s.main = .eventLoop then s.beginSend ms msg else (s, {})
  | .handFirstFrame ms => if s.main = .copied then s.handFirstFrame ms else (s, {})
  | .initFlags ms => if s.main = .handed then s.initFlags ms else (s, {})
  | .frameReceived ms mem frame =>
      let r := s.worker.onFrameReceived ms mem frame
      ({ s with worker := r.1 }, r.2)
  | .pollTimeout ms =>
      let r := s.worker.pollTimeout ms
      ({ s with worker := r.1 }, r.2)

def machine (buffers : IsoTpBuffers isoTpBufferSize) : Machine SendRace SendStep CanWorkerOutput where
  init := ⟨CanWorkerServer.init buffers true, .eventLoop⟩
  step := step

section

variable (buffers : IsoTpBuffers isoTpBufferSize)

/-- With nothing in between the three steps are one call of `sendUdsMessage`. -/
theorem exec_sendUdsMessage (w : CanWorkerServer) (ms : UInt32) (msg : UDSMessage) :
    (machine buffers).exec ⟨w, .eventLoop⟩
        [.sendUdsMessage ms msg, .handFirstFrame ms, .initFlags ms] =
      ⟨(w.sendUdsMessage ms msg).1, .eventLoop⟩ := by
  change ((((beginSend ⟨w, .eventLoop⟩ ms msg).1.step (.handFirstFrame ms)).1.step
    (.initFlags ms))).1 = _
  cases hlink : w.m_isoTpLink with
  | none =>
      have hnone : w.sendUdsMessage ms msg = (w, {}) := by
        simp only [CanWorkerServer.sendUdsMessage, hlink, ite_self]
      simp only [beginSend, hlink, hnone]
      rfl
  | some link =>
      simp only [beginSend, hlink]
      split_ifs with h
      · rcases h with ⟨hinit, hsize, hstatus, hlong⟩
        rw [CanWorkerServer.sendUdsMessage_eq ms msg hinit hlink,
          isotpSend_first rfl hsize hstatus hlong]
        rfl
      · rfl

/-! ## The worker keeps its link -/

theorem isSome_link_step {s : SendRace} (h : s.worker.m_isoTpLink.isSome = true) (i : SendStep) :
    (s.step i).1.worker.m_isoTpLink.isSome = true := by
  rcases Option.isSome_iff_exists.1 h with ⟨link, hlink⟩
  cases i with
  | sendUdsMessage ms msg =>
      simp only [step, beginSend, CanWorkerServer.sendUdsMessage, hlink]
      split_ifs <;> first | rfl | exact h
  | handFirstFrame ms =>
      simp only [step, handFirstFrame, hlink]
      split_ifs <;> first | rfl | exact h
  | initFlags ms =>
      simp only [step, initFlags, hlink]
      split_ifs <;> first | rfl | exact h
  | frameReceived ms mem frame =>
      simp only [step, CanWorkerServer.onFrameReceived, hlink]
      split_ifs <;> first | rfl | exact h
  | pollTimeout ms =>
      simp only [step, CanWorkerServer.pollTimeout, hlink]
      split_ifs <;> first | rfl | exact h

theorem isSome_link_after (run : List SendStep) :
    ((machine buffers).after run).worker.m_isoTpLink.isSome = true :=
  (machine buffers).after_invariant (I := fun s => s.worker.m_isoTpLink.isSome = true) rfl
    (fun _ i h => isSome_link_step h i) run

/-! ## Where the flow control lands -/

/-- Both the frame's handling and the send are finished behind the steps `later`. -/
def Finishes (s : SendRace) (later : List SendStep) : Prop :=
  match s.main with
  | .eventLoop => later = []
  | .copied => False
  | .handed => ∃ between ms, later = between ++ [.initFlags ms] ∧ ∀ ms', .initFlags ms' ∉ between

/-- The transfer goes on with the block that the frame grants. -/
def Proceeds (s : SendRace) (data : QByteArray) : Prop :=
  ∃ link ∈ s.worker.m_isoTpLink,
    link.send_bs_remain = grantedBlockSize data ∧ link.send_status = .inprogress

theorem exec_handed {s : SendRace} (h : s.main = .handed) {between : List SendStep}
    (hno : ∀ ms, .initFlags ms ∉ between) : ((machine buffers).exec s between).main = .handed := by
  induction between generalizing s with
  | nil => exact h
  | cons i between ih =>
      refine ih ?_ fun ms hmem => hno ms (List.mem_cons_of_mem _ hmem)
      cases i with
      | sendUdsMessage ms msg => simp only [machine, step, h, reduceCtorEq, if_false]
      | handFirstFrame ms => simp only [machine, step, h, reduceCtorEq, if_false]
      | initFlags ms => exact absurd (List.mem_cons_self) (hno ms)
      | frameReceived ms mem frame => exact h
      | pollTimeout ms => exact h

/-- The set-up of the flags throws every grant away. -/
theorem not_proceeds_initFlags {s : SendRace} (h : s.main = .handed) (ms : UInt32)
    (data : QByteArray) : ¬ Proceeds (s.step (.initFlags ms)).1 data := by
  rintro ⟨link, hlink, hgrant, hstatus⟩
  rw [step, if_pos h, initFlags] at hlink
  cases hold : s.worker.m_isoTpLink with
  | none =>
      rw [hold] at hlink
      simp only [hold] at hlink
      cases hlink
  | some old =>
      simp only [hold] at hlink
      rcases Option.some.inj hlink with rfl
      exact grantedBlockSize_ne_zero data hgrant.symm

/-- Behind the set-up the grant is taken exactly when the transfer is still in progress. -/
theorem proceeds_frameReceived {s : SendRace} (hlink : s.worker.m_isoTpLink.isSome = true)
    (ms : UInt32) (mem : UDSMessage.Memory) {frame : CanFrameData} (hid : frame.id = CanId.udsReq)
    (hframe : IsContinueToSend frame.bytes) :
    Proceeds (s.step (.frameReceived ms mem frame)).1 frame.bytes ↔ s.worker.Transmitting := by
  rcases Option.isSome_iff_exists.1 hlink with ⟨link, hlink⟩
  have hnext : (s.step (.frameReceived ms mem frame)).1.worker.m_isoTpLink =
      some (isotpReceive
        (if link.send_status = .inprogress then granted { ms := ms } link frame.bytes else link)
        (if link.send_status = .inprogress then granted { ms := ms } link frame.bytes
          else link).receive_buf_size).2 := by
    simp only [step, CanWorkerServer.onFrameReceived, hlink, hid, ne_eq, not_true_eq_false, if_false,
      isotpOnCanMessage_continue _ _ hframe]
  have htransmitting : s.worker.Transmitting ↔ link.send_status = .inprogress := by
    simp [CanWorkerServer.Transmitting, hlink]
  rw [htransmitting, Proceeds, hnext]
  by_cases hstatus : link.send_status = .inprogress
  · refine iff_of_true ⟨_, rfl, ?_⟩ hstatus
    rw [(isotpReceive_send _ _).1, (isotpReceive_send _ _).2, if_pos hstatus]
    exact ⟨rfl, hstatus⟩
  · refine iff_of_false ?_ hstatus
    rintro ⟨_, hreceived, -, hinprogress⟩
    rw [← Option.some.inj hreceived, (isotpReceive_send _ _).1, if_neg hstatus] at hinprogress
    exact hstatus hinprogress

/-- The transfer goes on with the granted block exactly when the flow control is handled behind the
set-up of the flags and in time. -/
theorem proceeds_iff (before : List SendStep) (ms : UInt32) (mem : UDSMessage.Memory)
    {frame : CanFrameData} (hid : frame.id = CanId.udsReq) (hframe : IsContinueToSend frame.bytes)
    {later : List SendStep} (hlater : Finishes ((machine buffers).after before) later) :
    Proceeds ((machine buffers).after (before ++ .frameReceived ms mem frame :: later)) frame.bytes ↔
      ((machine buffers).after before).main = .eventLoop ∧
        ((machine buffers).after before).worker.Transmitting := by
  have hlink := isSome_link_after buffers before
  rw [← Machine.exec_after]
  generalize (machine buffers).after before = s at hlink hlater ⊢
  have hmain : (s.step (.frameReceived ms mem frame)).1.main = s.main := rfl
  cases hwhere : s.main with
  | eventLoop =>
      rw [Finishes, hwhere] at hlater
      subst hlater
      exact (proceeds_frameReceived hlink ms mem hid hframe).trans (by simp)
  | copied =>
      rw [Finishes, hwhere] at hlater
      exact hlater.elim
  | handed =>
      -- the set-up of the flags comes last, whatever the frame did
      rw [Finishes, hwhere] at hlater
      rcases hlater with ⟨between, ms', rfl, hno⟩
      refine iff_of_false ?_ fun h => MainThread.noConfusion h.1
      rw [Machine.exec, Machine.exec_append]
      exact not_proceeds_initFlags (exec_handed buffers (hmain.trans hwhere) hno) ms' _

end

/-- The client's flow control: eight frames, no waiting in between. -/
def clientFlowControl : CanFrameData where
  id := CanId.udsReq
  data := [0x30, 0x08, 0x00, 0x00, 0x00, 0x00, 0x00, 0x00]
  len := 8

theorem isContinueToSend_clientFlowControl : IsContinueToSend clientFlowControl.bytes :=
  ⟨by decide, by decide, by decide, by decide⟩

/-- The flow control that comes behind the set-up of the flags is taken. -/
theorem flow_control_after_flags :
    Proceeds
      ((machine (IsoTpBuffers.zero isoTpBufferSize)).after
        ([.sendUdsMessage 0 CanWorkerServer.longResponse, .handFirstFrame 0, .initFlags 0] ++
          .frameReceived 2 {} clientFlowControl :: [])) clientFlowControl.bytes := by
  have hsent := exec_sendUdsMessage (IsoTpBuffers.zero isoTpBufferSize)
    (CanWorkerServer.init (IsoTpBuffers.zero isoTpBufferSize) true) 0 CanWorkerServer.longResponse
  have hafter := congrArg (fun s : SendRace => s.worker.Transmitting) hsent
  refine (proceeds_iff _ _ 2 {} rfl isContinueToSend_clientFlowControl ?_).2 ⟨?_, ?_⟩
  · exact (congrArg (fun s : SendRace => Finishes s []) hsent).mpr rfl
  · exact congrArg SendRace.main hsent
  · exact hafter.mpr (CanWorkerServer.transmitting_sendUdsMessage _ 0 (by decide) (by decide))

/-- The flow control that comes before it is lost. -/
theorem flow_control_before_flags :
    ¬ Proceeds
      ((machine (IsoTpBuffers.zero isoTpBufferSize)).after
        ([.sendUdsMessage 0 CanWorkerServer.longResponse, .handFirstFrame 0] ++
          .frameReceived 2 {} clientFlowControl :: [.initFlags 2])) clientFlowControl.bytes := by
  refine not_proceeds_initFlags (s := (machine _).after
    [.sendUdsMessage 0 CanWorkerServer.longResponse, .handFirstFrame 0,
      .frameReceived 2 {} clientFlowControl]) ?_ 2 _
  decide +kernel

end SendRace
end Server
end TcpCanUds
