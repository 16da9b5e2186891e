import TcpCanUds.Core.IsoTpRecovery
import TcpCanUds.Server.CanWorkerServer
import TcpCanUds.Server.ResponseSize

/-!
# CanAvailability — the CAN tester gets its answers again

The UDS worker hands its responses to the CAN worker, which has one link for all of them: a response that
comes while another one is under way is dropped.  This module bounds how long that can last, whatever
frames are on the bus.  A call of `sendUdsMessage` is one step; `SendRace` cuts it.
-/

namespace TcpCanUds
namespace Server

open Lib IsoTp

/-! ## The CAN worker with its clock -/

structure CanDiagnosis where
  can : CanWorkerServer
  m_handler : SessionState := {}
  now : Nat
  /-- When `m_pollTimer` fired last. -/
  lastPoll : Nat
  deriving DecidableEq, Repr

inductive DiagnosisCall where
  | tick
  | pollTimeout
  | frameReceived (mem : UDSMessage.Memory) (frame : CanFrameData)
  /-- The UDS worker answers a request, and its response is sent. -/
  | canUdsMessage (i : UdsWorker.WorkerInput)
  deriving DecidableEq, Repr

namespace CanDiagnosis

def ms (st : CanDiagnosis) : UInt32 :=
  UInt32.ofNat st.now

/-- `onCanUdsMessageReceived`, and `sendUdsMessage` behind its signal. -/
def respond (st : CanDiagnosis) (i : UdsWorker.WorkerInput) : CanDiagnosis × CanWorkerOutput :=
  let r := UdsWorker.worker.step st.m_handler i
  match r.2 with
  | none => ({ st with m_handler := r.1 }, {})
  | some reply =>
      let sent := st.can.sendUdsMessage st.ms reply.response
      ({ st with m_handler := r.1, can := sent.1 }, sent.2)

def next (st : CanDiagnosis) : DiagnosisCall → CanDiagnosis
  | .tick => { st with now := st.now + 1 }
  | .pollTimeout => { st with can := (st.can.pollTimeout st.ms).1, lastPoll := st.now }
  | .frameReceived mem frame => { st with can := (st.can.onFrameReceived st.ms mem frame).1 }
  | .canUdsMessage i => (st.respond i).1

def init (buffers : IsoTpBuffers isoTpBufferSize) (start : Nat) : CanDiagnosis where
  can := CanWorkerServer.init buffers true
  now := start
  lastPoll := start

def diagnosis (buffers : IsoTpBuffers isoTpBufferSize) (start : Nat) :
    Machine CanDiagnosis DiagnosisCall Unit where
  init := init buffers start
  step st c := (st.next c, ())

/-- The link is polled at least every `gap` milliseconds, and no flow control frame for it has a status
that has no meaning. -/
def OnSchedule (gap : Nat) (st : CanDiagnosis) : DiagnosisCall → Prop
  | .tick => st.now < st.lastPoll + gap
  | .frameReceived _ frame => frame.id = CanId.udsReq → ¬ IsReserved frame.bytes
  | .pollTimeout | .canUdsMessage _ => True

instance (gap : Nat) (st : CanDiagnosis) (c : DiagnosisCall) : Decidable (st.OnSchedule gap c) :=
  match c with
  | .tick => inferInstanceAs (Decidable (st.now < st.lastPoll + gap))
  | .frameReceived _ frame =>
      inferInstanceAs (Decidable (frame.id = CanId.udsReq → ¬ IsReserved frame.bytes))
  | .pollTimeout | .canUdsMessage _ => isTrue trivial

/-- The most time that a response can take: it has a first frame and at most three more. -/
def longest (gap : Nat) : Nat :=
  4 * answerTime gap

/-! ## The invariant -/

/-- A response under way will have left the link by the time `T`. -/
structure Available (gap T : Nat) (st : CanDiagnosis) (link : IsoTpLink) : Prop where
  can : st.can = { m_initialized := true, m_isoTpLink := some link }
  send_buf_size : link.send_buf_size = isoTpBufferSize
  polled : st.lastPoll ≤ st.now
  scheduled : st.now ≤ st.lastPoll + gap
  waits : link.send_status = .inprogress → Waits gap T st.now st.lastPoll link

section

variable {gap T T' : Nat} {st : CanDiagnosis} {link : IsoTpLink}

theorem Available.later (h : Available gap T st link) (hT : T ≤ T') : Available gap T' st link :=
  { h with waits := fun hbusy => (h.waits hbusy).later (Nat.le_refl _) hT }

theorem available_init (buffers : IsoTpBuffers isoTpBufferSize) (start gap T : Nat) :
    Available gap T (init buffers start) (isotpInitLink CanId.udsResp buffers) where
  can := rfl
  send_buf_size := rfl
  polled := Nat.le_refl start
  scheduled := Nat.le_add_right start gap
  waits := fun hbusy => by cases hbusy

theorem Available.transmitting_iff (h : Available gap T st link) :
    st.can.Transmitting ↔ link.send_status = .inprogress := by
  rw [h.can]
  constructor
  · rintro ⟨link', hlink', hbusy⟩
    rwa [← Option.some.inj hlink'] at hbusy
  · exact fun hbusy => ⟨link, rfl, hbusy⟩

theorem Available.tick (h : Available gap T st link) (hon : st.OnSchedule gap .tick) :
    Available gap T (st.next .tick) link where
  can := h.can
  send_buf_size := h.send_buf_size
  polled := Nat.le_succ_of_le h.polled
  scheduled := hon
  waits := fun hbusy => (h.waits hbusy).later (Nat.le_succ _) (Nat.le_refl _)

theorem Available.pollTimeout (h : Available gap T st link) (hgap : gap < 2 ^ 29) :
    Available gap T (st.next .pollTimeout) (isotpPoll { ms := st.ms } link).1 where
  can := by simp only [next, h.can, CanWorkerServer.pollTimeout, if_true]
  send_buf_size := by
    have hconfig := config_isotpPoll { ms := st.ms } link
    simp only [config, Prod.mk.injEq] at hconfig
    exact hconfig.2.1.trans h.send_buf_size
  polled := Nat.le_refl st.now
  scheduled := Nat.le_add_right st.now gap
  waits := by
    intro hafter
    by_cases hbusy : link.send_status = .inprogress
    · exact (h.waits hbusy).poll hgap hbusy h.scheduled hafter
    · -- a poll begins nothing
      have hsame := congrArg SendSide.send_status (sendSide_isotpPoll_idle { ms := st.ms } link hbusy).1
      exact absurd (hsame.symm.trans hafter) hbusy

theorem Available.frameReceived (h : Available gap T st link) {mem : UDSMessage.Memory}
    {frame : CanFrameData} (hon : st.OnSchedule gap (.frameReceived mem frame)) :
    ∃ link', Available gap T (st.next (.frameReceived mem frame)) link' := by
  by_cases hid : frame.id = CanId.udsReq
  · let handled := (isotpOnCanMessage { ms := st.ms } link frame.bytes).1
    let received := (isotpReceive handled handled.receive_buf_size).2
    have hside : sendSide received = sendSide handled := sendSide_isotpReceive handled _
    have hconfig := (config_isotpReceive handled handled.receive_buf_size).trans
      (config_isotpOnCanMessage { ms := st.ms } link frame.bytes)
    simp only [config, Prod.mk.injEq] at hconfig
    refine ⟨received, ?_, hconfig.2.1.trans h.send_buf_size, h.polled, h.scheduled, fun hafter => ?_⟩
    · simp only [next, h.can, CanWorkerServer.onFrameReceived, if_neg (not_not.2 hid)]
      rfl
    · have hhandled : handled.send_status = .inprogress :=
        (congrArg SendSide.send_status hside).symm.trans hafter
      have hbusy : link.send_status = .inprogress := busy_of_onCanMessage hhandled
      exact ((h.waits hbusy).onCanMessage h.scheduled (hon hid) hhandled).congr hside
  · refine ⟨link, { h with can := ?_ }⟩
    simp only [next, h.can, CanWorkerServer.onFrameReceived, if_pos hid]

/-- What the UDS worker answers fits, and is begun exactly when nothing is under way. -/
theorem respond_eq (h : Available gap T st link) (i : UdsWorker.WorkerInput) :
    ∃ raw : QByteArray, raw.length ≤ 24 ∧
      (st.respond i).1 = { st with
        m_handler := (UdsWorker.worker.step st.m_handler i).1
        can := { m_initialized := true, m_isoTpLink := some (isotpSend { ms := st.ms } link raw).link } } ∧
      (st.respond i).2.frames = (isotpSend { ms := st.ms } link raw).frames ∧
      ((isotpSend { ms := st.ms } link raw).ret = .ok → (st.respond i).2.failed = none) := by
  rcases UdsWorker.worker_replies st.m_handler i with ⟨reply, hreply, -⟩
  have hlen := UdsWorker.length_response st.m_handler i hreply
  have hmod : (serializeUDSMessage reply.response).length % 65536 =
      (serializeUDSMessage reply.response).length :=
    Nat.mod_eq_of_lt (Nat.lt_of_le_of_lt hlen (by decide))
  have hsend := CanWorkerServer.sendUdsMessage_eq st.ms reply.response
    (congrArg CanWorkerServer.m_initialized h.can) (congrArg CanWorkerServer.m_isoTpLink h.can)
  rw [hmod, List.take_length, h.can] at hsend
  refine ⟨serializeUDSMessage reply.response, hlen, ?_, ?_, fun hok => ?_⟩
  · simp only [respond, hreply, h.can, hsend]
  · simp only [respond, hreply, h.can, hsend]
  · simp only [respond, hreply, h.can, hsend, hok, ne_eq, not_true_eq_false, false_and, if_false]

/-- With nothing under way any response is sent. -/
theorem Available.sends (h : Available gap T st link) (hfree : ¬ st.can.Transmitting)
    (i : UdsWorker.WorkerInput) :
    (st.respond i).2.frames ≠ [] ∧ (st.respond i).2.failed = none := by
  rcases respond_eq h i with ⟨raw, hlen, -, hframes, hfailed⟩
  have hidle : link.send_status ≠ .inprogress := mt h.transmitting_iff.2 hfree
  have hsize : raw.length ≤ link.send_buf_size := by
    rw [h.send_buf_size]
    exact hlen.trans (by decide)
  rw [hframes]
  exact ⟨(isotpSend_sends_iff { ms := st.ms } link rfl raw).2 ⟨hsize, hidle⟩,
    hfailed (isotpSend_ok rfl hsize hidle).1⟩

theorem Available.canUdsMessage (h : Available gap T st link)
    (hT : link.send_status ≠ .inprogress → st.now + longest gap ≤ T) (i : UdsWorker.WorkerInput) :
    ∃ link', Available gap T (st.next (.canUdsMessage i)) link' := by
  rcases respond_eq h i with ⟨raw, hlen, hnext, -, -⟩
  have hconfig := config_isotpSend { ms := st.ms } link raw
  simp only [config, Prod.mk.injEq] at hconfig
  refine ⟨(isotpSend { ms := st.ms } link raw).link, ?_⟩
  rw [next, hnext]
  refine ⟨rfl, hconfig.2.1.trans h.send_buf_size, h.polled, h.scheduled, fun hafter => ?_⟩
  by_cases hbusy : link.send_status = .inprogress
  · have hsize : raw.length ≤ link.send_buf_size := by
      rw [h.send_buf_size]
      exact hlen.trans (by decide)
    rw [isotpSend_inprogress hsize hbusy]
    exact h.waits hbusy
  · exact (waits_isotpSend hbusy hlen h.polled hafter).later (Nat.le_refl _) (hT hbusy)

theorem Available.next (h : Available gap T st link) (hgap : gap < 2 ^ 29)
    (hT : link.send_status ≠ .inprogress → st.now + longest gap ≤ T) {c : DiagnosisCall}
    (hon : st.OnSchedule gap c) : ∃ link', Available gap T (st.next c) link' := by
  cases c with
  | tick => exact ⟨link, h.tick hon⟩
  | pollTimeout => exact ⟨_, h.pollTimeout hgap⟩
  | frameReceived mem frame => exact h.frameReceived hon
  | canUdsMessage i => exact h.canUdsMessage hT i

theorem now_le_next (st : CanDiagnosis) (c : DiagnosisCall) : st.now ≤ (st.next c).now := by
  cases c with
  | tick => exact Nat.le_succ st.now
  | pollTimeout | frameReceived => exact Nat.le_refl st.now
  | canUdsMessage i =>
      rw [CanDiagnosis.next, respond]
      cases (UdsWorker.worker.step st.m_handler i).2 <;> exact Nat.le_refl st.now

end

/-! ## Whole runs -/

section

variable {gap : Nat} (buffers : IsoTpBuffers isoTpBufferSize) (start : Nat)

/-- At every moment of a run the time left is the longest that a response can take. -/
theorem available_after (hgap : gap < 2 ^ 29) {run : List DiagnosisCall}
    (hon : (diagnosis buffers start).Along (OnSchedule gap) (init buffers start) run) :
    ∃ link, Available gap (((diagnosis buffers start).after run).now + longest gap)
      ((diagnosis buffers start).after run) link := by
  refine (diagnosis buffers start).exec_invariant_along
    (I := fun st => ∃ link, Available gap (st.now + longest gap) st link) ?_ ?_ hon
  · rintro st c ⟨link, h⟩ hc
    rcases h.next hgap (fun _ => Nat.le_refl _) hc with ⟨link', h'⟩
    exact ⟨link', h'.later (Nat.add_le_add_right (now_le_next st c) _)⟩
  · exact ⟨_, available_init buffers start gap _⟩

/-- Whatever frames are on the bus, within the longest time that a response can take there is a moment
at which the response to any request would be sent. -/
theorem answers_again (hgap : gap < 2 ^ 29) {before during : List DiagnosisCall}
    (hon : (diagnosis buffers start).Along (OnSchedule gap) (init buffers start) (before ++ during))
    (hlong : ((diagnosis buffers start).after before).now + longest gap <
      ((diagnosis buffers start).after (before ++ during)).now) :
    ∃ js, js <+: during ∧ ∀ i,
      let sent := (((diagnosis buffers start).after (before ++ js)).respond i).2
      sent.frames ≠ [] ∧ sent.failed = none := by
  have hbefore := hon.left
  rcases available_after buffers start hgap hbefore with ⟨link, h⟩
  have hduring := hon.right
  -- while a response is under way its time stands
  have hstep : ∀ st c, (∃ link, Available gap (((diagnosis buffers start).after before).now + longest gap)
      st link) → st.can.Transmitting → st.OnSchedule gap c →
        ∃ link, Available gap (((diagnosis buffers start).after before).now + longest gap)
          ((diagnosis buffers start).step st c).1 link := by
    rintro st c ⟨link, h⟩ hbusy hc
    exact h.next hgap (fun hidle => absurd (h.transmitting_iff.1 hbusy) hidle) hc
  -- either it ends before, or the time is not over
  have hfree : ∃ js, js <+: during ∧
      ¬ ((diagnosis buffers start).after (before ++ js)).can.Transmitting := by
    simp only [← Machine.exec_after] at hlong ⊢
    rcases Machine.Along.exists_prefix_or (B := fun st => st.can.Transmitting) _ hstep ⟨link, h⟩ hduring
      with hprefix | ⟨link', h'⟩
    · exact hprefix
    · refine ⟨during, List.prefix_rfl, fun hbusy => ?_⟩
      have hle := (h'.waits (h'.transmitting_iff.1 hbusy)).le h'.scheduled
      exact absurd hlong (Nat.not_lt.2 hle)
  rcases hfree with ⟨js, ⟨rest, rfl⟩, hfree⟩
  rw [← List.append_assoc] at hon
  rcases available_after buffers start hgap hon.left with ⟨link', h'⟩
  exact ⟨js, List.prefix_append _ _, h'.sends hfree⟩

/-- Nothing happens for `n` milliseconds but the polls. -/
def quiet : Nat → List DiagnosisCall
  | 0 => []
  | n + 1 => .tick :: .pollTimeout :: quiet n

theorem along_quiet (n : Nat) {st : CanDiagnosis} (h : st.now = st.lastPoll) :
    (diagnosis buffers start).Along (OnSchedule 1) st (quiet n) ∧
      ((diagnosis buffers start).exec st (quiet n)).now = st.now + n := by
  induction n generalizing st with
  | zero => exact ⟨trivial, rfl⟩
  | succ n ih =>
      have htick : st.OnSchedule 1 .tick := Nat.lt_succ_of_le (Nat.le_of_eq h)
      have hpolled : ((st.next .tick).next .pollTimeout).now =
          ((st.next .tick).next .pollTimeout).lastPoll := rfl
      rcases ih hpolled with ⟨halong, hnow⟩
      refine ⟨⟨htick, trivial, halong⟩, hnow.trans ?_⟩
      change st.now + 1 + n = st.now + (n + 1)
      omega

end

/-- The CAN tester unlocks the server and reads the part number; nobody takes the response. -/
def unlockAndRead : List DiagnosisCall :=
  let request (raw : QByteArray) : DiagnosisCall :=
    .canUdsMessage { source := .can, env := { digest := 1 }, msg := deserializeUDSMessage {} raw }
  [request [0x27, 0x01], request [0x27, 0x02, 0x01, 0xEF, 0xCD, 0xAB], request [0x10, 0x03],
    request [0x22, 0x00, 0x87, 0xF1]]

theorem answers_again_unlockAndRead :
    let m := diagnosis (IsoTpBuffers.zero isoTpBufferSize) 0
    (m.after unlockAndRead).can.m_isoTpLink.map IsoTpLink.send_status = some .inprogress ∧
      ∃ js, js <+: quiet 1000 ∧ ∀ i,
        let sent := ((m.after (unlockAndRead ++ js)).respond i).2
        sent.frames ≠ [] ∧ sent.failed = none := by
  intro m
  have hbusy : (m.after unlockAndRead).can.m_isoTpLink.map IsoTpLink.send_status = some .inprogress := by
    decide +kernel
  have hclock : (m.after unlockAndRead).now = 0 ∧ (m.after unlockAndRead).lastPoll = 0 := by
    decide +kernel
  rcases along_quiet (IsoTpBuffers.zero isoTpBufferSize) 0 1000 (hclock.1.trans hclock.2.symm) with
    ⟨hquiet, hnow⟩
  have hon : m.Along (OnSchedule 1) (init (IsoTpBuffers.zero isoTpBufferSize) 0)
      (unlockAndRead ++ quiet 1000) :=
    m.along_append.2 ⟨⟨trivial, trivial, trivial, trivial, trivial⟩, hquiet⟩
  refine ⟨hbusy, answers_again (IsoTpBuffers.zero isoTpBufferSize) 0 (by decide) hon ?_⟩
  rw [← m.exec_after, hnow, hclock.1]
  decide

end CanDiagnosis
end Server
end TcpCanUds
