import TcpCanUds.Server.CanWorkerServer

/-!
# SendReports — what becomes of a response handed to the CAN worker

A response is on the bus, or under way in the link, or its failure is reported.  The calls where
neither is true are the ones that meet a transmission in progress, and those whose size the cast to
sixteen bits cuts down to one that fits.
-/

namespace TcpCanUds
namespace Server

open Lib IsoTp

namespace CanWorkerServer

/-! ## The condition -/

/-- The whole message is on the bus in one frame, or its first frame is and the link keeps it to send
the rest. -/
def OnItsWay (raw : QByteArray) (w : CanWorkerServer) (frames : List CanFrameData) : Prop :=
  (raw.length < 8 ∧ frames.map CanFrameData.data = [singleFrame raw]) ∨
    (frames.map CanFrameData.data = [firstFrame raw] ∧ ∃ link, w.m_isoTpLink = some link ∧
      link.send_status = .inprogress ∧ link.send_size = raw.length ∧
      link.send_buffer.take link.send_size = raw)

/-- The call has put the message on its way or reported its failure. -/
def Accounted (w : CanWorkerServer) (ms : UInt32) (msg : UDSMessage) : Prop :=
  (w.sendUdsMessage ms msg).2.failed ≠ none ∨
    OnItsWay (serializeUDSMessage msg) (w.sendUdsMessage ms msg).1 (w.sendUdsMessage ms msg).2.frames

/-- No call of the run returns with its message neither on its way nor reported. -/
def NoSilentDrop (buffers : IsoTpBuffers isoTpBufferSize) (run : List CanWorkerInput) : Prop :=
  ∀ before ms msg later, run = before ++ .sendUdsMessage ms msg :: later →
    Accounted ((worker buffers).after before) ms msg

/-- The size the library sees is too large for its buffer, or it is the real one and no transmission is
in progress. -/
def HeardOf (w : CanWorkerServer) : CanWorkerInput → Prop
  | .sendUdsMessage _ msg =>
      isoTpBufferSize < (serializeUDSMessage msg).length % 65536 ∨
        (serializeUDSMessage msg).length < 65536 ∧ ¬ w.Transmitting
  | .frameReceived _ _ _ | .pollTimeout _ => True

/-! ## The link of a running worker -/

/-- The worker is initialised and its link has the buffers of `init`. -/
def Running (w : CanWorkerServer) : Prop :=
  w.m_initialized = true ∧ ∃ link, w.m_isoTpLink = some link ∧
    config link = (CanId.udsResp, isoTpBufferSize, 0, isoTpBufferSize)

theorem running_init (buffers : IsoTpBuffers isoTpBufferSize) : Running (init buffers true) :=
  ⟨rfl, _, rfl, rfl⟩

theorem running_step {buffers : IsoTpBuffers isoTpBufferSize} {w : CanWorkerServer}
    (h : Running w) (i : CanWorkerInput) : Running ((worker buffers).step w i).1 := by
  rcases h with ⟨hinit, link, hlink, hconfig⟩
  cases i with
  | sendUdsMessage ms msg =>
      simp only [worker, sendUdsMessage, hinit, hlink, not_true_eq_false, if_false]
      exact ⟨rfl, _, rfl, (config_isotpSend _ _ _).trans hconfig⟩
  | frameReceived ms mem frame =>
      simp only [worker, onFrameReceived, hlink]
      split_ifs
      · exact ⟨hinit, link, hlink, hconfig⟩
      · refine ⟨hinit, _, rfl, ?_⟩
        rw [config_isotpReceive, config_isotpOnCanMessage, hconfig]
  | pollTimeout ms =>
      simp only [worker, pollTimeout, hinit, hlink, if_true]
      exact ⟨rfl, _, rfl, (config_isotpPoll _ _).trans hconfig⟩

theorem running_after (buffers : IsoTpBuffers isoTpBufferSize) (run : List CanWorkerInput) :
    Running ((worker buffers).after run) :=
  (worker buffers).after_invariant (running_init buffers) (fun _ i h => running_step h i) run

/-! ## One call -/

section

variable {w : CanWorkerServer} {link : IsoTpLink} (ms : UInt32) (msg : UDSMessage)

/-- The call on a link whose size check lets the message pass. -/
theorem accounted_of_fits (hinit : w.m_initialized = true) (hlink : w.m_isoTpLink = some link)
    (hbuf : link.send_buf_size = isoTpBufferSize)
    (hsize : (serializeUDSMessage msg).length % 65536 ≤ isoTpBufferSize) :
    Accounted w ms msg ↔
      (serializeUDSMessage msg).length < 65536 ∧ link.send_status ≠ .inprogress := by
  have heq := sendUdsMessage_eq ms msg hinit hlink
  set raw := serializeUDSMessage msg with hraw
  have hlen := length_cast raw
  have hfits : (raw.take (raw.length % 65536)).length ≤ link.send_buf_size := by
    rw [hlen, hbuf]
    exact hsize
  by_cases hstatus : link.send_status = .inprogress
  · -- given up: nothing is sent and nothing reported
    rw [isotpSend_inprogress hfits hstatus] at heq
    refine iff_of_false ?_ fun h => h.2 hstatus
    rw [Accounted, heq]
    rintro (hfailed | ⟨-, hframes⟩ | ⟨hframes, -⟩)
    · simp at hfailed
    · cases hframes
    · cases hframes
  · by_cases hlarge : raw.length < 65536
    · -- the cast keeps the size, and the message is sent or started
      refine iff_of_true ?_ ⟨hlarge, hstatus⟩
      rw [Nat.mod_eq_of_lt hlarge, List.take_length] at heq hfits
      by_cases hshort : raw.length < 8
      · rw [isotpSend_single rfl hfits hstatus hshort] at heq
        rw [Accounted, heq]
        exact Or.inr (Or.inl ⟨hshort, rfl⟩)
      · rw [isotpSend_first rfl hfits hstatus (Nat.le_of_not_lt hshort)] at heq
        rw [Accounted, heq]
        exact Or.inr (Or.inr ⟨rfl, _, rfl, rfl, rfl, take_write_zero _ _⟩)
    · -- the cast cuts the size down, and another message is sent
      refine iff_of_false ?_ fun h => hlarge h.1
      have hmod : raw.length % 65536 < raw.length :=
        Nat.lt_of_lt_of_le (Nat.mod_lt _ (by decide)) (Nat.le_of_not_lt hlarge)
      rcases isotpSend_ok (u := { ms := ms }) rfl hfits hstatus with ⟨hret, hsent⟩
      rw [Accounted, heq, ← hraw]
      simp only [hret]
      rintro (hfailed | ⟨hfew, -⟩ | ⟨-, link', hlink', -, hsame, -⟩)
      · simp at hfailed
      · omega
      · rw [← Option.some.inj hlink', hsent, hlen] at hsame
        exact absurd hsame (Nat.ne_of_lt hmod)

theorem accounted_iff (h : Running w) : Accounted w ms msg ↔ HeardOf w (.sendUdsMessage ms msg) := by
  rcases h with ⟨hinit, link, hlink, hconfig⟩
  have hbuf : link.send_buf_size = isoTpBufferSize := congrArg (fun c => c.2.1) hconfig
  have htransmitting : w.Transmitting ↔ link.send_status = .inprogress := by
    simp [Transmitting, hlink]
  rw [HeardOf, htransmitting]
  by_cases hsize : (serializeUDSMessage msg).length % 65536 ≤ isoTpBufferSize
  · rw [accounted_of_fits ms msg hinit hlink hbuf hsize]
    exact ⟨Or.inr, fun h => h.resolve_left (Nat.not_lt.2 hsize)⟩
  · have hover : link.send_buf_size < (serializeUDSMessage msg).length % 65536 := by
      rw [hbuf]
      exact Nat.lt_of_not_le hsize
    refine iff_of_true (Or.inl ?_) (Or.inl (Nat.lt_of_not_le hsize))
    rw [failed_of_overflow ms msg hinit hlink hover]
    exact Option.some_ne_none _

end

/-! ## Runs -/

section

variable (buffers : IsoTpBuffers isoTpBufferSize)

/-- In a run every response is accounted for exactly when each was handed over with its real size, or
one too large, and without a transmission in progress. -/
theorem noSilentDrop_iff (run : List CanWorkerInput) :
    NoSilentDrop buffers run ↔ (worker buffers).Along HeardOf (worker buffers).init run := by
  rw [Machine.along_iff]
  constructor
  · intro h before i later hrun
    cases i with
    | sendUdsMessage ms msg =>
        exact (accounted_iff ms msg (running_after buffers before)).1 (h before ms msg later hrun)
    | frameReceived ms mem frame => trivial
    | pollTimeout ms => trivial
  · intro h before ms msg later hrun
    exact (accounted_iff ms msg (running_after buffers before)).2 (h before _ later hrun)

end

/-- The answer to a tester present. -/
def secondResponse : UDSMessage :=
  { UDSMessage.declare {} with serviceId := 0x7E, subFunction := 0x00 }

/-- A second response comes while the first waits for its flow control. -/
theorem second_response_dropped :
    ¬ NoSilentDrop (IsoTpBuffers.zero isoTpBufferSize)
      [.sendUdsMessage 0 longResponse, .sendUdsMessage 5 secondResponse] := by
  intro h
  have hacc := h [.sendUdsMessage 0 longResponse] 5 secondResponse [] rfl
  rw [accounted_iff 5 secondResponse (running_after _ _)] at hacc
  rcases hacc with hlarge | ⟨-, hfree⟩
  · exact absurd hlarge (by decide)
  · exact hfree (transmitting_sendUdsMessage _ 0 (by decide) (by decide))

end CanWorkerServer
end Server
end TcpCanUds
