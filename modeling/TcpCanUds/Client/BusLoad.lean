import TcpCanUds.Client.ClientProcess
import Mathlib.Data.UInt

/-!
# BusLoad — the bits the stress test counts

`frameSentSignal` is declared and connected like `frameReceivedSignal`, but nothing emits it, so the
total of the stress monitor holds the received frames only; and those are missing as well while the
connections are cut behind an `init` that failed.  The total is right in the runs in which neither
kind of frame is missed.
-/

namespace TcpCanUds
namespace Client

open Lib IsoTp StressTestMonitor

namespace ClientProcess

/-! ## The frames on the bus -/

/-- The sum of `40 + 8 * payload length`. -/
def frameSum (frames : List QCanBusFrame) : Nat :=
  (frames.map fun qFrame => frameBits qFrame.payload).sum

/-- The bits of the frames handed to the device by `flushSendBuffer` and read by `onFramesReceived`. -/
def busBits (history : List (ClientEvent × ClientAnswer)) : Nat :=
  (history.map fun e => frameSum e.2.outcome.written + frameSum e.2.outcome.read).sum

/-- The frames that the ISO-TP link gives to the send function of an interface with a device. -/
def linkFrames (p : ClientProcess) : CanEvent → List CanFrameData
  | .posted ms =>
      match p.canQueue, p.canWorker.interface with
      | posted :: _, some c =>
          match posted.call with
          | .init _ => []
          | .sendUdsData data => c.handed (c.linkSend ms data).2
          | .sendUdsMessage msg => c.handed (c.linkSend ms (serializeUDSMessage msg)).2
      | _, _ => []
  | .framesReceived ms mem qFrame =>
      match p.canWorker.m_instance with
      | none => []
      | some c =>
          if c.m_device = true ∧ qFrame.IsValid then
            c.handed (c.linkReceive ms mem qFrame).2.frames
          else []
  | .pollTimeout ms mem =>
      match p.canWorker.m_instance with
      | none => []
      | some c =>
          if c.m_pollTimer then c.handed (c.toCanInterFace.pollTimeout ms mem).2.frames else []
  | .errorOccurred => []
  | .tryReconnect _ => []

/-- The valid frame that a round of `onFramesReceived` reads. -/
def readFrames (p : ClientProcess) : CanEvent → List QCanBusFrame
  | .framesReceived _ _ qFrame =>
      match p.canWorker.m_instance with
      | none => []
      | some c => if c.m_device = true ∧ qFrame.IsValid then [qFrame] else []
  | _ => []

/-- The link has nothing to send, and a frame is read only while the worker's connections stand. -/
def MissesNothing (p : ClientProcess) : ClientEvent → Prop
  | .can event =>
      p.ended = false →
        p.linkFrames event = [] ∧ (p.readFrames event ≠ [] → p.canWorker.connected = true)
  | _ => True

/-! ## The total of the monitor -/

/-- The monitor when the calls posted to it are done. -/
def settled (t : MonitorThread) : StressTestMonitor :=
  t.queue.foldl (fun m call => (m.call call).1) t.monitor

/-- `m_totalBitsInTransit`, when the calls posted to the monitor are done. -/
def totalBits (p : ClientProcess) : Option UInt64 :=
  p.m_monitor.map fun t => (settled t).m_totalBitsInTransit

/-- What a call does to `m_totalBitsInTransit`. -/
def countCall (total : UInt64) : MonitorCall → UInt64
  | .start => 0
  | .frameSent payload => total + UInt64.ofNat (frameBits payload)
  | .frameReceived payload => total + UInt64.ofNat (frameBits payload)
  | _ => total

theorem total_call (m : StressTestMonitor) (call : MonitorCall) :
    (m.call call).1.m_totalBitsInTransit = countCall m.m_totalBitsInTransit call := by
  cases call with
  | timerTimeout =>
      simp only [StressTestMonitor.call]
      cases m.m_timer with
      | none => rfl
      | some timer => rfl
  | pressureIncreaseTimeout =>
      simp only [StressTestMonitor.call, onPressureIncreaseTimeout]
      split_ifs <;> rfl
  | _ => rfl

theorem total_settled (t : MonitorThread) :
    (settled t).m_totalBitsInTransit = t.queue.foldl countCall t.monitor.m_totalBitsInTransit := by
  unfold settled
  induction t.queue generalizing t with
  | nil => rfl
  | cons call queue ih =>
      -- the queue is done from its front
      have hrest := ih { monitor := (t.monitor.call call).1, queue := queue }
      simp only [List.foldl_cons]
      rw [hrest, total_call]

/-- The bits that a posted call adds. -/
def callBits : MonitorCall → Nat
  | .frameSent payload => frameBits payload
  | .frameReceived payload => frameBits payload
  | _ => 0

theorem foldl_countCall {calls : List MonitorCall} (h : .start ∉ calls) (total : UInt64) :
    calls.foldl countCall total = total + UInt64.ofNat (calls.map callBits).sum := by
  induction calls generalizing total with
  | nil => simp
  | cons call calls ih =>
      have hcall : countCall total call = total + UInt64.ofNat (callBits call) := by
        cases call with
        | start => exact absurd List.mem_cons_self h
        | frameSent payload => rfl
        | frameReceived payload => rfl
        | _ => exact (add_zero total).symm
      -- only `start` takes bits away
      rw [List.foldl_cons, ih fun hmem => h (List.mem_cons_of_mem _ hmem), hcall, List.map_cons,
        List.sum_cons, UInt64.ofNat_add, add_assoc]

theorem totalBits_postToMonitor (p : ClientProcess) (calls : List MonitorCall) :
    (p.postToMonitor calls).totalBits =
      p.totalBits.map fun total => calls.foldl countCall total := by
  unfold totalBits postToMonitor
  cases p.m_monitor with
  | none => rfl
  | some t =>
      simp only [Option.map_some, total_settled, List.foldl_append]

/-! ## Signals -/

/-- The bits that the signals of the worker add. -/
def signalBits (signals : List CanWorkerSignal) : Nat :=
  ((signals.filterMap monitorCall).map callBits).sum

theorem start_not_mem_monitorCalls (signals : List CanWorkerSignal) :
    .start ∉ signals.filterMap monitorCall := by
  intro hmem
  rcases List.mem_filterMap.1 hmem with ⟨signal, -, hcall⟩
  cases signal <;> simp [monitorCall] at hcall

theorem signalBits_append (signals signals' : List CanWorkerSignal) :
    signalBits (signals ++ signals') = signalBits signals + signalBits signals' := by
  simp [signalBits]

theorem signalBits_onUdsMessageReceived (msg : UDSMessage) :
    signalBits (CanWorker.onUdsMessageReceived msg) = 0 := by
  unfold CanWorker.onUdsMessageReceived
  split_ifs with hzero
  · rfl
  · rfl

/-- A message that is forwarded adds nothing. -/
theorem signalBits_forward_messages (w : CanWorker) (received : Option UDSMessage) :
    signalBits (w.forward (received.toList.map CanInterFaceSignal.udsMessageReceived)) = 0 := by
  unfold CanWorker.forward
  split_ifs with hconnected
  · cases received with
    | none => rfl
    | some msg =>
        simp only [Option.toList_some, List.map_cons, List.map_nil, List.flatMap_cons,
          List.flatMap_nil, List.append_nil, CanWorker.onSignal]
        exact signalBits_onUdsMessageReceived msg
  · rfl

/-- A received frame adds its bits, when the connections stand. -/
theorem signalBits_forward_frame (w : CanWorker) (qFrame : QCanBusFrame)
    (received : Option UDSMessage) :
    signalBits (w.forward (.frameReceivedSignal qFrame ::
        received.toList.map CanInterFaceSignal.udsMessageReceived)) =
      if w.connected then frameBits qFrame.payload else 0 := by
  have hmessages := signalBits_forward_messages w received
  unfold CanWorker.forward at hmessages ⊢
  split_ifs at hmessages ⊢ with hconnected
  · -- the frame comes before the message it completes
    rw [List.flatMap_cons, signalBits_append, hmessages]
    rfl
  · rfl

/-! ## A slot of the CAN thread -/

/-- The instance, when there is one, is ready to send. -/
def Sound (p : ClientProcess) : Prop :=
  ∀ c, p.canWorker.m_instance = some c → c.Ready

/-- What a slot writes, reads and signals, told by the state it starts in. -/
structure CanStep (p : ClientProcess) (event : CanEvent) (w : CanWorker)
    (outcome : CanWorkerOutcome) : Prop where
  ready : ∀ c, w.m_instance = some c → c.Ready
  written : outcome.written = (p.linkFrames event).map QCanBusFrame.ofCanFrame
  read : outcome.read = p.readFrames event
  signals : signalBits outcome.signals =
    if p.canWorker.connected then frameSum (p.readFrames event) else 0

section

variable {p : ClientProcess} (memory : IsoTpBuffers isoTpBufferSize) (h : p.Sound)

theorem instance_of_interface {w : CanWorker} {c : CanInterFaceObject}
    (hinterface : w.interface = some c) : w.m_instance = some c := by
  unfold CanWorker.interface at hinterface
  split_ifs at hinterface with hset
  exact hinterface

include h

theorem ready_Instance : (p.canWorker.Instance memory).Ready := by
  unfold CanWorker.Instance
  cases hinstance : p.canWorker.m_instance with
  | none => exact CanInterFaceObject.ready_new memory
  | some c => exact h c hinstance

theorem ready_init (result : DeviceResult) (c : CanInterFaceObject)
    (hc : (p.canWorker.init memory result).1.m_instance = some c) : c.Ready := by
  unfold CanWorker.init at hc
  cases hinit : (p.canWorker.Instance memory).init result with
  | none =>
      rw [hinit] at hc
      rcases Option.some.inj hc with rfl
      exact ready_Instance memory h
  | some done =>
      rw [hinit] at hc
      rcases Option.some.inj hc with rfl
      exact CanInterFaceObject.ready_init hinit

omit h in
/-- A slot that sends nothing and reads nothing. -/
theorem canStep_idle {event : CanEvent} {w : CanWorker} {outcome : CanWorkerOutcome}
    (hready : ∀ c, w.m_instance = some c → c.Ready) (hlink : p.linkFrames event = [])
    (hread : p.readFrames event = []) (hwritten : outcome.written = [])
    (hreadNone : outcome.read = []) (hsignals : signalBits outcome.signals = 0) :
    CanStep p event w outcome where
  ready := hready
  written := by rw [hwritten, hlink]; rfl
  read := hreadNone.trans hread.symm
  signals := by
    rw [hsignals, hread]
    exact (ite_self _).symm

/-- A request on the interface. -/
theorem canStep_sent {ms : UInt32} {raw : QByteArray} {signals : List CanWorkerSignal}
    {c : CanInterFaceObject} (hinterface : p.canWorker.interface = some c)
    (hlink : p.linkFrames (.posted ms) = c.handed (c.linkSend ms raw).2)
    (hsignals : signalBits signals = 0) :
    CanStep p (.posted ms) { p.canWorker with m_instance := some (c.sendUdsRawData ms raw).1 }
      { written := (c.sendUdsRawData ms raw).2, signals := signals } := by
  have hc := h c (instance_of_interface hinterface)
  rcases CanInterFaceObject.sendUdsRawData_of_ready hc ms raw with ⟨hready, hwritten⟩
  refine ⟨?_, ?_, rfl, ?_⟩
  · intro c' hc'
    rcases Option.some.inj hc' with rfl
    exact hready
  · rw [hlink]
    exact hwritten
  · exact hsignals.trans (ite_self _).symm

omit h in
theorem outcome_init (w : CanWorker) (result : DeviceResult) :
    ∃ null, (w.init memory result).2 = { null := null } := by
  unfold CanWorker.init
  cases (w.Instance memory).init result with
  | none => exact ⟨_, rfl⟩
  | some done => exact ⟨_, rfl⟩

theorem canStep_runCall {posted : Posted} {rest : List Posted} (hqueue : p.canQueue = posted :: rest)
    (ms : UInt32) :
    CanStep p (.posted ms) (runCall p.canWorker memory ms posted.call).1
      (runCall p.canWorker memory ms posted.call).2 := by
  cases hcall : posted.call with
  | init result =>
      rcases outcome_init memory p.canWorker result with ⟨null, hnull⟩
      have hlink : p.linkFrames (.posted ms) = [] := by
        cases hinterface : p.canWorker.interface with
        | none => simp only [linkFrames, hqueue, hinterface]
        | some c => simp only [linkFrames, hqueue, hinterface, hcall]
      simp only [runCall, hnull]
      exact canStep_idle (ready_init memory h result) hlink rfl rfl rfl rfl
  | sendUdsData data =>
      cases hinterface : p.canWorker.interface with
      | none =>
          simp only [runCall, CanWorker.sendUdsData, hinterface]
          exact canStep_idle h (by simp only [linkFrames, hqueue, hinterface]) rfl rfl rfl rfl
      | some c =>
          simp only [runCall, CanWorker.sendUdsData, hinterface]
          exact canStep_sent h hinterface (by simp only [linkFrames, hqueue, hinterface, hcall]) rfl
  | sendUdsMessage msg =>
      cases hinterface : p.canWorker.interface with
      | none =>
          simp only [runCall, CanWorker.sendUdsMessage, hinterface]
          exact canStep_idle h (by simp only [linkFrames, hqueue, hinterface]) rfl rfl rfl rfl
      | some c =>
          simp only [runCall, CanWorker.sendUdsMessage, hinterface]
          exact canStep_sent h hinterface (by simp only [linkFrames, hqueue, hinterface, hcall]) rfl

theorem canStep_framesReceived (ms : UInt32) (mem : UDSMessage.Memory) (qFrame : QCanBusFrame) :
    CanStep p (.framesReceived ms mem qFrame) (p.canWorker.onFramesReceived ms mem qFrame).1
      (p.canWorker.onFramesReceived ms mem qFrame).2 := by
  unfold CanWorker.onFramesReceived
  cases hinstance : p.canWorker.m_instance with
  | none =>
      exact canStep_idle h (by simp only [linkFrames, hinstance]) (by simp only [readFrames, hinstance])
        rfl rfl rfl
  | some c =>
      rcases CanInterFaceObject.onFrameReceived_of_ready (h c hinstance) ms mem qFrame with
        ⟨hready, hwritten⟩
      refine ⟨?_, ?_, ?_, ?_⟩
      · intro c' hc'
        rcases Option.some.inj hc' with rfl
        exact hready
      · simp only [hwritten, linkFrames, hinstance]
        split_ifs with htaken
        · rfl
        · rfl
      · simp only [readFrames, hinstance]
      · simp only [readFrames, hinstance, CanInterFaceObject.onFrameReceived]
        by_cases htaken : c.m_device = true ∧ qFrame.IsValid
        · simp only [if_pos htaken]
          exact signalBits_forward_frame p.canWorker qFrame _
        · simp only [if_neg htaken]
          exact (signalBits_forward_messages p.canWorker none).trans (ite_self _).symm

theorem canStep_pollTimeout (ms : UInt32) (mem : UDSMessage.Memory) :
    CanStep p (.pollTimeout ms mem) (p.canWorker.pollTimeout ms mem).1
      (p.canWorker.pollTimeout ms mem).2 := by
  unfold CanWorker.pollTimeout
  cases hinstance : p.canWorker.m_instance with
  | none => exact canStep_idle h (by simp only [linkFrames, hinstance]) rfl rfl rfl rfl
  | some c =>
      rcases CanInterFaceObject.pollTimeout_of_ready (h c hinstance) ms mem with ⟨hready, hwritten⟩
      refine ⟨?_, ?_, rfl, ?_⟩
      · intro c' hc'
        rcases Option.some.inj hc' with rfl
        exact hready
      · simp only [hwritten, linkFrames, hinstance]
        split_ifs with htimer
        · rfl
        · rfl
      · simp only [CanInterFaceObject.pollTimeout]
        by_cases htimer : c.m_pollTimer = true
        · simp only [if_pos htimer]
          exact (signalBits_forward_messages p.canWorker _).trans (ite_self _).symm
        · simp only [if_neg htimer]
          exact (signalBits_forward_messages p.canWorker none).trans (ite_self _).symm

theorem canStep_errorOccurred :
    CanStep p .errorOccurred p.canWorker.errorOccurred.1 p.canWorker.errorOccurred.2 := by
  refine canStep_idle ?_ rfl rfl rfl rfl rfl
  -- only the reconnect timer starts
  intro c hc
  rcases Option.map_eq_some_iff.1 hc with ⟨c₀, hc₀, rfl⟩
  have hready := h c₀ hc₀
  unfold CanInterFaceObject.onErrorOccurred
  split_ifs with hdevice
  · exact ⟨hready.buffer, hready.id⟩
  · exact hready

theorem canStep_tryReconnect (result : DeviceResult) :
    CanStep p (.tryReconnect result) (p.canWorker.tryReconnect result).1
      (p.canWorker.tryReconnect result).2 := by
  unfold CanWorker.tryReconnect
  cases hinstance : p.canWorker.m_instance with
  | none => exact canStep_idle h rfl rfl rfl rfl rfl
  | some c =>
      cases hdone : c.tryReconnect result with
      | none =>
          simp only [hdone]
          exact canStep_idle h rfl rfl rfl rfl rfl
      | some done =>
          simp only [hdone]
          refine canStep_idle ?_ rfl rfl rfl rfl rfl
          intro c' hc'
          rcases Option.some.inj hc' with rfl
          unfold CanInterFaceObject.tryReconnect at hdone
          split_ifs at hdone with htimer
          · exact CanInterFaceObject.ready_init hdone
          · -- the timer does not run
            rw [← Option.some.inj hdone]
            exact h c hinstance

end

theorem Sound.onCan {p : ClientProcess} (memory : IsoTpBuffers isoTpBufferSize) (h : p.Sound)
    (event : CanEvent) :
    CanStep p event (p.onCan memory event).1.canWorker (p.onCan memory event).2.outcome := by
  cases event with
  | posted ms =>
      simp only [ClientProcess.onCan, runPosted]
      cases hqueue : p.canQueue with
      | nil => exact canStep_idle h (by simp only [linkFrames, hqueue]) rfl rfl rfl rfl
      | cons posted rest => exact canStep_runCall memory h hqueue ms
  | framesReceived ms mem qFrame => exact canStep_framesReceived h ms mem qFrame
  | pollTimeout ms mem => exact canStep_pollTimeout h ms mem
  | errorOccurred => exact canStep_errorOccurred h
  | tryReconnect result => exact canStep_tryReconnect h result

/-! ## A step of the process -/

/-- The test that runs goes on. -/
def KeepsTest : ClientEvent → Prop
  | .window event => ¬ IsTestEvent event
  | _ => True

/-- The bits that an event adds to the total. -/
def countedBits (p : ClientProcess) : ClientEvent → Nat
  | .can event =>
      if p.ended = false ∧ p.canWorker.connected = true then frameSum (p.readFrames event) else 0
  | _ => 0

/-- The bits that an event brings on the bus. -/
def stepBits (p : ClientProcess) : ClientEvent → Nat
  | .can event =>
      if p.ended = false then
        frameSum ((p.linkFrames event).map QCanBusFrame.ofCanFrame) + frameSum (p.readFrames event)
      else 0
  | _ => 0

section

variable {p : ClientProcess} (memory : IsoTpBuffers isoTpBufferSize) (h : p.Sound)

theorem totalBits_of_m_monitor {p' : ClientProcess} (hsame : p'.m_monitor = p.m_monitor) :
    p'.totalBits = p.totalBits := by
  rw [totalBits, totalBits, hsame]

/-- A slot of the monitor takes its call from the queue, or makes one that counts nothing. -/
theorem foldl_nextCall {t : MonitorThread} {event : MonitorEvent} {call : MonitorCall}
    {rest : List MonitorCall} (hnext : nextCall t event = some (call, rest)) (total : UInt64) :
    rest.foldl countCall (countCall total call) = t.queue.foldl countCall total := by
  cases event with
  | posted =>
      simp only [nextCall] at hnext
      cases hqueue : t.queue with
      | nil => simp [hqueue] at hnext
      | cons first queue =>
          rw [hqueue] at hnext
          rcases Prod.mk.inj (Option.some.inj hnext) with ⟨rfl, rfl⟩
          rfl
  | _ =>
      rcases Prod.mk.inj (Option.some.inj hnext) with ⟨rfl, rfl⟩
      rfl

theorem totalBits_onMonitor (event : MonitorEvent) :
    (p.onMonitor event).1.totalBits = p.totalBits := by
  unfold onMonitor
  cases hmonitor : p.m_monitor with
  | none => rfl
  | some t =>
      cases hnext : nextCall t event with
      | none => simp only [hnext]
      | some next =>
          rcases next with ⟨call, rest⟩
          simp only [hnext, totalBits, runMonitor, hmonitor, Option.map_some, total_settled,
            total_call]
          rw [foldl_nextCall hnext]

theorem totalBits_afterCan (result : CanWorker × CanWorkerOutcome) :
    (p.afterCan result).totalBits =
      p.totalBits.map fun total => total + UInt64.ofNat (signalBits result.2.signals) := by
  unfold afterCan
  rw [totalBits_postToMonitor]
  congr 1
  funext total
  exact foldl_countCall (start_not_mem_monitorCalls _) total

include h

theorem totalBits_onCan (event : CanEvent) :
    (p.onCan memory event).1.totalBits =
      p.totalBits.map fun total =>
        total + UInt64.ofNat
          (if p.canWorker.connected then frameSum (p.readFrames event) else 0) := by
  rw [← (h.onCan memory event).signals]
  cases event with
  | posted ms =>
      simp only [onCan, runPosted]
      cases p.canQueue with
      | nil => simp [signalBits]
      | cons posted rest => exact totalBits_afterCan _
  | framesReceived ms mem qFrame => exact totalBits_afterCan _
  | pollTimeout ms mem => exact totalBits_afterCan _
  | errorOccurred => exact totalBits_afterCan _
  | tryReconnect result => exact totalBits_afterCan _

/-- A step adds the bits it counts. -/
theorem totalBits_step {event : ClientEvent} (hkeeps : KeepsTest event) :
    (step memory p event).1.totalBits =
      p.totalBits.map fun total => total + UInt64.ofNat (p.countedBits event) := by
  have hzero : (p.totalBits.map fun total => total + UInt64.ofNat 0) = p.totalBits := by
    have hid : (fun total : UInt64 => total + UInt64.ofNat 0) = id :=
      funext fun total => add_zero total
    rw [hid, Option.map_id_apply]
  have hcase := stepCase memory p event
  generalize step memory p event = done at hcase ⊢
  cases hcase with
  | ended hended =>
      have hnone : p.countedBits event = 0 := by
        cases event with
        | window event => rfl
        | can event => simp [countedBits, hended]
        | monitor event => rfl
      rw [hnone, hzero]
  | waits hended hwaits => exact hzero.symm
  | window hended hfree =>
      exact (totalBits_of_m_monitor (posts_onWindow memory p hkeeps).m_monitor).trans hzero.symm
  | can hended =>
      simp only [countedBits, hended, true_and]
      exact totalBits_onCan memory h _
  | monitor hended => exact (totalBits_onMonitor _).trans hzero.symm

/-- A step hands over the frames of the link and reads the frames of the device. -/
theorem busBits_step (event : ClientEvent) :
    busBits [(event, (step memory p event).2)] = p.stepBits event := by
  have hcase := stepCase memory p event
  generalize step memory p event = done at hcase ⊢
  cases hcase with
  | ended hended =>
      cases event with
      | window event => rfl
      | can event => simp [stepBits, hended, busBits, frameSum]
      | monitor event => rfl
  | waits hended hwaits => rfl
  | window hended hfree => rfl
  | @can event hended =>
      have hstep := h.onCan memory event
      simp only [stepBits, hended, if_true, busBits, List.map_cons, List.map_nil, List.sum_cons,
        List.sum_nil, Nat.add_zero]
      rw [hstep.written, hstep.read]
  | monitor hended => rfl

theorem Sound.onWindow (event : WindowEvent) : Sound (p.onWindow memory event).1 := by
  intro c hc
  by_cases htest : IsTestEvent event
  · rw [(onWindow_of_test memory p htest).1] at hc
    exact h c hc
  · rcases (posts_onWindow memory p htest).canWorker with hsame | hcreated
    · rw [hsame] at hc
      exact h c hc
    · -- the instance that was asked for
      rw [hcreated] at hc
      rcases Option.some.inj hc with rfl
      exact ready_Instance memory h

theorem Sound.step (event : ClientEvent) : Sound (ClientProcess.step memory p event).1 := by
  have hcase := stepCase memory p event
  generalize ClientProcess.step memory p event = done at hcase ⊢
  cases hcase with
  | ended hended => exact h
  | waits hended hwaits => exact h
  | window hended hfree => exact h.onWindow memory _
  | can hended => exact (h.onCan memory _).ready
  | monitor hended =>
      intro c hc
      exact h c (canWorker_onMonitor p _ ▸ hc)

/-! ## When a step counts what it should -/

omit h in
theorem frameSum_ge (frames : List QCanBusFrame) : 40 * frames.length ≤ frameSum frames := by
  unfold frameSum
  induction frames with
  | nil => exact Nat.zero_le _
  | cons qFrame frames ih =>
      rw [List.map_cons, List.sum_cons, List.length_cons, frameBits]
      omega

omit h in
theorem frameSum_le {frames : List QCanBusFrame}
    (hpayload : ∀ qFrame ∈ frames, qFrame.payload.length ≤ 64) :
    frameSum frames ≤ 552 * frames.length := by
  unfold frameSum
  induction frames with
  | nil => exact Nat.zero_le _
  | cons qFrame frames ih =>
      have hfirst := hpayload qFrame List.mem_cons_self
      have hrest := ih fun q hq => hpayload q (List.mem_cons_of_mem _ hq)
      rw [List.map_cons, List.sum_cons, List.length_cons, frameBits]
      omega

omit h in
theorem frameSum_eq_zero_iff {frames : List QCanBusFrame} : frameSum frames = 0 ↔ frames = [] := by
  constructor
  · intro hzero
    have hge := frameSum_ge frames
    exact List.length_eq_zero_iff.1 (by omega)
  · rintro rfl
    rfl

omit h in
theorem few_handed (c : CanInterFaceObject) {link : IsoTpLink} {frames : List CanFrameData}
    (hcall : CanInterFaceObject.LinkCall link frames) :
    (∀ frame ∈ c.handed frames, IsLinkFrame frame) ∧ (c.handed frames).length ≤ 2 := by
  unfold CanInterFaceObject.handed
  split_ifs with hdevice
  · exact ⟨hcall.isLinkFrame, hcall.length_le⟩
  · exact ⟨fun _ hmem => absurd hmem List.not_mem_nil, Nat.zero_le _⟩

/-- A slot gives at most two frames to the device. -/
theorem linkFrames_few (event : CanEvent) :
    (∀ frame ∈ p.linkFrames event, IsLinkFrame frame) ∧ (p.linkFrames event).length ≤ 2 := by
  have hnil : (∀ frame ∈ ([] : List CanFrameData), IsLinkFrame frame) ∧
      ([] : List CanFrameData).length ≤ 2 :=
    ⟨fun _ hmem => absurd hmem List.not_mem_nil, Nat.zero_le _⟩
  -- a request is a send and a poll, a received frame an answer and a poll: two frames at most
  cases event with
  | posted ms =>
      cases hqueue : p.canQueue with
      | nil =>
          simp only [linkFrames, hqueue]
          exact hnil
      | cons posted rest =>
          cases hinterface : p.canWorker.interface with
          | none =>
              simp only [linkFrames, hqueue, hinterface]
              exact hnil
          | some c =>
              have hc := h c (instance_of_interface hinterface)
              simp only [linkFrames, hqueue, hinterface]
              cases posted.call with
              | init result => exact hnil
              | sendUdsData data =>
                  exact few_handed c (CanInterFaceObject.linkCall_linkSend hc ms data)
              | sendUdsMessage msg =>
                  exact few_handed c (CanInterFaceObject.linkCall_linkSend hc ms _)
  | framesReceived ms mem qFrame =>
      cases hinstance : p.canWorker.m_instance with
      | none =>
          simp only [linkFrames, hinstance]
          exact hnil
      | some c =>
          simp only [linkFrames, hinstance]
          split_ifs with htaken
          · exact few_handed c
              (CanInterFaceObject.linkCall_linkReceive (h c hinstance) ms mem qFrame)
          · exact hnil
  | pollTimeout ms mem =>
      cases hinstance : p.canWorker.m_instance with
      | none =>
          simp only [linkFrames, hinstance]
          exact hnil
      | some c =>
          simp only [linkFrames, hinstance]
          split_ifs with htimer
          · exact few_handed c (CanInterFaceObject.linkCall_pollTimeout (h c hinstance) ms mem)
          · exact hnil
  | errorOccurred => exact hnil
  | tryReconnect result => exact hnil

omit h in
/-- A round reads one frame at most, of at most 64 bytes. -/
theorem readFrames_few (p : ClientProcess) (event : CanEvent) :
    (∀ qFrame ∈ p.readFrames event, qFrame.payload.length ≤ 64) ∧
      (p.readFrames event).length ≤ 1 := by
  cases event with
  | framesReceived ms mem qFrame =>
      simp only [readFrames]
      cases p.canWorker.m_instance with
      | none => exact ⟨fun _ hmem => absurd hmem List.not_mem_nil, Nat.zero_le _⟩
      | some c =>
          by_cases htaken : c.m_device = true ∧ qFrame.IsValid
          · simp only [if_pos htaken]
            refine ⟨?_, Nat.le_refl _⟩
            intro q hq
            rcases List.mem_singleton.1 hq with rfl
            have hlength := htaken.2.2.2.1
            split_ifs at hlength <;> omega
          · simp only [if_neg htaken]
            exact ⟨fun _ hmem => absurd hmem List.not_mem_nil, Nat.zero_le _⟩
  | _ => exact ⟨fun _ hmem => absurd hmem List.not_mem_nil, Nat.zero_le _⟩

theorem stepBits_lt (event : ClientEvent) : p.stepBits event < 2 ^ 64 := by
  cases event with
  | window event => exact Nat.two_pow_pos 64
  | monitor event => exact Nat.two_pow_pos 64
  | can event =>
      simp only [stepBits]
      split_ifs with hended
      · rcases linkFrames_few h event with ⟨hlink, hlength⟩
        rcases readFrames_few p event with ⟨hread, hone⟩
        have hsent : frameSum ((p.linkFrames event).map QCanBusFrame.ofCanFrame) ≤ 552 * 2 := by
          have hpayload : ∀ qFrame ∈ (p.linkFrames event).map QCanBusFrame.ofCanFrame,
              qFrame.payload.length ≤ 64 := by
            intro qFrame hmem
            rcases List.mem_map.1 hmem with ⟨frame, hframe, rfl⟩
            exact Nat.le_trans (QCanBusFrame.length_ofCanFrame (hlink frame hframe)) (by decide)
          have hle := frameSum_le hpayload
          rw [List.length_map] at hle
          omega
        have hreads := frameSum_le hread
        omega
      · exact Nat.two_pow_pos 64

omit h in
/-- All bits are counted exactly when nothing is sent and the connections stand for what is read. -/
theorem countedBits_eq_iff (p : ClientProcess) (event : ClientEvent) :
    p.countedBits event = p.stepBits event ↔ MissesNothing p event := by
  cases event with
  | window event => exact iff_of_true rfl trivial
  | monitor event => exact iff_of_true rfl trivial
  | can event =>
      have hlink : frameSum ((p.linkFrames event).map QCanBusFrame.ofCanFrame) = 0 ↔
          p.linkFrames event = [] := by
        rw [frameSum_eq_zero_iff, List.map_eq_nil_iff]
      have hread : frameSum (p.readFrames event) = 0 ↔ p.readFrames event = [] :=
        frameSum_eq_zero_iff
      cases hended : p.ended with
      | true => simp [countedBits, stepBits, MissesNothing, hended]
      | false =>
          simp only [countedBits, stepBits, MissesNothing, hended, true_and, if_true,
            forall_const, ← hlink, ne_eq, ← hread]
          by_cases hconnected : p.canWorker.connected = true
          · rw [if_pos hconnected]
            exact ⟨fun heq => ⟨by omega, fun _ => hconnected⟩, fun heq => by omega⟩
          · rw [if_neg hconnected]
            constructor
            · intro heq
              exact ⟨by omega, fun hne => absurd (by omega) hne⟩
            · rintro ⟨hsent, hnone⟩
              have hzero : frameSum (p.readFrames event) = 0 := by
                by_contra hne
                exact hconnected (hnone hne)
              omega

/-- One more step keeps the total right exactly when it misses nothing. -/
theorem totalBits_step_iff {event : ClientEvent} (hkeeps : KeepsTest event) {bits : Nat}
    (htotal : p.totalBits = some (UInt64.ofNat bits)) :
    (step memory p event).1.totalBits = some (UInt64.ofNat (bits + p.stepBits event)) ↔
      MissesNothing p event := by
  have hlt := stepBits_lt h event
  have hle : p.countedBits event ≤ p.stepBits event := by
    cases event with
    | window event => exact Nat.le_refl _
    | monitor event => exact Nat.le_refl _
    | can event =>
        simp only [countedBits, stepBits]
        split_ifs <;> simp_all
  rw [totalBits_step memory h hkeeps, htotal, Option.map_some, Option.some_inj, UInt64.ofNat_add,
    add_right_inj, ← countedBits_eq_iff]
  -- one step has too few bits to wrap the total around
  constructor
  · intro heq
    have hnat := congrArg UInt64.toNat heq
    rw [UInt64.toNat_ofNat', UInt64.toNat_ofNat', Nat.mod_eq_of_lt hlt,
      Nat.mod_eq_of_lt (Nat.lt_of_le_of_lt hle hlt)] at hnat
    exact hnat
  · intro heq
    rw [heq]

end

/-! ## Whole tests -/

/-- A test can begin: the window is free, and the monitor is there. -/
structure TestStarts (p : ClientProcess) : Prop where
  running : p.ended = false
  free : p.waitsForInit = false
  monitor : p.m_monitor.isSome = true

/-- After every beginning of a run from `p` the total is the sum of what was on the bus. -/
def BitsAgree (memory : IsoTpBuffers isoTpBufferSize) (p : ClientProcess)
    (events : List ClientEvent) : Prop :=
  ∀ before, before <+: events →
    totalBits ((machine memory).exec p before) =
      some (UInt64.ofNat (busBits ((machine memory).trace p before)))

theorem busBits_append (history history' : List (ClientEvent × ClientAnswer)) :
    busBits (history ++ history') = busBits history + busBits history' := by
  simp [busBits]

theorem sound_exec (memory : IsoTpBuffers isoTpBufferSize) {p : ClientProcess} (h : p.Sound)
    (events : List ClientEvent) : Sound ((machine memory).exec p events) := by
  induction events generalizing p with
  | nil => exact h
  | cons event events ih => exact ih (h.step memory event)

theorem sound_after (memory : IsoTpBuffers isoTpBufferSize) (events : List ClientEvent) :
    Sound ((machine memory).after events) :=
  sound_exec memory (fun _ hc => absurd hc.symm (Option.some_ne_none _)) events

/-- A test starts from zero. -/
theorem totalBits_startTest (memory : IsoTpBuffers isoTpBufferSize) {p : ClientProcess}
    (h : TestStarts p) (startFreq maxFreq stepFreq stepMs : Int) :
    (step memory p (.window (.startTest startFreq maxFreq stepFreq stepMs))).1.totalBits =
      some 0 := by
  simp only [step, h.running, h.free]
  change (p.startTest startFreq maxFreq stepFreq stepMs).totalBits = some 0
  rw [startTest, totalBits_postToMonitor, totalBits]
  rcases Option.isSome_iff_exists.1 h.monitor with ⟨t, ht⟩
  rw [ht]
  rfl

/-- From the start of a test on, the total of the monitor is the sum over both directions exactly as
long as no step hands a frame to the device, or reads one while the worker's connections are cut. -/
theorem bitsAgree_iff (memory : IsoTpBuffers isoTpBufferSize) (before : List ClientEvent)
    (startFreq maxFreq stepFreq stepMs : Int) {events : List ClientEvent}
    (hstart : TestStarts ((machine memory).after before))
    (hkeeps : ∀ event ∈ events, KeepsTest event) :
    BitsAgree memory
        ((machine memory).after
          (before ++ [.window (.startTest startFreq maxFreq stepFreq stepMs)])) events ↔
      (machine memory).Along MissesNothing
        ((machine memory).after
          (before ++ [.window (.startTest startFreq maxFreq stepFreq stepMs)])) events := by
  refine (machine memory).forall_prefix_iff_along ?_ ?_
  · rw [(machine memory).after_snoc]
    exact totalBits_startTest memory hstart startFreq maxFreq stepFreq stepMs
  · -- one step behind a beginning that agrees
    intro front event later hevents htotal
    rw [(machine memory).exec_append, (machine memory).trace_snoc, busBits_append]
    have hsound := sound_exec memory (sound_after memory
      (before ++ [.window (.startTest startFreq maxFreq stepFreq stepMs)])) front
    have hbits := busBits_step memory hsound event
    have hiff := totalBits_step_iff memory hsound
      (hkeeps event (by rw [hevents]; simp)) htotal
    rw [← hbits] at hiff
    exact hiff

/-- CAN is connected and a stress test is set up. -/
def connectedWithMonitor : List ClientEvent :=
  [.window (.on_btn_ConnectCan_clicked (some "peakcan") (some "usb0") .connected),
    .can (.posted 0), .window (.on_stress_btn_clicked 0)]

/-- A frame that is only read is counted. -/
theorem bitsAgree_frameRead :
    TestStarts ((machine (.zero _)).after connectedWithMonitor) ∧
      BitsAgree (.zero _)
        ((machine (.zero _)).after
          (connectedWithMonitor ++ [.window (.startTest 20 300 10 2000)]))
        [.can (.framesReceived 0 {} ⟨.dataFrame, 0x123, false, false, [0x01, 0x02]⟩)] := by
  have hstart : TestStarts ((machine (.zero _)).after connectedWithMonitor) := ⟨rfl, rfl, rfl⟩
  refine ⟨hstart, (bitsAgree_iff (.zero _) connectedWithMonitor 20 300 10 2000 hstart ?_).2 ?_⟩
  · intro event hevent
    rcases List.mem_singleton.1 hevent with rfl
    trivial
  · exact ⟨fun _ => ⟨by decide, fun _ => by decide⟩, trivial⟩

/-- The tester request goes out in one frame of 104 bits, and the total stays zero. -/
theorem not_bitsAgree_testerRequest :
    TestStarts ((machine (.zero _)).after connectedWithMonitor) ∧
      ¬ BitsAgree (.zero _)
        ((machine (.zero _)).after
          (connectedWithMonitor ++ [.window (.startTest 20 300 10 2000)]))
        [.window (.on_btn_Tester_clicked {}), .can (.posted 0)] := by
  refine ⟨⟨rfl, rfl, rfl⟩, ?_⟩
  intro hagree
  have htotal := hagree _ List.prefix_rfl
  exact absurd htotal (by decide)

end ClientProcess
end Client
end TcpCanUds
