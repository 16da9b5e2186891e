import TcpCanUds.Client.ClientProcess

/-!
# ChannelRouting — requests before the CAN interface is ready

On the CAN channel the window falls back to TCP when there is no instance of `Can_InterFace`; but
asking for the instance makes it, so the way back is never taken, and the CAN worker finds its own
pointer null.  Before an `init` a run is safe when nothing is sent on the CAN channel.
-/

namespace TcpCanUds
namespace Client

open Lib

namespace WorkerCall

/-- The calls that carry a request. -/
def IsRequest : WorkerCall → Prop
  | .init _ => False
  | .sendUdsData _ => True
  | .sendUdsMessage _ => True

instance : DecidablePred IsRequest
  | .init _ => isFalse id
  | .sendUdsData _ => isTrue trivial
  | .sendUdsMessage _ => isTrue trivial

end WorkerCall

namespace ClientProcess

/-! ## Safe runs -/

/-- What is posted while CAN is selected goes to the TCP worker, and what was posted while CAN was
selected uses no null `m_interface`. -/
structure SafeAnswer (answer : ClientAnswer) : Prop where
  toTcp : ∀ q ∈ answer.posted, q.call.IsRequest → q.currentIndex ≠ 1 → q.worker = .tcpWorker
  notNull : ∀ q ∈ answer.ran, q.currentIndex ≠ 1 → answer.outcome.null ≠ some .m_interface

/-- The step took up no `init`. -/
def RunsNoInit (answer : ClientAnswer) : Prop :=
  ∀ q ∈ answer.ran, q.call.IsRequest

theorem runsNoInit_of_none {answer : ClientAnswer} (hran : answer.ran = none) :
    RunsNoInit answer :=
  fun q hq => absurd (hran.symm.trans (Option.mem_def.1 hq)) (Option.some_ne_none q).symm

instance : DecidablePred RunsNoInit :=
  fun answer => inferInstanceAs (Decidable (∀ q ∈ answer.ran, q.call.IsRequest))

def SafeRun (memory : IsoTpBuffers isoTpBufferSize) (events : List ClientEvent) : Prop :=
  ∀ e ∈ (machine memory).history events, SafeAnswer e.2

/-- No `Can_worker::init` has run yet. -/
def BeforeInit (memory : IsoTpBuffers isoTpBufferSize) (events : List ClientEvent) : Prop :=
  ∀ e ∈ (machine memory).history events, RunsNoInit e.2

instance (memory : IsoTpBuffers isoTpBufferSize) (events : List ClientEvent) :
    Decidable (BeforeInit memory events) :=
  List.decidableBAll _ _

/-! ## Sending on the CAN channel -/

/-- The event makes the window send a request. -/
def Sends (s : ClientState) : WindowEvent → Prop
  | .on_btn_load_clicked _ | .on_btn_usage_clicked _ | .on_btn_ReadTemp_clicked _ =>
      s.m_securityAccessCompleted = true
  | .on_btn_ECU_clicked _ | .on_btn_Tester_clicked _ | .session _ => True
  | .onUdsMessageReceived msg =>
      msg.isNegativeResponse = false ∧ msg.serviceId = 0x67 ∧
        (msg.subFunction = 0x01 ∨
          msg.subFunction = 0x02 ∧
            (s.m_pendingOperation = .enterExtendedSession ∨
              s.m_pendingOperation = .enterProgrammingSession))
  | .currentIndexChanged _ | .on_btn_ConnectCan_clicked _ _ _ | .on_stress_btn_clicked _
  | .startTest _ _ _ _ | .windowsClosed => False

/-- The event makes the stress monitor ask for a request. -/
def MonitorSends (p : ClientProcess) (event : MonitorEvent) : Prop :=
  ∃ t ∈ p.m_monitor, ∃ rest mem, nextCall t event = some (.sendFrameTimeout mem, rest) ∧
    t.monitor.m_sendTimer.isSome = true

/-- A request is sent while the CAN channel is selected. -/
def SendsOnCan (p : ClientProcess) (event : ClientEvent) : Prop :=
  p.ended = false ∧ p.currentIndex ≠ 1 ∧
    match event with
    | .window event => p.waitsForInit = false ∧ Sends p.client event
    | .can _ => False
    | .monitor event => MonitorSends p event

/-! ## Where requests go -/

/-- The call that sends data on the selected channel. -/
def routed (p : ClientProcess) (data : QByteArray) : Posted where
  worker := if p.currentIndex = 1 then .tcpWorker else .canWorker
  currentIndex := p.currentIndex
  call := .sendUdsData data

theorem no_request_of_nil {posted : List Posted} (h : posted = []) :
    ∀ q ∈ posted, ¬ q.call.IsRequest :=
  fun _ hq => absurd (h ▸ hq) List.not_mem_nil

section

variable (p : ClientProcess) (memory : IsoTpBuffers isoTpBufferSize)

theorem sendOnChannel_posted (data : QByteArray) : (p.sendOnChannel data).2 = [p.routed data] := by
  unfold sendOnChannel routed
  split_ifs with htcp
  · rfl
  · rfl

/-- The instance is there when it is asked for, so nothing falls back to TCP. -/
theorem sendOrFallBack_posted (data : QByteArray) :
    (p.sendOrFallBack memory data).2 = [p.routed data] := by
  unfold sendOrFallBack routed
  split_ifs with htcp
  · rfl
  · -- `isNone` of an instance that was just made
    rfl

theorem sendUDSRequest_posted (msg : UDSMessage) :
    (p.sendUDSRequest memory msg).2 =
      if p.client.m_securityAccessCompleted = true ∨ msg.serviceId = 0x3E ∨ msg.serviceId = 0x11
      then [p.routed (serializeUDSMessage msg)] else [] := by
  unfold sendUDSRequest
  by_cases hcompleted : p.client.m_securityAccessCompleted = true
  · rw [if_neg fun h => h.1 hcompleted, if_pos (.inl hcompleted)]
    exact sendOrFallBack_posted p memory _
  · by_cases hskip : msg.serviceId = 0x3E ∨ msg.serviceId = 0x11
    · rw [if_neg fun h => h.2 hskip, if_pos (.inr hskip)]
      exact sendOrFallBack_posted p memory _
    · rw [if_pos ⟨hcompleted, hskip⟩, if_neg]
      rintro (h | h)
      · exact hcompleted h
      · exact hskip h

theorem enterSession_posted (subFunction : UInt8) (pendingOp : PendingOperationType) :
    ∃ data, (p.enterSession memory subFunction pendingOp).2 = [p.routed data] := by
  unfold enterSession
  simp only
  split_ifs with hneed
  · exact ⟨_, sendOnChannel_posted _ _⟩
  · exact ⟨_, sendOrFallBack_posted _ memory _⟩

theorem readData_posted (mem : UDSMessage.Memory) (payload : QByteArray) :
    (p.readData memory mem payload).2 =
      if p.client.m_securityAccessCompleted = true then
        [p.routed (0x22 :: mem.subFunction :: payload)]
      else [] := by
  rw [readData, sendUDSRequest_posted]
  have hskip : ¬ ((0x22 : UInt8) = 0x3E ∨ (0x22 : UInt8) = 0x11) := by decide
  by_cases hcompleted : p.client.m_securityAccessCompleted = true
  · rw [if_pos (.inl hcompleted), if_pos hcompleted]
    rfl
  · rw [if_neg fun h => h.elim hcompleted hskip, if_neg hcompleted]

theorem startPending_of_pending (h : p.client.m_pendingOperation = .enterExtendedSession ∨
    p.client.m_pendingOperation = .enterProgrammingSession) :
    ∃ data, (p.startPending memory).2 = [p.routed data] := by
  unfold startPending
  rcases h with h | h
  · rw [h]
    exact enterSession_posted p memory 0x03 .enterExtendedSession
  · rw [h]
    exact enterSession_posted p memory 0x02 .enterProgrammingSession

theorem startPending_of_not_pending (h : ¬ (p.client.m_pendingOperation = .enterExtendedSession ∨
    p.client.m_pendingOperation = .enterProgrammingSession)) : (p.startPending memory).2 = [] := by
  unfold startPending
  cases hpending : p.client.m_pendingOperation with
  | noOperation | readData | otherOperation => rfl
  | enterExtendedSession => exact absurd (.inl hpending) h
  | enterProgrammingSession => exact absurd (.inr hpending) h

theorem onUdsMessageReceived_of_sends {msg : UDSMessage}
    (h : Sends p.client (.onUdsMessageReceived msg)) :
    ∃ data, (p.onUdsMessageReceived memory msg).2 = [p.routed data] := by
  rcases h with ⟨hpositive, hsid, hseed | ⟨hkey, hpending⟩⟩
  · refine ⟨Client.sendSecurityKey (calculateKeyFromSeed msg.payload), ?_⟩
    unfold onUdsMessageReceived
    rw [if_neg (by rw [hsid]; decide), if_neg (by rw [hpositive]; decide), if_pos ⟨hsid, hseed⟩]
    exact sendOnChannel_posted p _
  · unfold onUdsMessageReceived
    rw [if_neg (by rw [hsid]; decide), if_neg (by rw [hpositive]; decide),
      if_neg fun hseed => absurd (hkey.symm.trans hseed.2) (by decide), if_pos ⟨hsid, hkey⟩]
    exact startPending_of_pending _ memory hpending

theorem onUdsMessageReceived_of_not_sends {msg : UDSMessage}
    (h : ¬ Sends p.client (.onUdsMessageReceived msg)) :
    (p.onUdsMessageReceived memory msg).2 = [] := by
  unfold onUdsMessageReceived
  split_ifs with hzero hneg hseed hkey
  · rfl
  · rfl
  · exact absurd ⟨by simpa using hneg, hseed.1, .inl hseed.2⟩ h
  · refine startPending_of_not_pending _ memory ?_
    intro hpending
    exact h ⟨by simpa using hneg, hkey.1, .inr ⟨hkey.2, hpending⟩⟩
  · rfl

/-- An event that sends posts one call, on the selected channel. -/
theorem onWindow_of_sends {event : WindowEvent} (h : Sends p.client event) :
    ∃ data, (p.onWindow memory event).2 = [p.routed data] := by
  cases event with
  | on_btn_load_clicked mem | on_btn_usage_clicked mem | on_btn_ReadTemp_clicked mem =>
      exact ⟨_, (readData_posted p memory mem _).trans (if_pos h)⟩
  | on_btn_ECU_clicked mem =>
      exact ⟨_, (sendUDSRequest_posted p memory _).trans (if_pos (.inr (.inr rfl)))⟩
  | on_btn_Tester_clicked mem =>
      exact ⟨_, (sendUDSRequest_posted p memory _).trans (if_pos (.inr (.inl rfl)))⟩
  | session button =>
      cases button with
      | exBtn => exact enterSession_posted p memory 0x03 .enterExtendedSession
      | defaultBtn => exact enterSession_posted p memory 0x01 .otherOperation
      | codeBtn => exact enterSession_posted p memory 0x02 .enterProgrammingSession
  | onUdsMessageReceived msg =>
      exact onUdsMessageReceived_of_sends p memory h
  | currentIndexChanged index => exact absurd h id
  | on_btn_ConnectCan_clicked plugin iface result => exact absurd h id
  | on_stress_btn_clicked m_stepIntervalMs => exact absurd h id
  | startTest startFreq maxFreq stepFreq stepMs => exact absurd h id
  | windowsClosed => exact absurd h id

/-- Any other event posts no request. -/
theorem onWindow_of_not_sends {event : WindowEvent} (h : ¬ Sends p.client event) :
    ∀ q ∈ (p.onWindow memory event).2, ¬ q.call.IsRequest := by
  cases event with
  | on_btn_load_clicked mem | on_btn_usage_clicked mem | on_btn_ReadTemp_clicked mem =>
      exact no_request_of_nil ((readData_posted p memory mem _).trans (if_neg h))
  | on_btn_ECU_clicked mem => exact absurd trivial h
  | on_btn_Tester_clicked mem => exact absurd trivial h
  | session button => exact absurd trivial h
  | onUdsMessageReceived msg =>
      exact no_request_of_nil (onUdsMessageReceived_of_not_sends p memory h)
  | on_btn_ConnectCan_clicked plugin iface result =>
      simp only [onWindow, on_btn_ConnectCan_clicked]
      split_ifs with hplugin hiface
      · exact no_request_of_nil rfl
      · exact no_request_of_nil rfl
      · intro q hq
        rcases List.mem_singleton.1 hq with rfl
        exact id
  | currentIndexChanged index => exact no_request_of_nil rfl
  | on_stress_btn_clicked m_stepIntervalMs => exact no_request_of_nil rfl
  | startTest startFreq maxFreq stepFreq stepMs => exact no_request_of_nil rfl
  | windowsClosed => exact no_request_of_nil rfl

/-- What a slot of the monitor asks to send. -/
theorem requestToSend_call (m : StressTestMonitor) (c : MonitorCall) :
    (m.call c).2.filterMap p.requestToSend = [] ∨
      ∃ mem msg, c = .sendFrameTimeout mem ∧ m.m_sendTimer.isSome = true ∧
        (m.call c).2.filterMap p.requestToSend =
          [{ worker := .canWorker, currentIndex := p.currentIndex, call := .sendUdsMessage msg }] := by
  cases c with
  | timerTimeout =>
      simp only [StressTestMonitor.call]
      cases m.m_timer with
      | none => exact .inl rfl
      | some timer => exact .inl rfl
  | pressureIncreaseTimeout =>
      simp only [StressTestMonitor.call]
      split_ifs with hactive
      · exact .inl rfl
      · exact .inl rfl
  | sendFrameTimeout mem =>
      cases htimer : m.m_sendTimer with
      | none =>
          simp only [StressTestMonitor.call, htimer]
          exact .inl rfl
      | some timer =>
          refine .inr ⟨mem,
            { UDSMessage.declare mem with serviceId := 0x3E, subFunction := 0x00 }, rfl, rfl, ?_⟩
          simp only [StressTestMonitor.call, htimer]
          rfl
  | _ => exact .inl rfl

theorem onMonitor_of_sends {event : MonitorEvent} (h : MonitorSends p event) :
    ∃ msg, (p.onMonitor event).2 =
      [{ worker := .canWorker, currentIndex := p.currentIndex, call := .sendUdsMessage msg }] := by
  rcases h with ⟨t, ht, rest, mem, hnext, htimer⟩
  simp only [onMonitor, Option.mem_def.1 ht, hnext, runMonitor, StressTestMonitor.call, htimer]
  exact ⟨_, rfl⟩

theorem onMonitor_of_not_sends {event : MonitorEvent} (h : ¬ MonitorSends p event) :
    (p.onMonitor event).2 = [] := by
  unfold onMonitor
  cases hmonitor : p.m_monitor with
  | none => rfl
  | some t =>
      cases hnext : nextCall t event with
      | none => simp only [hnext]
      | some next =>
          rcases next with ⟨c, rest⟩
          simp only [hnext, runMonitor]
          rcases requestToSend_call p t.monitor c with hnone | ⟨mem, msg, rfl, htimer, -⟩
          · exact hnone
          · exact absurd ⟨t, hmonitor, rest, mem, hnext, htimer⟩ h

end

/-! ## Before an `init` -/

/-- A request that is posted while CAN is selected goes to the TCP worker. -/
def Harmless (q : Posted) : Prop :=
  q.call.IsRequest → q.currentIndex ≠ 1 → q.worker = .tcpWorker

/-- No `init` has run, and the CAN thread has no request posted while CAN was selected. -/
structure NotReady (p : ClientProcess) : Prop where
  m_interface : p.canWorker.m_interface = false
  queue : ∀ q ∈ p.canQueue, q.call.IsRequest → q.currentIndex = 1

section

variable {p : ClientProcess} (memory : IsoTpBuffers isoTpBufferSize)

theorem NotReady.append (h : NotReady p) {p' : ClientProcess}
    (hinterface : p'.canWorker.m_interface = p.canWorker.m_interface)
    (hqueue : ∀ q ∈ p'.canQueue, q ∈ p.canQueue ∨ (q.worker = .canWorker ∧ Harmless q)) :
    NotReady p' where
  m_interface := hinterface.trans h.m_interface
  queue q hq hrequest := by
    rcases hqueue q hq with hold | ⟨hworker, hharmless⟩
    · exact h.queue q hold hrequest
    · -- a harmless request that still reaches the CAN worker was posted with TCP selected
      by_contra hindex
      exact absurd (hworker.symm.trans (hharmless hrequest hindex)) (by decide)

theorem NotReady.onWindow (h : NotReady p) {event : WindowEvent}
    (hharmless : ∀ q ∈ (p.onWindow memory event).2, Harmless q) :
    NotReady (p.onWindow memory event).1 := by
  by_cases htest : IsTestEvent event
  · rcases onWindow_of_test memory p htest with ⟨hworker, hqueue, -⟩
    refine h.append (congrArg CanWorker.m_interface hworker) ?_
    intro q hq
    exact .inl (hqueue ▸ hq)
  · have hposts := posts_onWindow memory p htest
    refine h.append ?_ ?_
    · rcases hposts.canWorker with hsame | hcreated
      · exact congrArg CanWorker.m_interface hsame
      · rw [hcreated]
        rfl
    · intro q hq
      rw [hposts.canQueue, List.mem_append, List.mem_filter] at hq
      rcases hq with hold | ⟨hposted, hworker⟩
      · exact .inl hold
      · exact .inr ⟨of_decide_eq_true hworker, hharmless q hposted⟩

theorem NotReady.onMonitor (h : NotReady p) {event : MonitorEvent}
    (hharmless : ∀ q ∈ (p.onMonitor event).2, Harmless q) : NotReady (p.onMonitor event).1 := by
  have key : (p.onMonitor event).1.canQueue = p.canQueue ++ (p.onMonitor event).2 := by
    unfold ClientProcess.onMonitor
    cases p.m_monitor with
    | none => exact (List.append_nil _).symm
    | some t =>
        cases hnext : nextCall t event with
        | none =>
            simp only [hnext]
            exact (List.append_nil _).symm
        | some next =>
            simp only [hnext]
            rfl
  refine h.append (congrArg CanWorker.m_interface (canWorker_onMonitor p event)) ?_
  -- the monitor posts to the CAN worker only, whatever channel is selected
  intro q hq
  rw [key, List.mem_append] at hq
  rcases hq with hold | hposted
  · exact .inl hold
  · refine .inr ⟨?_, hharmless q hposted⟩
    by_cases hsends : MonitorSends p event
    · rcases onMonitor_of_sends p hsends with ⟨msg, hmsg⟩
      rcases List.mem_singleton.1 (hmsg ▸ hposted) with rfl
      rfl
    · rw [onMonitor_of_not_sends p hsends] at hposted
      exact absurd hposted List.not_mem_nil

/-- A request finds no interface and does nothing to the worker. -/
theorem runCall_of_request {w : CanWorker} (hinterface : w.m_interface = false) (ms : UInt32)
    {call : WorkerCall} (hrequest : call.IsRequest) :
    (runCall w memory ms call).1 = w ∧
      (runCall w memory ms call).2.null = some .m_interface := by
  have hnone : w.interface = none := by
    unfold CanWorker.interface
    rw [hinterface]
    rfl
  cases call with
  | init result => exact absurd hrequest id
  | sendUdsData data =>
      rw [runCall, CanWorker.sendUdsData, hnone]
      exact ⟨rfl, rfl⟩
  | sendUdsMessage msg =>
      rw [runCall, CanWorker.sendUdsMessage, hnone]
      exact ⟨rfl, rfl⟩

/-- So every request that the CAN thread takes up ends the process. -/
theorem ended_of_request (hinterface : p.canWorker.m_interface = false) {q : Posted}
    {rest : List Posted} (hqueue : p.canQueue = q :: rest) (hrequest : q.call.IsRequest)
    (ms : UInt32) : (p.runPosted memory ms).1.ended = true := by
  unfold runPosted
  rw [hqueue]
  change (runCall p.canWorker memory ms q.call).2.null.isSome = true
  rw [(runCall_of_request memory hinterface ms hrequest).2]
  rfl

/-- A step that posts nothing and takes up no call is safe. -/
theorem safeAnswer_of_idle {answer : ClientAnswer} (hposted : answer.posted = [])
    (hran : answer.ran = none) : SafeAnswer answer where
  toTcp _ hq := absurd (hposted ▸ hq) List.not_mem_nil
  notNull q hq := absurd (hran.symm.trans (Option.mem_def.1 hq)) (Option.some_ne_none q).symm

/-- The worker has its two pointers as before. -/
def SamePointers (w w' : CanWorker) : Prop :=
  w'.m_interface = w.m_interface ∧ w'.m_instance.isSome = w.m_instance.isSome

theorem samePointers_update {w : CanWorker} {c : CanInterFaceObject} (h : w.m_instance = some c)
    (c' : CanInterFaceObject) : SamePointers w { w with m_instance := some c' } := by
  refine ⟨rfl, ?_⟩
  rw [h]
  rfl

theorem samePointers_onFramesReceived (w : CanWorker) (ms : UInt32) (mem : UDSMessage.Memory)
    (qFrame : QCanBusFrame) : SamePointers w (w.onFramesReceived ms mem qFrame).1 := by
  unfold CanWorker.onFramesReceived
  cases hinstance : w.m_instance with
  | none => exact ⟨rfl, rfl⟩
  | some c => exact samePointers_update hinstance _

theorem samePointers_pollTimeout (w : CanWorker) (ms : UInt32) (mem : UDSMessage.Memory) :
    SamePointers w (w.pollTimeout ms mem).1 := by
  unfold CanWorker.pollTimeout
  cases hinstance : w.m_instance with
  | none => exact ⟨rfl, rfl⟩
  | some c => exact samePointers_update hinstance _

theorem samePointers_tryReconnect (w : CanWorker) (result : DeviceResult) :
    SamePointers w (w.tryReconnect result).1 := by
  unfold CanWorker.tryReconnect
  cases hinstance : w.m_instance with
  | none => exact ⟨rfl, rfl⟩
  | some c =>
      simp only
      cases c.tryReconnect result with
      | none => exact ⟨rfl, rfl⟩
      | some done => exact samePointers_update hinstance _

/-- The slots of the instance leave the pointers of the worker and its queue alone. -/
theorem onCan_of_not_posted (p : ClientProcess) {event : CanEvent}
    (h : ∀ ms, event ≠ .posted ms) :
    SamePointers p.canWorker (p.onCan memory event).1.canWorker ∧
      (p.onCan memory event).1.canQueue = p.canQueue := by
  cases event with
  | posted ms => exact absurd rfl (h ms)
  | framesReceived ms mem qFrame => exact ⟨samePointers_onFramesReceived _ ms mem qFrame, rfl⟩
  | pollTimeout ms mem => exact ⟨samePointers_pollTimeout _ ms mem, rfl⟩
  | errorOccurred => exact ⟨⟨rfl, Option.isSome_map⟩, rfl⟩
  | tryReconnect result => exact ⟨samePointers_tryReconnect _ result, rfl⟩

theorem NotReady.onCan (h : NotReady p) {event : CanEvent}
    (hinit : RunsNoInit (p.onCan memory event).2) :
    NotReady (p.onCan memory event).1 ∧ SafeAnswer (p.onCan memory event).2 := by
  by_cases hposted : ∃ ms, event = .posted ms
  · rcases hposted with ⟨ms, rfl⟩
    cases hqueue : p.canQueue with
    | nil =>
        simp only [ClientProcess.onCan, runPosted, hqueue]
        exact ⟨h, safeAnswer_of_idle rfl rfl⟩
    | cons q rest =>
        simp only [ClientProcess.onCan, runPosted, hqueue] at hinit ⊢
        -- no `init` is taken up, so the call is a request, and it was posted with TCP selected
        have hrequest : q.call.IsRequest := hinit q rfl
        have hindex : q.currentIndex = 1 := h.queue q (by rw [hqueue]; simp) hrequest
        rcases runCall_of_request memory h.m_interface ms hrequest with ⟨hworker, -⟩
        constructor
        · refine h.append (congrArg CanWorker.m_interface hworker) ?_
          intro q' hq'
          refine .inl ?_
          rw [hqueue]
          exact List.mem_cons_of_mem _ hq'
        · refine ⟨fun _ hq' => absurd hq' List.not_mem_nil, ?_⟩
          intro q' hq' hne
          rcases Option.mem_some.1 hq' with rfl
          exact absurd hindex hne
  · rcases onCan_of_not_posted memory p (fun ms hms => hposted ⟨ms, hms⟩) with
      ⟨hsame, hqueue⟩
    constructor
    · exact h.append hsame.1 fun q hq => .inl (hqueue ▸ hq)
    · cases event with
      | posted ms => exact absurd ⟨ms, rfl⟩ hposted
      | _ => exact safeAnswer_of_idle rfl rfl

/-! ## Safe steps -/

theorem safeAnswer_posted {posted : List Posted} :
    SafeAnswer { posted := posted } ↔ ∀ q ∈ posted, Harmless q :=
  ⟨fun h => h.toTcp, fun h => ⟨h, fun _ hq => absurd (Option.mem_def.1 hq).symm (Option.some_ne_none _)⟩⟩

theorem onWindow_harmless_iff (p : ClientProcess) (event : WindowEvent) :
    (∀ q ∈ (p.onWindow memory event).2, Harmless q) ↔
      ¬ (p.currentIndex ≠ 1 ∧ Sends p.client event) := by
  constructor
  · rintro h ⟨hindex, hsends⟩
    rcases onWindow_of_sends p memory hsends with ⟨data, hdata⟩
    have htcp := h (p.routed data) (by rw [hdata]; exact List.mem_singleton_self _) trivial hindex
    rw [routed, if_neg hindex] at htcp
    exact absurd (show Worker.canWorker = .tcpWorker from htcp) (by decide)
  · intro h q hq hrequest hindex
    by_cases hsends : Sends p.client event
    · rcases onWindow_of_sends p memory hsends with ⟨data, hdata⟩
      rcases List.mem_singleton.1 (hdata ▸ hq) with rfl
      exact absurd ⟨hindex, hsends⟩ h
    · exact absurd hrequest (onWindow_of_not_sends p memory hsends q hq)

theorem onMonitor_harmless_iff (p : ClientProcess) (event : MonitorEvent) :
    (∀ q ∈ (p.onMonitor event).2, Harmless q) ↔ ¬ (p.currentIndex ≠ 1 ∧ MonitorSends p event) := by
  constructor
  · rintro h ⟨hindex, hsends⟩
    rcases onMonitor_of_sends p hsends with ⟨msg, hmsg⟩
    rw [hmsg] at h
    have htcp := h _ (List.mem_singleton_self _) trivial hindex
    exact absurd (show Worker.canWorker = .tcpWorker from htcp) (by decide)
  · intro h q hq _ hindex
    by_cases hsends : MonitorSends p event
    · rcases onMonitor_of_sends p hsends with ⟨msg, hmsg⟩
      rcases List.mem_singleton.1 (hmsg ▸ hq) with rfl
      exact absurd ⟨hindex, hsends⟩ h
    · rw [onMonitor_of_not_sends p hsends] at hq
      exact absurd hq List.not_mem_nil

/-- While no `init` has run, a step is safe exactly when it sends nothing on the CAN channel. -/
theorem NotReady.safe_iff (h : NotReady p) {event : ClientEvent}
    (hinit : RunsNoInit (step memory p event).2) :
    SafeAnswer (step memory p event).2 ↔ ¬ SendsOnCan p event := by
  have hidle : SafeAnswer {} := safeAnswer_of_idle rfl rfl
  have hcase := stepCase memory p event
  generalize step memory p event = done at hcase hinit ⊢
  cases hcase with
  | ended hended =>
      refine iff_of_true hidle fun hsends => ?_
      exact absurd (hended.symm.trans hsends.1) (by decide)
  | waits hended hwaits =>
      refine iff_of_true hidle fun hsends => ?_
      exact absurd (hwaits.symm.trans hsends.2.2.1) (by decide)
  | @window event hended hfree =>
      simp only [SendsOnCan, hended, hfree, true_and]
      exact safeAnswer_posted.trans (onWindow_harmless_iff memory p event)
  | can hended =>
      -- the CAN thread posts nothing, and what it takes up was posted with TCP selected
      exact iff_of_true (h.onCan memory hinit).2 fun hsends => hsends.2.2
  | @monitor event hended =>
      simp only [SendsOnCan, hended, true_and]
      exact safeAnswer_posted.trans (onMonitor_harmless_iff p event)

theorem NotReady.step (h : NotReady p) {event : ClientEvent}
    (hinit : RunsNoInit (ClientProcess.step memory p event).2)
    (hsafe : SafeAnswer (ClientProcess.step memory p event).2) :
    NotReady (ClientProcess.step memory p event).1 := by
  have hcase := stepCase memory p event
  generalize ClientProcess.step memory p event = done at hcase hinit hsafe ⊢
  cases hcase with
  | ended hended => exact h
  | waits hended hwaits => exact h
  | window hended hfree => exact h.onWindow memory (safeAnswer_posted.1 hsafe)
  | can hended => exact (h.onCan memory hinit).1
  | monitor hended => exact h.onMonitor (safeAnswer_posted.1 hsafe)

theorem notReady_init : NotReady (machine memory).init where
  m_interface := rfl
  queue _ hq := absurd hq List.not_mem_nil

end

/-! ## After an `init` -/

/-- `m_interface` points to the instance. -/
structure Connected (w : CanWorker) : Prop where
  m_interface : w.m_interface = true
  m_instance : w.m_instance.isSome = true

theorem Connected.interface {w : CanWorker} (h : Connected w) : w.interface.isSome = true := by
  unfold CanWorker.interface
  rw [if_pos h.m_interface]
  exact h.m_instance

theorem connected_init (w : CanWorker) (memory : IsoTpBuffers isoTpBufferSize)
    (result : DeviceResult) : Connected (w.init memory result).1 := by
  unfold CanWorker.init
  cases (w.Instance memory).init result with
  | none => exact ⟨rfl, rfl⟩
  | some done => exact ⟨rfl, rfl⟩

section

variable {p : ClientProcess} (memory : IsoTpBuffers isoTpBufferSize)

theorem Connected.runCall {w : CanWorker} (h : Connected w) (ms : UInt32) (call : WorkerCall) :
    Connected (ClientProcess.runCall w memory ms call).1 := by
  cases call with
  | init result => exact connected_init w memory result
  | sendUdsData data =>
      simp only [ClientProcess.runCall, CanWorker.sendUdsData]
      cases w.interface with
      | none => exact h
      | some c => exact ⟨h.m_interface, rfl⟩
  | sendUdsMessage msg =>
      simp only [ClientProcess.runCall, CanWorker.sendUdsMessage]
      cases w.interface with
      | none => exact h
      | some c => exact ⟨h.m_interface, rfl⟩

theorem Connected.onCan (h : Connected p.canWorker) (event : CanEvent) :
    Connected (p.onCan memory event).1.canWorker := by
  by_cases hposted : ∃ ms, event = .posted ms
  · rcases hposted with ⟨ms, rfl⟩
    simp only [ClientProcess.onCan, runPosted]
    cases p.canQueue with
    | nil => exact h
    | cons q rest => exact h.runCall memory ms q.call
  · rcases onCan_of_not_posted memory p (fun ms hms => hposted ⟨ms, hms⟩) with
      ⟨hsame, -⟩
    exact ⟨hsame.1.trans h.m_interface, hsame.2.trans h.m_instance⟩

theorem Connected.onWindow (h : Connected p.canWorker) (event : WindowEvent) :
    Connected (p.onWindow memory event).1.canWorker := by
  by_cases htest : IsTestEvent event
  · rw [(onWindow_of_test memory p htest).1]
    exact h
  · rcases (posts_onWindow memory p htest).canWorker with hsame | hcreated
    · rw [hsame]
      exact h
    · rw [hcreated]
      exact ⟨h.m_interface, rfl⟩

theorem Connected.step (h : Connected p.canWorker) (event : ClientEvent) :
    Connected (ClientProcess.step memory p event).1.canWorker := by
  have hcase := stepCase memory p event
  generalize ClientProcess.step memory p event = done at hcase ⊢
  cases hcase with
  | ended hended => exact h
  | waits hended hwaits => exact h
  | window hended hfree => exact h.onWindow memory _
  | can hended => exact h.onCan memory _
  | monitor hended =>
      rw [canWorker_onMonitor]
      exact h

/-- A call that is no request is an `init`, and it sets the pointer. -/
theorem connected_runPosted {ms : UInt32} (h : ¬ RunsNoInit (p.runPosted memory ms).2) :
    Connected (p.runPosted memory ms).1.canWorker := by
  unfold runPosted at h ⊢
  cases hqueue : p.canQueue with
  | nil =>
      rw [hqueue] at h
      exact absurd (runsNoInit_of_none rfl) h
  | cons q rest =>
      rw [hqueue] at h
      cases hcall : q.call with
      | init result =>
          simp only [hcall]
          exact connected_init p.canWorker memory result
      | sendUdsData data | sendUdsMessage msg =>
          refine absurd ?_ h
          intro q' hq'
          rcases Option.mem_some.1 hq' with rfl
          rw [hcall]
          trivial

/-- A step that takes up an `init` sets the pointer. -/
theorem connected_of_init {event : ClientEvent}
    (h : ¬ RunsNoInit (ClientProcess.step memory p event).2) :
    Connected (ClientProcess.step memory p event).1.canWorker := by
  have hcase := stepCase memory p event
  generalize ClientProcess.step memory p event = done at hcase h ⊢
  cases hcase with
  | ended hended => exact absurd (runsNoInit_of_none rfl) h
  | waits hended hwaits => exact absurd (runsNoInit_of_none rfl) h
  | window hended hfree => exact absurd (runsNoInit_of_none rfl) h
  | monitor hended => exact absurd (runsNoInit_of_none rfl) h
  | @can event hended =>
      cases event with
      | posted ms => exact connected_runPosted memory h
      | _ => exact absurd (runsNoInit_of_none rfl) h

end

/-- Once an `init` has run, `m_interface` is set for good. -/
theorem connected_after {memory : IsoTpBuffers isoTpBufferSize} {events : List ClientEvent}
    (h : ¬ BeforeInit memory events) : Connected ((machine memory).after events).canWorker := by
  induction events using List.reverseRecOn with
  | nil => exact absurd (fun _ he => absurd he List.not_mem_nil) h
  | append_singleton events event ih =>
      rw [(machine memory).after_snoc]
      by_cases hbefore : BeforeInit memory events
      · -- the last step took up the first `init`
        refine connected_of_init memory fun hnone => h ?_
        intro e he
        rw [(machine memory).history_snoc, List.mem_append, List.mem_singleton] at he
        rcases he with he | rfl
        · exact hbefore e he
        · exact hnone
      · exact (ih hbefore).step memory event

/-- From then on every call finds the interface. -/
theorem interface_after_init {memory : IsoTpBuffers isoTpBufferSize} {events : List ClientEvent}
    (h : ¬ BeforeInit memory events) :
    ((machine memory).after events).canWorker.interface.isSome = true :=
  (connected_after h).interface

/-! ## Whole runs -/

/-- A run in which no `init` has run yet is safe exactly when none of its steps sends a request while
the CAN channel is selected. -/
theorem safeRun_iff (memory : IsoTpBuffers isoTpBufferSize) {events : List ClientEvent}
    (h : BeforeInit memory events) :
    SafeRun memory events ↔
      (machine memory).Along (fun p event => ¬ SendsOnCan p event) (machine memory).init events := by
  have hinit := (machine memory).forall_trace_iff_along.1 h
  calc
    SafeRun memory events
        ↔ (machine memory).Along (fun p event => SafeAnswer (step memory p event).2)
            (machine memory).init events :=
          (machine memory).forall_trace_iff_along
    _ ↔ (machine memory).Along (fun p event => ¬ SendsOnCan p event) (machine memory).init
          events := by
        -- safe steps that take up no `init` keep `NotReady`, and under it the two conditions agree
        refine (machine memory).along_iff_along (I := NotReady) ?_ ?_ (notReady_init memory) hinit
        · intro p event hp hrun
          exact hp.safe_iff memory hrun
        · intro p event hp hrun hnot
          exact hp.step memory hrun ((hp.safe_iff memory hrun).2 hnot)

/-- With TCP selected the tester request passes the CAN worker by. -/
theorem safeRun_testerOnTcp :
    BeforeInit (.zero _)
        [.window (.currentIndexChanged 1), .window (.on_btn_Tester_clicked {})] ∧
      SafeRun (.zero _)
        [.window (.currentIndexChanged 1), .window (.on_btn_Tester_clicked {})] := by
  have hinit : BeforeInit (.zero _)
      [.window (.currentIndexChanged 1), .window (.on_btn_Tester_clicked {})] := by decide
  refine ⟨hinit, (safeRun_iff (.zero _) hinit).2 ⟨?_, ?_, trivial⟩⟩
  · exact fun hsends => hsends.2.2.2
  · exact fun hsends => hsends.2.1 rfl

/-- The channel box of a new window is at CAN.  The tester button needs no security access and no
connection; its request goes to the CAN worker, which uses a null pointer. -/
theorem not_safeRun_testerOnCan :
    BeforeInit (.zero _) [.window (.on_btn_Tester_clicked {}), .can (.posted 0)] ∧
      ¬ SafeRun (.zero _) [.window (.on_btn_Tester_clicked {}), .can (.posted 0)] := by
  refine ⟨by decide, ?_⟩
  intro hsafe
  have hmem : ((.can (.posted 0),
      { ran := some ⟨.canWorker, 0, .sendUdsData [0x3E, 0x00]⟩
        outcome := { null := some .m_interface } }) : ClientEvent × ClientAnswer) ∈
      (machine (.zero _)).history [.window (.on_btn_Tester_clicked {}), .can (.posted 0)] :=
    List.mem_cons_of_mem _ (List.mem_singleton.2 rfl)
  exact (hsafe _ hmem).notNull _ rfl (by decide) rfl

end ClientProcess
end Client
end TcpCanUds
