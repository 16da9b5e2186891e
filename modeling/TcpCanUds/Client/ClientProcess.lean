import TcpCanUds.Client.CanWorker
import TcpCanUds.Client.Client
import TcpCanUds.Client.StressTestMonitor

/-!
# ClientProcess — the threads of the client and the calls between them (`client/client.cpp`)

The window, the CAN thread and the stress monitor run in three threads and reach each other by queued
calls, first in first out.  One event is one slot that runs to its end.  Of the TCP thread only the
calls posted to it are kept, and a response may reach the window at any time, whichever worker it
comes from.
-/

namespace TcpCanUds
namespace Client

open Lib

/-! ## State -/

inductive Worker where
  | tcpWorker
  | canWorker
  deriving DecidableEq, Repr

inductive WorkerCall where
  | init (result : DeviceResult)
  | sendUdsData (data : QByteArray)
  | sendUdsMessage (msg : UDSMessage)
  deriving DecidableEq, Repr

/-- A queued call, with the index that the channel box had when it was posted. -/
structure Posted where
  worker : Worker
  currentIndex : Int
  call : WorkerCall
  deriving DecidableEq, Repr

/-- The stress monitor, and the calls posted to its thread. -/
structure MonitorThread where
  monitor : StressTestMonitor
  queue : List MonitorCall := []
  deriving DecidableEq, Repr

structure ClientProcess where
  client : ClientState := {}
  /-- of `comboBox_Channel`: `0` is CAN and `1` is TCP -/
  currentIndex : Int := 0
  canWorker : CanWorker := {}
  canQueue : List Posted := []
  m_monitor : Option MonitorThread := none
  /-- the window stands in the blocking call of `init` -/
  waitsForInit : Bool := false
  /-- a null pointer was used -/
  ended : Bool := false

inductive WindowEvent where
  | currentIndexChanged (index : Int)
  | on_btn_load_clicked (mem : UDSMessage.Memory)
  | on_btn_usage_clicked (mem : UDSMessage.Memory)
  | on_btn_ReadTemp_clicked (mem : UDSMessage.Memory)
  | on_btn_ECU_clicked (mem : UDSMessage.Memory)
  | on_btn_Tester_clicked (mem : UDSMessage.Memory)
  | session (button : SessionButton)
  /-- the answers to the two dialogs, when they are not cancelled -/
  | on_btn_ConnectCan_clicked (plugin iface : Option String) (result : DeviceResult)
  | onUdsMessageReceived (msg : UDSMessage)
  /-- `on_stress_btn_clicked` up to its dialogs; the memory under the member that has no initialiser -/
  | on_stress_btn_clicked (m_stepIntervalMs : Int)
  /-- the dialogs of the stress test are answered -/
  | startTest (startFreq maxFreq stepFreq stepMs : Int)
  | windowsClosed
  deriving DecidableEq, Repr

inductive CanEvent where
  /-- the next posted call -/
  | posted (ms : UInt32)
  | framesReceived (ms : UInt32) (mem : UDSMessage.Memory) (qFrame : QCanBusFrame)
  | pollTimeout (ms : UInt32) (mem : UDSMessage.Memory)
  | errorOccurred
  | tryReconnect (result : DeviceResult)
  deriving DecidableEq, Repr

inductive MonitorEvent where
  /-- the next posted call -/
  | posted
  | timerTimeout
  | pressureIncreaseTimeout
  | sendFrameTimeout (mem : UDSMessage.Memory)
  | testFinished
  deriving DecidableEq, Repr

inductive ClientEvent where
  | window (event : WindowEvent)
  | can (event : CanEvent)
  | monitor (event : MonitorEvent)
  deriving DecidableEq, Repr

/-- What an event does beyond the state: the calls posted to the two workers, the call that the CAN
thread took up, and what came of it. -/
structure ClientAnswer where
  posted : List Posted := []
  ran : Option Posted := none
  outcome : CanWorkerOutcome := {}
  deriving DecidableEq, Repr

namespace ClientProcess

/-! ## The window -/

/-- `QMetaObject::invokeMethod` with a queued connection. -/
def post (p : ClientProcess) (worker : Worker) (call : WorkerCall) :
    ClientProcess × List Posted :=
  let posted : Posted := { worker := worker, currentIndex := p.currentIndex, call := call }
  match worker with
  | .tcpWorker => (p, [posted])
  | .canWorker => ({ p with canQueue := p.canQueue ++ [posted] }, [posted])

/-- How `requestSecurityAccess` and `sendSecurityKey` send: the instance is not asked for. -/
def sendOnChannel (p : ClientProcess) (data : QByteArray) : ClientProcess × List Posted :=
  if p.currentIndex = 1 then p.post .tcpWorker (.sendUdsData data)
  else p.post .canWorker (.sendUdsData data)

/-- How `sendUDSRequest` and `enterSession` send. -/
def sendOrFallBack (p : ClientProcess) (memory : IsoTpBuffers isoTpBufferSize)
    (data : QByteArray) : ClientProcess × List Posted :=
  if p.currentIndex = 1 then p.post .tcpWorker (.sendUdsData data)
  else
    let p := { p with canWorker := p.canWorker.createInstance memory }
    if p.canWorker.m_instance.isNone then
      -- fallback to TCP
      p.post .tcpWorker (.sendUdsData data)
    else p.post .canWorker (.sendUdsData data)

def requestSecurityAccess (p : ClientProcess) : ClientProcess × List Posted :=
  p.sendOnChannel Client.requestSecurityAccess

def sendSecurityKey (p : ClientProcess) (key : QByteArray) : ClientProcess × List Posted :=
  p.sendOnChannel (Client.sendSecurityKey key)

def sendUDSRequest (p : ClientProcess) (memory : IsoTpBuffers isoTpBufferSize) (msg : UDSMessage) :
    ClientProcess × List Posted :=
  let skipAuth := msg.serviceId = 0x3E ∨ msg.serviceId = 0x11
  if ¬ p.client.m_securityAccessCompleted ∧ ¬ skipAuth then (p, [])
  else p.sendOrFallBack memory (serializeUDSMessage msg)

/-- The members change as `Client.enterSession` says; here is where the data goes. -/
def enterSession (p : ClientProcess) (memory : IsoTpBuffers isoTpBufferSize) (subFunction : UInt8)
    (pendingOp : PendingOperationType) : ClientProcess × List Posted :=
  let needSecurityAccess :=
    (subFunction = 0x03 ∨ subFunction = 0x02) ∧ ¬ p.client.m_securityAccessCompleted
  let p := { p with client := (Client.enterSession p.client subFunction pendingOp).1 }
  if needSecurityAccess then p.requestSecurityAccess
  else p.sendOrFallBack memory (request UdsSid.diagnosticSessionControl subFunction [])

/-- A read button: the sub-function is what the memory held. -/
def readData (p : ClientProcess) (memory : IsoTpBuffers isoTpBufferSize) (mem : UDSMessage.Memory)
    (payload : QByteArray) : ClientProcess × List Posted :=
  p.sendUDSRequest memory
    { UDSMessage.declare mem with serviceId := 0x22, payload := payload }

def on_btn_load_clicked (p : ClientProcess) (memory : IsoTpBuffers isoTpBufferSize)
    (mem : UDSMessage.Memory) : ClientProcess × List Posted :=
  p.readData memory mem [0x91, 0xCC]

def on_btn_usage_clicked (p : ClientProcess) (memory : IsoTpBuffers isoTpBufferSize)
    (mem : UDSMessage.Memory) : ClientProcess × List Posted :=
  p.readData memory mem [0x92, 0xCC]

def on_btn_ReadTemp_clicked (p : ClientProcess) (memory : IsoTpBuffers isoTpBufferSize)
    (mem : UDSMessage.Memory) : ClientProcess × List Posted :=
  p.readData memory mem [0x90, 0xCC]

def on_btn_ECU_clicked (p : ClientProcess) (memory : IsoTpBuffers isoTpBufferSize)
    (mem : UDSMessage.Memory) : ClientProcess × List Posted :=
  p.sendUDSRequest memory { UDSMessage.declare mem with serviceId := 0x11, subFunction := 0x01 }

def on_btn_Tester_clicked (p : ClientProcess) (memory : IsoTpBuffers isoTpBufferSize)
    (mem : UDSMessage.Memory) : ClientProcess × List Posted :=
  p.sendUDSRequest memory { UDSMessage.declare mem with serviceId := 0x3E, subFunction := 0x00 }

/-- The session buttons. -/
def onClicked (p : ClientProcess) (memory : IsoTpBuffers isoTpBufferSize) :
    SessionButton → ClientProcess × List Posted
  | .exBtn => p.enterSession memory 0x03 .enterExtendedSession
  | .defaultBtn => p.enterSession memory 0x01 .otherOperation
  | .codeBtn => p.enterSession memory 0x02 .enterProgrammingSession

/-- The operation that waited for the security access is started and then cleared. -/
def startPending (p : ClientProcess) (memory : IsoTpBuffers isoTpBufferSize) :
    ClientProcess × List Posted :=
  let started :=
    match p.client.m_pendingOperation with
    | .enterExtendedSession => p.enterSession memory 0x03 .enterExtendedSession
    | .enterProgrammingSession => p.enterSession memory 0x02 .enterProgrammingSession
    | .noOperation | .readData | .otherOperation => (p, [])
  ({ started.1 with client := { started.1.client with m_pendingOperation := .noOperation } },
    started.2)

def onUdsMessageReceived (p : ClientProcess) (memory : IsoTpBuffers isoTpBufferSize)
    (msg : UDSMessage) : ClientProcess × List Posted :=
  if msg.serviceId = 0 then (p, [])
  else if msg.isNegativeResponse then (p, [])
  else if msg.serviceId = 0x67 ∧ msg.subFunction = 0x01 then
    p.sendSecurityKey (calculateKeyFromSeed msg.payload)
  else if msg.serviceId = 0x67 ∧ msg.subFunction = 0x02 then
    startPending
      { p with
        client :=
          { p.client with
            m_securityAccessCompleted := true, m_waitingForSecurityAccess := false } }
      memory
  else (p, [])

/-- A cancelled dialog or an empty name ends it before `init`. -/
def on_btn_ConnectCan_clicked (p : ClientProcess) (plugin iface : Option String)
    (result : DeviceResult) : ClientProcess × List Posted :=
  if (plugin.getD "").isEmpty then (p, [])
  else if (iface.getD "").isEmpty then (p, [])
  else { p with waitsForInit := true }.post .canWorker (.init result)

/-- An old monitor is deleted, with the calls posted to it. -/
def on_stress_btn_clicked (p : ClientProcess) (m_stepIntervalMs : Int) : ClientProcess :=
  { p with m_monitor := some { monitor := .new m_stepIntervalMs } }

/-- Calls posted to the monitor's thread. -/
def postToMonitor (p : ClientProcess) (calls : List MonitorCall) : ClientProcess :=
  { p with m_monitor := p.m_monitor.map fun t => { t with queue := t.queue ++ calls } }

def startTest (p : ClientProcess) (startFreq maxFreq stepFreq stepMs : Int) : ClientProcess :=
  p.postToMonitor
    [.setCanBitrate 500000, .setStressParameters startFreq maxFreq stepFreq stepMs, .start]

def onWindow (p : ClientProcess) (memory : IsoTpBuffers isoTpBufferSize) :
    WindowEvent → ClientProcess × List Posted
  | .currentIndexChanged index => ({ p with currentIndex := index }, [])
  | .on_btn_load_clicked mem => p.on_btn_load_clicked memory mem
  | .on_btn_usage_clicked mem => p.on_btn_usage_clicked memory mem
  | .on_btn_ReadTemp_clicked mem => p.on_btn_ReadTemp_clicked memory mem
  | .on_btn_ECU_clicked mem => p.on_btn_ECU_clicked memory mem
  | .on_btn_Tester_clicked mem => p.on_btn_Tester_clicked memory mem
  | .session button => p.onClicked memory button
  | .on_btn_ConnectCan_clicked plugin iface result => p.on_btn_ConnectCan_clicked plugin iface result
  | .onUdsMessageReceived msg => p.onUdsMessageReceived memory msg
  | .on_stress_btn_clicked m_stepIntervalMs => (p.on_stress_btn_clicked m_stepIntervalMs, [])
  | .startTest startFreq maxFreq stepFreq stepMs =>
      (p.startTest startFreq maxFreq stepFreq stepMs, [])
  | .windowsClosed => ({ p with m_monitor := none }, [])

/-! ## The CAN thread -/

/-- The connections between the worker and the monitor. -/
def monitorCall : CanWorkerSignal → Option MonitorCall
  | .udsMessageReceived _ => none
  | .udsRequestSentSignal _ => some .requestSent
  | .udsResponseReceivedSignal _ => some .responseReceived
  | .signalFrameSent qFrame => some (.frameSent qFrame.payload)
  | .signalFrameReceived qFrame => some (.frameReceived qFrame.payload)

/-- The state behind a slot of the CAN thread: its signals reach the monitor as posted calls, and a
null pointer ends the process. -/
def afterCan (p : ClientProcess) (result : CanWorker × CanWorkerOutcome) : ClientProcess :=
  postToMonitor { p with canWorker := result.1, ended := result.2.null.isSome }
    (result.2.signals.filterMap monitorCall)

/-- A call of the CAN worker. -/
def runCall (w : CanWorker) (memory : IsoTpBuffers isoTpBufferSize) (ms : UInt32) :
    WorkerCall → CanWorker × CanWorkerOutcome
  | .init result => w.init memory result
  | .sendUdsData data => w.sendUdsData ms data
  | .sendUdsMessage msg => w.sendUdsMessage ms msg

/-- The next posted call; the window goes on when its `init` is done. -/
def runPosted (p : ClientProcess) (memory : IsoTpBuffers isoTpBufferSize) (ms : UInt32) :
    ClientProcess × ClientAnswer :=
  match p.canQueue with
  | [] => (p, {})
  | posted :: rest =>
      let result := runCall p.canWorker memory ms posted.call
      let waitsForInit :=
        match posted.call with
        | .init _ => false
        | _ => p.waitsForInit
      (afterCan { p with canQueue := rest, waitsForInit := waitsForInit } result,
        { ran := some posted, outcome := result.2 })

def onCan (p : ClientProcess) (memory : IsoTpBuffers isoTpBufferSize) :
    CanEvent → ClientProcess × ClientAnswer
  | .posted ms => p.runPosted memory ms
  | .framesReceived ms mem qFrame =>
      let result := p.canWorker.onFramesReceived ms mem qFrame
      (p.afterCan result, { outcome := result.2 })
  | .pollTimeout ms mem =>
      let result := p.canWorker.pollTimeout ms mem
      (p.afterCan result, { outcome := result.2 })
  | .errorOccurred =>
      let result := p.canWorker.errorOccurred
      (p.afterCan result, { outcome := result.2 })
  | .tryReconnect result =>
      let result := p.canWorker.tryReconnect result
      (p.afterCan result, { outcome := result.2 })

/-! ## The monitor's thread -/

/-- `requestToSendSignal` is connected to `sendUdsMessage`, whatever channel is selected. -/
def requestToSend (p : ClientProcess) : MonitorSignal → Option Posted
  | .requestToSend msg =>
      some { worker := .canWorker, currentIndex := p.currentIndex, call := .sendUdsMessage msg }
  | _ => none

/-- A slot of the monitor, with `queue` left to do. -/
def runMonitor (p : ClientProcess) (t : MonitorThread) (queue : List MonitorCall)
    (call : MonitorCall) : ClientProcess × List Posted :=
  let called := t.monitor.call call
  let posted := called.2.filterMap p.requestToSend
  ({ p with
      m_monitor := some { monitor := called.1, queue := queue }
      canQueue := p.canQueue ++ posted },
    posted)

/-- The call that an event of the monitor's thread makes, and the calls left to do. -/
def nextCall (t : MonitorThread) : MonitorEvent → Option (MonitorCall × List MonitorCall)
  | .posted =>
      match t.queue with
      | [] => none
      | call :: rest => some (call, rest)
  | .timerTimeout => some (.timerTimeout, t.queue)
  | .pressureIncreaseTimeout => some (.pressureIncreaseTimeout, t.queue)
  | .sendFrameTimeout mem => some (.sendFrameTimeout mem, t.queue)
  | .testFinished => some (.testFinished, t.queue)

def onMonitor (p : ClientProcess) (event : MonitorEvent) : ClientProcess × List Posted :=
  match p.m_monitor with
  | none => (p, [])
  | some t =>
      match nextCall t event with
      | none => (p, [])
      | some (call, rest) => p.runMonitor t rest call

/-! ## Runs -/

/-- Nothing happens any more when the process has ended, and nothing in the window while it waits. -/
def step (memory : IsoTpBuffers isoTpBufferSize) (p : ClientProcess) (event : ClientEvent) :
    ClientProcess × ClientAnswer :=
  if p.ended then (p, {})
  else
    match event with
    | .window event =>
        if p.waitsForInit then (p, {})
        else
          let done := p.onWindow memory event
          (done.1, { posted := done.2 })
    | .can event => p.onCan memory event
    | .monitor event =>
        let done := p.onMonitor event
        (done.1, { posted := done.2 })

/-- The client; `memory` is where its instance of `Can_InterFace` will be made. -/
def machine (memory : IsoTpBuffers isoTpBufferSize) :
    Machine ClientProcess ClientEvent ClientAnswer where
  init := {}
  step := step memory

/-- The steps by what they do. -/
inductive StepCase (memory : IsoTpBuffers isoTpBufferSize) (p : ClientProcess) :
    ClientEvent → ClientProcess × ClientAnswer → Prop
  | ended {event : ClientEvent} (hended : p.ended = true) : StepCase memory p event (p, {})
  | waits {event : WindowEvent} (hended : p.ended = false) (hwaits : p.waitsForInit = true) :
      StepCase memory p (.window event) (p, {})
  | window {event : WindowEvent} (hended : p.ended = false) (hfree : p.waitsForInit = false) :
      StepCase memory p (.window event)
        ((p.onWindow memory event).1, { posted := (p.onWindow memory event).2 })
  | can {event : CanEvent} (hended : p.ended = false) :
      StepCase memory p (.can event) (p.onCan memory event)
  | monitor {event : MonitorEvent} (hended : p.ended = false) :
      StepCase memory p (.monitor event)
        ((p.onMonitor event).1, { posted := (p.onMonitor event).2 })

theorem stepCase (memory : IsoTpBuffers isoTpBufferSize) (p : ClientProcess)
    (event : ClientEvent) : StepCase memory p event (step memory p event) := by
  cases hended : p.ended with
  | true =>
      unfold step
      rw [if_pos hended]
      exact .ended hended
  | false =>
      have hruns : ¬ p.ended = true := by rw [hended]; decide
      unfold step
      rw [if_neg hruns]
      cases event with
      | window event =>
          cases hwaits : p.waitsForInit with
          | true => exact .waits hended hwaits
          | false => exact .window hended hwaits
      | can event => exact .can hended
      | monitor event => exact .monitor hended

/-! ## What the window does to the rest -/

/-- The events that begin or end a stress test. -/
def IsTestEvent : WindowEvent → Prop
  | .on_stress_btn_clicked _ | .startTest _ _ _ _ | .windowsClosed => True
  | _ => False

/-- The CAN thread gets the calls posted to it, and at most an instance; the monitor stays. -/
structure Posts (memory : IsoTpBuffers isoTpBufferSize) (p : ClientProcess)
    (done : ClientProcess × List Posted) : Prop where
  canWorker : done.1.canWorker = p.canWorker ∨
    done.1.canWorker = p.canWorker.createInstance memory
  canQueue : done.1.canQueue = p.canQueue ++ done.2.filter fun q => q.worker = .canWorker
  m_monitor : done.1.m_monitor = p.m_monitor

section

variable (memory : IsoTpBuffers isoTpBufferSize) {p : ClientProcess}

theorem Posts.refl (p : ClientProcess) : Posts memory p (p, []) where
  canWorker := .inl rfl
  canQueue := (List.append_nil _).symm
  m_monitor := rfl

/-- The other members do not matter. -/
theorem Posts.congr {q q' : ClientProcess} {posted : List Posted} (h : Posts memory q (q', posted))
    {p p' : ClientProcess} (hp : (p.canWorker, p.canQueue, p.m_monitor) =
      (q.canWorker, q.canQueue, q.m_monitor))
    (hp' : (p'.canWorker, p'.canQueue, p'.m_monitor) =
      (q'.canWorker, q'.canQueue, q'.m_monitor)) : Posts memory p (p', posted) := by
  rcases Prod.mk.inj hp with ⟨hworker, hrest⟩
  rcases Prod.mk.inj hrest with ⟨hqueue, hmonitor⟩
  rcases Prod.mk.inj hp' with ⟨hworker', hrest'⟩
  rcases Prod.mk.inj hrest' with ⟨hqueue', hmonitor'⟩
  refine ⟨?_, ?_, ?_⟩
  · rw [hworker, hworker']
    exact h.canWorker
  · rw [hqueue, hqueue']
    exact h.canQueue
  · rw [hmonitor, hmonitor']
    exact h.m_monitor

theorem posts_post (p : ClientProcess) (worker : Worker) (call : WorkerCall) :
    Posts memory p (p.post worker call) := by
  cases worker with
  | tcpWorker => exact ⟨.inl rfl, (List.append_nil _).symm, rfl⟩
  | canWorker => exact ⟨.inl rfl, rfl, rfl⟩

theorem posts_sendOnChannel (p : ClientProcess) (data : QByteArray) :
    Posts memory p (p.sendOnChannel data) := by
  unfold sendOnChannel
  split_ifs with htcp
  · exact posts_post memory p _ _
  · exact posts_post memory p _ _

theorem posts_sendOrFallBack (p : ClientProcess) (data : QByteArray) :
    Posts memory p (p.sendOrFallBack memory data) := by
  unfold sendOrFallBack
  split_ifs with htcp
  · exact posts_post memory p _ _
  · exact ⟨.inr rfl, rfl, rfl⟩

theorem posts_sendUDSRequest (p : ClientProcess) (msg : UDSMessage) :
    Posts memory p (p.sendUDSRequest memory msg) := by
  unfold sendUDSRequest
  simp only
  split_ifs with hrefused
  · exact Posts.refl memory p
  · exact posts_sendOrFallBack memory p _

theorem posts_enterSession (p : ClientProcess) (subFunction : UInt8)
    (pendingOp : PendingOperationType) :
    Posts memory p (p.enterSession memory subFunction pendingOp) := by
  unfold enterSession
  simp only
  split_ifs with hneed
  · exact (posts_sendOnChannel memory _ _).congr memory rfl rfl
  · exact (posts_sendOrFallBack memory _ _).congr memory rfl rfl

theorem posts_startPending (p : ClientProcess) : Posts memory p (p.startPending memory) := by
  unfold startPending
  cases p.client.m_pendingOperation with
  | noOperation | readData | otherOperation => exact (Posts.refl memory p).congr memory rfl rfl
  | enterExtendedSession | enterProgrammingSession =>
      exact (posts_enterSession memory p _ _).congr memory rfl rfl

theorem posts_onUdsMessageReceived (p : ClientProcess) (msg : UDSMessage) :
    Posts memory p (p.onUdsMessageReceived memory msg) := by
  unfold onUdsMessageReceived
  split_ifs with hzero hneg hseed hkey
  · exact Posts.refl memory p
  · exact Posts.refl memory p
  · exact posts_sendOnChannel memory p _
  · exact (posts_startPending memory _).congr memory rfl rfl
  · exact Posts.refl memory p

theorem posts_connectCan (p : ClientProcess) (plugin iface : Option String)
    (result : DeviceResult) :
    Posts memory p (p.on_btn_ConnectCan_clicked plugin iface result) := by
  unfold on_btn_ConnectCan_clicked
  split_ifs with hplugin hiface
  · exact Posts.refl memory p
  · exact Posts.refl memory p
  · exact (posts_post memory { p with waitsForInit := true } .canWorker (.init result)).congr memory
      rfl rfl

theorem posts_onWindow (p : ClientProcess) {event : WindowEvent} (h : ¬ IsTestEvent event) :
    Posts memory p (p.onWindow memory event) := by
  cases event with
  | currentIndexChanged index => exact (Posts.refl memory p).congr memory rfl rfl
  | on_btn_load_clicked mem => exact posts_sendUDSRequest memory p _
  | on_btn_usage_clicked mem => exact posts_sendUDSRequest memory p _
  | on_btn_ReadTemp_clicked mem => exact posts_sendUDSRequest memory p _
  | on_btn_ECU_clicked mem => exact posts_sendUDSRequest memory p _
  | on_btn_Tester_clicked mem => exact posts_sendUDSRequest memory p _
  | session button =>
      cases button with
      | exBtn => exact posts_enterSession memory p 0x03 .enterExtendedSession
      | defaultBtn => exact posts_enterSession memory p 0x01 .otherOperation
      | codeBtn => exact posts_enterSession memory p 0x02 .enterProgrammingSession
  | on_btn_ConnectCan_clicked plugin iface result => exact posts_connectCan memory p _ _ _
  | onUdsMessageReceived msg => exact posts_onUdsMessageReceived memory p msg
  | on_stress_btn_clicked m_stepIntervalMs => exact absurd trivial h
  | startTest startFreq maxFreq stepFreq stepMs => exact absurd trivial h
  | windowsClosed => exact absurd trivial h

/-- A test event leaves the CAN thread alone. -/
theorem onWindow_of_test (p : ClientProcess) {event : WindowEvent} (h : IsTestEvent event) :
    (p.onWindow memory event).1.canWorker = p.canWorker ∧
      (p.onWindow memory event).1.canQueue = p.canQueue ∧ (p.onWindow memory event).2 = [] := by
  cases event with
  | on_stress_btn_clicked m_stepIntervalMs => exact ⟨rfl, rfl, rfl⟩
  | startTest startFreq maxFreq stepFreq stepMs => exact ⟨rfl, rfl, rfl⟩
  | windowsClosed => exact ⟨rfl, rfl, rfl⟩
  | _ => exact absurd h id

end

/-- The monitor's thread leaves the CAN worker alone. -/
theorem canWorker_onMonitor (p : ClientProcess) (event : MonitorEvent) :
    (p.onMonitor event).1.canWorker = p.canWorker := by
  unfold onMonitor
  cases p.m_monitor with
  | none => rfl
  | some t =>
      cases hnext : nextCall t event with
      | none => simp only [hnext]
      | some next => simp only [hnext, runMonitor]

/-! ## The requests are those of the window alone -/

section

variable (memory : IsoTpBuffers isoTpBufferSize) (p : ClientProcess)

/-- The calls that carry the data of the one-channel model. -/
def dataCalls (data : List QByteArray) : List WorkerCall :=
  data.map WorkerCall.sendUdsData

theorem sendOnChannel_window (data : QByteArray) :
    (p.sendOnChannel data).1.client = p.client ∧
      (p.sendOnChannel data).2.map Posted.call = dataCalls [data] := by
  unfold sendOnChannel
  split_ifs with htcp
  · exact ⟨rfl, rfl⟩
  · exact ⟨rfl, rfl⟩

theorem sendOrFallBack_window (data : QByteArray) :
    (p.sendOrFallBack memory data).1.client = p.client ∧
      (p.sendOrFallBack memory data).2.map Posted.call = dataCalls [data] := by
  unfold sendOrFallBack
  split_ifs with htcp
  · exact ⟨rfl, rfl⟩
  · exact ⟨rfl, rfl⟩

theorem enterSession_window (subFunction : UInt8) (pendingOp : PendingOperationType) :
    (p.enterSession memory subFunction pendingOp).1.client =
        (Client.enterSession p.client subFunction pendingOp).1 ∧
      (p.enterSession memory subFunction pendingOp).2.map Posted.call =
        dataCalls (Client.enterSession p.client subFunction pendingOp).2 := by
  unfold enterSession
  simp only
  split_ifs with hneed
  · rcases sendOnChannel_window
      { p with client := (Client.enterSession p.client subFunction pendingOp).1 }
      Client.requestSecurityAccess with ⟨hclient, hcalls⟩
    have hdata : (Client.enterSession p.client subFunction pendingOp).2 =
        [Client.requestSecurityAccess] := by
      unfold Client.enterSession
      simp only
      rw [if_pos hneed]
    refine ⟨hclient, ?_⟩
    rw [hdata]
    exact hcalls
  · rcases sendOrFallBack_window memory
      { p with client := (Client.enterSession p.client subFunction pendingOp).1 }
      (request UdsSid.diagnosticSessionControl subFunction []) with ⟨hclient, hcalls⟩
    have hdata : (Client.enterSession p.client subFunction pendingOp).2 =
        [request UdsSid.diagnosticSessionControl subFunction []] := by
      unfold Client.enterSession
      simp only
      rw [if_neg hneed]
    refine ⟨hclient, ?_⟩
    rw [hdata]
    exact hcalls

theorem startPending_window :
    (p.startPending memory).1.client = (Client.startPending p.client).1 ∧
      (p.startPending memory).2.map Posted.call = dataCalls (Client.startPending p.client).2 := by
  unfold startPending Client.startPending
  cases hpending : p.client.m_pendingOperation with
  | noOperation =>
      have hcleared : ({ p.client with m_pendingOperation := .noOperation } : ClientState) =
          p.client := by
        rw [← hpending]
      exact ⟨hcleared, rfl⟩
  | readData | otherOperation => exact ⟨rfl, rfl⟩
  | enterExtendedSession =>
      rcases enterSession_window memory p 0x03 .enterExtendedSession with ⟨hclient, hcalls⟩
      refine ⟨?_, hcalls⟩
      exact congrArg (fun s : ClientState => { s with m_pendingOperation := .noOperation }) hclient
  | enterProgrammingSession =>
      rcases enterSession_window memory p 0x02 .enterProgrammingSession with ⟨hclient, hcalls⟩
      refine ⟨?_, hcalls⟩
      exact congrArg (fun s : ClientState => { s with m_pendingOperation := .noOperation }) hclient

/-- The channel decides where a request goes, not which request it is. -/
theorem onUdsMessageReceived_window (msg : UDSMessage) :
    (p.onUdsMessageReceived memory msg).1.client =
        (Client.onUdsMessageReceived p.client msg).1 ∧
      (p.onUdsMessageReceived memory msg).2.map Posted.call =
        dataCalls (Client.onUdsMessageReceived p.client msg).2 := by
  unfold onUdsMessageReceived Client.onUdsMessageReceived
  split_ifs with hzero hneg hseed hkey
  · exact ⟨rfl, rfl⟩
  · exact ⟨rfl, rfl⟩
  · exact sendOnChannel_window p _
  · exact startPending_window memory _
  · exact ⟨rfl, rfl⟩

theorem onClicked_window (button : SessionButton) :
    (p.onClicked memory button).1.client = (Client.onClicked p.client button).1 ∧
      (p.onClicked memory button).2.map Posted.call =
        dataCalls (Client.onClicked p.client button).2 := by
  cases button with
  | exBtn => exact enterSession_window memory p 0x03 .enterExtendedSession
  | defaultBtn => exact enterSession_window memory p 0x01 .otherOperation
  | codeBtn => exact enterSession_window memory p 0x02 .enterProgrammingSession

end

end ClientProcess
end Client
end TcpCanUds
