import TcpCanUds.Client.ProtocolParser
import TcpCanUds.Lib.Machine

/-!
# TcpConnection — the connection of the client (`client/tcp_worker.cpp`)

The slots of `Tcp_worker` that open, lose and reopen its one connection.  The parser is a member of
the worker and none of them touches it, so it carries unread bytes from one connection to the next.
-/

namespace TcpCanUds
namespace Client

open Lib

/-- The states of `m_socket` the worker asks for. -/
inductive SocketState
  | unconnected
  | connecting
  | connected
  deriving DecidableEq, Repr

/-- The members of `Tcp_worker`; `none` is the socket before `initSocket`. -/
structure TcpWorkerState where
  m_socket : Option SocketState := none
  /-- The unread bytes of `m_parser`. -/
  m_buffer : QByteArray := []
  /-- Whether the reconnect timer runs. -/
  m_reconnectTimer : Bool := false
  /-- Whether the heartbeat timer runs. -/
  m_heartbeatTimer : Bool := false
  isUserDisconnect : Bool := false
  deriving DecidableEq, Repr

/-- The calls of the slots, from the user, the timer and the socket. -/
inductive TcpEvent
  | connectToServer
  | disconnectToServer
  | reconnectTimeout
  | connected
  | disconnected
  | readyRead (data : QByteArray)
  deriving DecidableEq, Repr

inductive TcpSignal
  | connected
  | disconnected
  | reconnect
  | udsMessageReceived (msg : UDSMessage)
  deriving DecidableEq, Repr

namespace TcpConnection

/-! ## Slots -/

def connectToServer (s : TcpWorkerState) : TcpWorkerState :=
  if s.m_socket = some .connecting ∨ s.m_socket = some .connected then s
  else { s with m_socket := some .connecting }

def disconnectToServer (s : TcpWorkerState) : TcpWorkerState :=
  if s.m_socket = none then s
  else { s with isUserDisconnect := true, m_reconnectTimer := false }

def onReconnectTimer (s : TcpWorkerState) : TcpWorkerState × List TcpSignal :=
  if s.m_socket = none ∨ s.isUserDisconnect = true then (s, [])
  else if s.m_socket = some .unconnected then
    ({ s with m_socket := some .connecting }, [.reconnect])
  else (s, [])

def onConnected (s : TcpWorkerState) : TcpWorkerState × List TcpSignal :=
  ({ s with
      m_socket := some .connected
      m_reconnectTimer := false
      m_heartbeatTimer := true }, [.connected])

/-- The socket and the timers are reset; the unread bytes of the parser stay. -/
def onDisconnected (s : TcpWorkerState) : TcpWorkerState × List TcpSignal :=
  ({ s with
      m_socket := some .unconnected
      m_heartbeatTimer := false
      m_reconnectTimer := s.m_reconnectTimer || !s.isUserDisconnect }, [.disconnected])

/-- The messages among the signals of the parser; the other signals are only logged. -/
def udsMessages (mem : UDSMessage.Memory) (outcomes : List ProtocolParser.Outcome) :
    List UDSMessage :=
  outcomes.flatMap fun o => (o.signals mem).filterMap fun
    | .udsMessageReady msg => some msg
    | _ => none

def onReadyRead (mem : UDSMessage.Memory) (s : TcpWorkerState) (data : QByteArray) :
    TcpWorkerState × List TcpSignal :=
  let r := ProtocolParser.pushData s.m_buffer data
  ({ s with m_buffer := r.2 }, (udsMessages mem r.1).map .udsMessageReceived)

/-- The worker from its construction on; `mem` is the memory under the decoded messages. -/
def tcpWorker (mem : UDSMessage.Memory) : Machine TcpWorkerState TcpEvent (List TcpSignal) where
  init := {}
  step s
    | .connectToServer => (connectToServer s, [])
    | .disconnectToServer => (disconnectToServer s, [])
    | .reconnectTimeout => onReconnectTimer s
    | .connected => onConnected s
    | .disconnected => onDisconnected s
    | .readyRead data => onReadyRead mem s data

/-! ## What a run emits -/

/-- The messages among the signals of a run. -/
def messages (signals : List TcpSignal) : List UDSMessage :=
  signals.filterMap fun
    | .udsMessageReceived msg => some msg
    | _ => none

/-- The messages emitted from state `s` on. -/
def emitted (mem : UDSMessage.Memory) (s : TcpWorkerState) (events : List TcpEvent) :
    List UDSMessage :=
  ((tcpWorker mem).trace s events).flatMap fun e => messages e.2

def IsRead : TcpEvent → Prop
  | .readyRead _ => True
  | _ => False

/-- Events without data: the end of one connection, the waiting, and the start of the next. -/
def Quiet (events : List TcpEvent) : Prop :=
  ∀ e ∈ events, ¬ IsRead e

section

variable (mem : UDSMessage.Memory) (s : TcpWorkerState)

theorem messages_received (msgs : List UDSMessage) :
    messages (msgs.map .udsMessageReceived) = msgs := by
  induction msgs with
  | nil => rfl
  | cons m msgs ih => exact congrArg (m :: ·) ih

/-- Without data nothing is emitted and the parser keeps its bytes. -/
theorem quiet_step {e : TcpEvent} (h : ¬ IsRead e) :
    ((tcpWorker mem).step s e).1.m_buffer = s.m_buffer ∧
      messages ((tcpWorker mem).step s e).2 = [] := by
  cases e with
  | readyRead data => exact absurd trivial h
  | connectToServer =>
      simp only [tcpWorker, connectToServer]
      split_ifs <;> exact ⟨rfl, rfl⟩
  | disconnectToServer =>
      simp only [tcpWorker, disconnectToServer]
      split_ifs <;> exact ⟨rfl, rfl⟩
  | reconnectTimeout =>
      simp only [tcpWorker, onReconnectTimer]
      split_ifs <;> exact ⟨rfl, rfl⟩
  | connected | disconnected => exact ⟨rfl, rfl⟩

theorem quiet_run {events : List TcpEvent} (h : Quiet events) :
    ((tcpWorker mem).exec s events).m_buffer = s.m_buffer ∧ emitted mem s events = [] := by
  induction events generalizing s with
  | nil => exact ⟨rfl, rfl⟩
  | cons e events ih =>
      rcases quiet_step mem s (h e (by simp)) with ⟨hbuf, hout⟩
      rcases ih ((tcpWorker mem).step s e).1 fun x hx => h x (by simp [hx]) with ⟨hbuf', hout'⟩
      refine ⟨hbuf'.trans hbuf, ?_⟩
      rw [emitted, Machine.trace, List.flatMap_cons, hout]
      exact hout'

theorem emitted_append (events events' : List TcpEvent) :
    emitted mem s (events ++ events') =
      emitted mem s events ++ emitted mem ((tcpWorker mem).exec s events) events' := by
  rw [emitted, Machine.trace_append, List.flatMap_append]
  rfl

/-- The chunks of a connection go through the parser one after another. -/
theorem emitted_reads (chunks : List QByteArray) :
    emitted mem s (chunks.map .readyRead) =
      udsMessages mem (ProtocolParser.parser.feedAll s.m_buffer chunks).1 := by
  induction chunks generalizing s with
  | nil => rfl
  | cons c chunks ih =>
      rw [List.map_cons, emitted, Machine.trace, List.flatMap_cons]
      change messages (List.map .udsMessageReceived _) ++ emitted mem _ _ = _
      rw [messages_received, ih, Scanner.feedAll, udsMessages, udsMessages, udsMessages,
        List.flatMap_append]
      rfl

/-- The bytes the worker keeps never hold a complete frame at their front. -/
theorem look_after (history : List TcpEvent) :
    ProtocolParser.look ((tcpWorker mem).after history).m_buffer = .wait := by
  refine (tcpWorker mem).after_invariant
    (I := fun s => ProtocolParser.look s.m_buffer = .wait) rfl ?_ history
  intro s e h
  by_cases hread : IsRead e
  · cases e with
    | readyRead data => exact ProtocolParser.parser.verdict_rest (s.m_buffer ++ data)
    | _ => exact absurd hread id
  · rw [(quiet_step mem s hread).1]
    exact h

end

end TcpConnection
end Client
end TcpCanUds
