import TcpCanUds.Client.TcpConnection

/-!
# AutoReconnect — whether a lost connection comes back by itself

A disconnect by the user sets a flag that keeps the reconnect timer from starting.  Nothing clears the
flag again, so a user who connects once more is not followed: the next loss is final.
-/

namespace TcpCanUds
namespace Client
namespace TcpConnection

open Lib

/-! ## The last wish -/

/-- The commands of the user. -/
def IsCommand (e : TcpEvent) : Prop :=
  e = .connectToServer ∨ e = .disconnectToServer

instance : DecidablePred IsCommand :=
  fun _ => inferInstanceAs (Decidable (_ ∨ _))

def lastCommand (history : List TcpEvent) : Option TcpEvent :=
  (history.filter fun e => IsCommand e).getLast?

/-- The reconnect timer runs, and when it fires a new connection attempt starts. -/
def Reconnects (s : TcpWorkerState) : Prop :=
  s.m_reconnectTimer = true ∧
    onReconnectTimer s = ({ s with m_socket := some .connecting }, [.reconnect])

instance (s : TcpWorkerState) : Decidable (Reconnects s) :=
  inferInstanceAs (Decidable (_ ∧ _))

/-- `history` ends in an established connection that the user asked for last. -/
structure Wanted (mem : UDSMessage.Memory) (history : List TcpEvent) : Prop where
  established : ((tcpWorker mem).after history).m_socket = some .connected
  wish : lastCommand history = some .connectToServer

/-- Whenever a connection drops that the user asked for last, the worker reconnects. -/
def FollowsLastWish (mem : UDSMessage.Memory) (run : List TcpEvent) : Prop :=
  ∀ history later, run = history ++ .disconnected :: later → Wanted mem history →
    Reconnects ((tcpWorker mem).after (history ++ [.disconnected]))

/-- The step is no disconnect by the user from an existing socket. -/
def NotByUser (s : TcpWorkerState) (e : TcpEvent) : Prop :=
  ¬ (e = .disconnectToServer ∧ s.m_socket ≠ none)

instance (s : TcpWorkerState) (e : TcpEvent) : Decidable (NotByUser s e) :=
  inferInstanceAs (Decidable (¬ _))

/-- Before a connection drops that the user asked for last, the user never disconnected. -/
def NeverDisconnected (mem : UDSMessage.Memory) (run : List TcpEvent) : Prop :=
  ∀ history later, run = history ++ .disconnected :: later → Wanted mem history →
    (tcpWorker mem).Along NotByUser {} history

/-! ## The flag -/

section

variable (mem : UDSMessage.Memory) (s : TcpWorkerState)

/-- A step leaves the flag down when it was down and the step is no disconnect by the user. -/
theorem isUserDisconnect_step (e : TcpEvent) :
    ((tcpWorker mem).step s e).1.isUserDisconnect = false ↔
      s.isUserDisconnect = false ∧ NotByUser s e := by
  have hother : ∀ b : Bool, e ≠ .disconnectToServer → (b = false ↔ b = false ∧ NotByUser s e) :=
    fun _ hne => (and_iff_left fun h => hne h.1).symm
  cases e with
  | disconnectToServer =>
      -- without a socket the slot returns before it sets the flag
      simp only [tcpWorker, disconnectToServer]
      by_cases hsocket : s.m_socket = none
      · rw [if_pos hsocket]
        exact (and_iff_left fun h => h.2 hsocket).symm
      · rw [if_neg hsocket]
        exact iff_of_false Bool.true_eq_false.mp fun h => h.2 ⟨rfl, hsocket⟩
  | connectToServer =>
      -- connecting again does not clear it
      simp only [tcpWorker, connectToServer]
      split_ifs <;> exact hother _ TcpEvent.noConfusion
  | reconnectTimeout =>
      simp only [tcpWorker, onReconnectTimer]
      split_ifs <;> exact hother _ TcpEvent.noConfusion
  | connected | disconnected | readyRead => exact hother _ TcpEvent.noConfusion

theorem isUserDisconnect_after (history : List TcpEvent) :
    ((tcpWorker mem).after history).isUserDisconnect = false ↔
      (tcpWorker mem).Along NotByUser {} history := by
  have hrun := (tcpWorker mem).exec_iff_along (P := fun s => s.isUserDisconnect = false)
    (G := NotByUser) (isUserDisconnect_step mem) {} history
  exact hrun.trans (and_iff_right rfl)

/-- Behind the loss of a connection the flag alone decides. -/
theorem reconnects_onDisconnected :
    Reconnects (onDisconnected s).1 ↔ s.isUserDisconnect = false := by
  constructor
  · rintro ⟨-, hfires⟩
    by_contra hflag
    -- with the flag up the timeout does nothing
    rw [onReconnectTimer, if_pos (Or.inr (by simpa [onDisconnected] using hflag))] at hfires
    exact absurd (congrArg Prod.snd hfires) (by simp)
  · intro hflag
    constructor
    · simp [onDisconnected, hflag]
    · have hsocket : (onDisconnected s).1.m_socket = some .unconnected := rfl
      rw [onReconnectTimer, if_neg (by simp [onDisconnected, hflag]), if_pos hsocket]

theorem reconnects_iff_along (history : List TcpEvent) :
    Reconnects ((tcpWorker mem).after (history ++ [.disconnected])) ↔
      (tcpWorker mem).Along NotByUser {} history := by
  rw [(tcpWorker mem).after_snoc, ← isUserDisconnect_after mem history]
  exact reconnects_onDisconnected _

end

/-! ## Runs -/

/-- A run follows the user's last wish exactly when no wanted connection drops after an earlier
disconnect by the user. -/
theorem followsLastWish_iff (mem : UDSMessage.Memory) (run : List TcpEvent) :
    FollowsLastWish mem run ↔ NeverDisconnected mem run := by
  constructor
  · intro h history later hrun hwanted
    exact (reconnects_iff_along mem history).1 (h history later hrun hwanted)
  · intro h history later hrun hwanted
    exact (reconnects_iff_along mem history).2 (h history later hrun hwanted)

/-- Connected, disconnected by the user, and connected again, up to the loss. -/
def connectAgainRun : List TcpEvent :=
  [.connectToServer, .connected, .disconnectToServer, .disconnected, .connectToServer, .connected]

/-- The second connection is lost for good. -/
theorem second_connection_not_restored :
    ¬ ∀ mem run, FollowsLastWish mem run := by
  intro h
  have hreconnects := h {} (connectAgainRun ++ [.disconnected]) connectAgainRun [] rfl
    ⟨by decide, by decide⟩
  rw [reconnects_iff_along] at hreconnects
  exact absurd hreconnects (by decide)

end TcpConnection
end Client
end TcpCanUds
