import TcpCanUds.Server.TcpClients

/-!
# StopServer — disconnecting every client (`TcpWorkerServer::stopServer`)

`stopServer` walks `m_clients` with a range-based loop, whose end is fixed before the first round.  A
client without pending output is disconnected at once, and its slots take it out of the list the loop
walks.  So the clients behind move up under the loop, every second one is passed over, and the later
rounds read what lies behind the end of the list.
-/

namespace TcpCanUds
namespace Server

/-- The server with its sockets, while `stopServer` runs. -/
structure StopState where
  server : TcpWorkerServer
  /-- The socket is in `ConnectedState`. -/
  connected : SocketPtr → Bool
  /-- The rounds that read behind the end of `m_clients`. -/
  deadReads : List Nat := []

namespace StopState

section

-- the number each socket's first slot has captured
variable (clientId : SocketPtr → Int32)
-- what lies behind the end of the list when a round reads it there; a null pointer is `none`
variable (stale : Nat → Option SocketPtr)

/-- `disconnectFromHost` on a connected socket with nothing to write: `disconnected` is emitted, and
its two slots run. -/
def disconnectFromHost (s : StopState) (client : SocketPtr) : StopState :=
  { s with
    connected := Function.update s.connected client false
    server := (s.server.removeClientId (clientId client)).onClientDisconnected client }

/-- The body of the loop. -/
def visit (s : StopState) (client : SocketPtr) : StopState :=
  if s.connected client then s.disconnectFromHost clientId client else s

/-- The round of the loop that reads the `i`-th place of the list. -/
def round (s : StopState) (i : Nat) : StopState :=
  match s.server.m_clients[i]? with
  | some client => s.visit clientId client
  | none =>
      let s := { s with deadReads := s.deadReads ++ [i] }
      match stale i with
      | none => s
      | some client => s.visit clientId client

/-- The first `k` rounds. -/
def rounds (s : StopState) (k : Nat) : StopState :=
  (List.range k).foldl (round clientId stale) s

/-- The loop of `stopServer`: the number of rounds is the length that the list had before. -/
def stopServer (s : StopState) : StopState :=
  s.rounds clientId stale s.server.m_clients.length

end

/-- The clients the server knows are connected sockets. -/
def AllConnected (s : StopState) : Prop :=
  ∀ client ∈ s.server.m_clients, s.connected client = true

instance (s : StopState) : Decidable s.AllConnected :=
  List.decidableBAll _ _

/-- From `s` the loop disconnects every client and reads only elements of the list. -/
structure Stops (s s' : StopState) : Prop where
  disconnected : ∀ client ∈ s.server.m_clients, s'.connected client = false
  live : s'.deadReads = s.deadReads

section

variable {clientId : SocketPtr → Int32} {stale : Nat → Option SocketPtr} {s : StopState}

/-! ## One round -/

theorem m_clients_disconnectFromHost (client : SocketPtr) :
    (s.disconnectFromHost clientId client).server.m_clients =
      s.server.m_clients.filter (· ≠ client) := by
  simp [disconnectFromHost, TcpWorkerServer.onClientDisconnected,
    TcpWorkerServer.cleanupClientResources, TcpWorkerServer.removeClientId]

theorem deadReads_visit (client : SocketPtr) : (s.visit clientId client).deadReads = s.deadReads := by
  unfold visit
  split_ifs with hconnected
  · rfl
  · rfl

theorem deadReads_round_of_lt {i : Nat} (h : i < s.server.m_clients.length) :
    (s.round clientId stale i).deadReads = s.deadReads := by
  rw [round, List.getElem?_eq_getElem h]
  exact deadReads_visit _

theorem deadReads_round_of_le {i : Nat} (h : s.server.m_clients.length ≤ i) :
    (s.round clientId stale i).deadReads = s.deadReads ++ [i] := by
  rw [round, List.getElem?_eq_none h]
  cases stale i with
  | none => rfl
  | some client => exact deadReads_visit client

variable (clientId stale) in
/-- A round on an element of the list takes it out; the others stay connected. -/
theorem round_of_lt (hconn : s.AllConnected) {i : Nat} (h : i < s.server.m_clients.length) :
    (s.round clientId stale i).AllConnected ∧
      (s.round clientId stale i).server.m_clients.length < s.server.m_clients.length := by
  have hmem : s.server.m_clients[i] ∈ s.server.m_clients := List.getElem_mem h
  have hround : s.round clientId stale i =
      s.disconnectFromHost clientId s.server.m_clients[i] := by
    rw [round, List.getElem?_eq_getElem h]
    exact if_pos (hconn _ hmem)
  rw [hround, AllConnected, m_clients_disconnectFromHost]
  constructor
  · intro client hclient
    rcases List.mem_filter.1 hclient with ⟨hin, hne⟩
    change Function.update s.connected _ false client = true
    rw [Function.update_of_ne (by simpa using hne)]
    exact hconn client hin
  · apply List.length_filter_lt_length_iff_exists.2
    exact ⟨_, hmem, by simp⟩

theorem rounds_succ (k : Nat) :
    s.rounds clientId stale (k + 1) = (s.rounds clientId stale k).round clientId stale k := by
  rw [rounds, List.range_succ, List.foldl_append]
  rfl

variable (clientId stale s) in
theorem length_deadReads_rounds (k : Nat) :
    s.deadReads.length ≤ (s.rounds clientId stale k).deadReads.length := by
  induction k with
  | zero => exact Nat.le_refl _
  | succ k ih =>
      rw [rounds_succ]
      by_cases hlt : k < (s.rounds clientId stale k).server.m_clients.length
      · rw [deadReads_round_of_lt hlt]
        exact ih
      · rw [deadReads_round_of_le (Nat.le_of_not_lt hlt), List.length_append]
        exact Nat.le_add_right_of_le ih

/-! ## The loop -/

/-- A read behind the end stays on record, so when there is none the last round read an element. -/
theorem live_of_succ {k : Nat} (h : (s.rounds clientId stale (k + 1)).deadReads = s.deadReads) :
    k < (s.rounds clientId stale k).server.m_clients.length ∧
      (s.rounds clientId stale k).deadReads = s.deadReads := by
  rw [rounds_succ] at h
  by_cases hlt : k < (s.rounds clientId stale k).server.m_clients.length
  · rw [deadReads_round_of_lt hlt] at h
    exact ⟨hlt, h⟩
  · have hlen := congrArg List.length h
    have hge := length_deadReads_rounds clientId stale s k
    rw [deadReads_round_of_le (Nat.le_of_not_lt hlt), List.length_append,
      List.length_singleton] at hlen
    omega

/-- As long as every round has read an element of the list, every round has taken one out. -/
theorem rounds_live (hconn : s.AllConnected) (k : Nat)
    (h : (s.rounds clientId stale k).deadReads = s.deadReads) :
    (s.rounds clientId stale k).AllConnected ∧
      (s.rounds clientId stale k).server.m_clients.length + k ≤ s.server.m_clients.length := by
  induction k with
  | zero => exact ⟨hconn, Nat.le_refl _⟩
  | succ k ih =>
      rcases live_of_succ h with ⟨hlt, hbefore⟩
      rcases ih hbefore with ⟨hconn', hlen⟩
      rcases round_of_lt clientId stale hconn' hlt with ⟨hall, hless⟩
      rw [rounds_succ]
      exact ⟨hall, by omega⟩

/-- With two clients or more the last round reads behind the end of the list. -/
theorem length_le_one_of_live (hconn : s.AllConnected)
    (h : (s.stopServer clientId stale).deadReads = s.deadReads) :
    s.server.m_clients.length ≤ 1 := by
  by_contra hlong
  obtain ⟨k, hk⟩ : ∃ k, s.server.m_clients.length = k + 2 :=
    ⟨s.server.m_clients.length - 2, by omega⟩
  rw [stopServer, hk] at h
  rcases live_of_succ h with ⟨hlt, hbefore⟩
  have hshort := (rounds_live hconn (k + 1) hbefore).2
  omega

/-- The loop of `stopServer` does its work exactly when there is at most one client. -/
theorem stops_iff (clientId : SocketPtr → Int32) (stale : Nat → Option SocketPtr)
    (hconn : s.AllConnected) :
    Stops s (s.stopServer clientId stale) ↔ s.server.m_clients.length ≤ 1 := by
  constructor
  · intro h
    exact length_le_one_of_live hconn h.live
  · intro hone
    rcases Nat.le_one_iff_eq_zero_or_eq_one.1 hone with hnone | hsingle
    · have hnil := List.length_eq_zero_iff.1 hnone
      constructor
      case disconnected =>
        intro client hclient
        rw [hnil] at hclient
        cases hclient
      case live =>
        rw [stopServer, hnone]
        rfl
    · rcases List.length_eq_one_iff.1 hsingle with ⟨client, hclients⟩
      have hstop : s.stopServer clientId stale = s.disconnectFromHost clientId client := by
        rw [stopServer, hsingle]
        change s.round clientId stale 0 = _
        rw [round, hclients]
        exact if_pos (hconn client (by rw [hclients]; exact List.mem_singleton_self client))
      rw [hstop]
      constructor
      case disconnected =>
        intro other hother
        rw [hclients, List.mem_singleton] at hother
        rw [hother]
        exact Function.update_self _ _ _
      case live => rfl

end

/-- The sockets `1`, …, `n`, all connected. -/
def connectedClients (n : Nat) : StopState where
  server := { m_clients := List.range' 1 n }
  connected client := 1 ≤ client ∧ client ≤ n

theorem stops_single :
    Stops (connectedClients 1) ((connectedClients 1).stopServer (fun _ => 1001) fun _ => some 1) :=
  (stops_iff (fun _ => 1001) (fun _ => some 1) (by decide)).2 (by decide)

/-- With three clients, and the last one behind the end of the list as `removeAll` leaves it, the
second one stays connected. -/
theorem second_client_stays_connected :
    ¬ ∀ (s : StopState) (clientId : SocketPtr → Int32) (stale : Nat → Option SocketPtr),
      s.AllConnected → Stops s (s.stopServer clientId stale) := by
  intro h
  have hstops := h (connectedClients 3) (fun _ => 1001) (fun _ => some 3) (by decide)
  exact absurd (hstops.disconnected 2 (by decide)) (by decide)

end StopState
end Server
end TcpCanUds
