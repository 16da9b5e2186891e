import TcpCanUds.Server.TcpRouting

/-!
# TcpRoutingSteps — every client gets its own responses

Each event keeps the tables, the streams and the queues of `TcpRouting`, so every run does.
-/

namespace TcpCanUds
namespace Server

open Lib TaggedQueue
open TcpWorkerServer (clientIdOf clientIdOf_succ clientIdOf_inj)

namespace TcpRouting

/-! ## Tables -/

section

variable {sockets : SocketPtr → Option ClientSocket} {client c : SocketPtr}
  {socket new : ClientSocket}

theorem mem_update_some : socket ∈ Function.update sockets client (some new) c ↔
    (c = client ∧ socket = new) ∨ (c ≠ client ∧ socket ∈ sockets c) := by
  by_cases hc : c = client
  · subst hc
    simp [eq_comm]
  · simp [hc]

theorem mem_update_none : socket ∈ Function.update sockets client none c ↔
    c ≠ client ∧ socket ∈ sockets c := by
  by_cases hc : c = client
  · subst hc
    simp
  · simp [hc]

end

section

variable {st : TcpRouting} {client : SocketPtr} {socket : ClientSocket}

theorem Tables.newConnection (h : Tables st) {connected : Bool}
    (hfree : st.sockets client = none) (hlt : st.connections + 1 < 2 ^ 31) :
    Tables (st.next (.newConnection client connected)) where
  connections_lt := hlt
  nextClientId := by
    change st.server.m_nextClientId + 1 = _
    rw [h.nextClientId]
    exact (clientIdOf_succ st.connections).symm
  conn_lt := by
    intro c socket hsocket
    rcases mem_update_some.1 hsocket with ⟨-, rfl⟩ | ⟨-, hold⟩
    · exact Nat.lt_succ_self st.connections
    · exact Nat.lt_succ_of_lt (h.conn_lt c socket hold)
  clientId := by
    intro c socket hsocket
    rcases mem_update_some.1 hsocket with ⟨-, rfl⟩ | ⟨-, hold⟩
    · exact h.nextClientId
    · exact h.clientId c socket hold
  conn_inj := by
    intro c c' socket hsocket socket' hsocket' heq
    rcases mem_update_some.1 hsocket with ⟨rfl, rfl⟩ | ⟨-, hold⟩ <;>
      rcases mem_update_some.1 hsocket' with ⟨rfl, rfl⟩ | ⟨-, hold'⟩
    · rfl
    · exact absurd heq.symm (Nat.ne_of_lt (h.conn_lt c' socket' hold'))
    · exact absurd heq (Nat.ne_of_lt (h.conn_lt c socket hold))
    · exact h.conn_inj c c' socket hold socket' hold' heq
  clientMap := by
    intro id c
    change
      Function.update st.server.m_clientMap st.server.m_nextClientId (some client) id = some c ↔
        ∃ socket ∈ Function.update st.sockets client (some _) c, socket.clientId = id
    -- the new number is not yet in use
    have hunused : ∀ c, ∀ socket ∈ st.sockets c, socket.clientId ≠ st.server.m_nextClientId := by
      intro c socket hsocket heq
      rw [h.clientId c socket hsocket, h.nextClientId] at heq
      have hconn := h.conn_lt c socket hsocket
      have hle := h.connections_lt
      exact absurd (clientIdOf_inj (by omega) (by omega) heq) (Nat.ne_of_lt hconn)
    by_cases hid : id = st.server.m_nextClientId
    · subst hid
      rw [Function.update_self, Option.some.injEq]
      constructor
      · rintro rfl
        exact ⟨_, mem_update_some.2 (Or.inl ⟨rfl, rfl⟩), rfl⟩
      · rintro ⟨socket, hsocket, heq⟩
        rcases mem_update_some.1 hsocket with ⟨rfl, -⟩ | ⟨-, hold⟩
        · rfl
        · exact absurd heq (hunused c socket hold)
    · rw [Function.update_of_ne hid, h.clientMap]
      constructor
      · rintro ⟨socket, hold, heq⟩
        have hne : c ≠ client := by
          rintro rfl
          rw [hfree] at hold
          cases hold
        exact ⟨socket, mem_update_some.2 (Or.inr ⟨hne, hold⟩), heq⟩
      · rintro ⟨socket, hsocket, heq⟩
        rcases mem_update_some.1 hsocket with ⟨-, rfl⟩ | ⟨-, hold⟩
        · exact absurd heq.symm hid
        · exact ⟨socket, hold, heq⟩
  clients := by
    intro c
    change c ∈ st.server.m_clients ++ [client] ↔
      (Function.update st.sockets client (some _) c).isSome
    rw [List.mem_append, h.clients, List.mem_singleton]
    by_cases hc : c = client
    · subst hc
      simp
    · simp [hc]

theorem Tables.closing (h : Tables st) (hsocket : socket ∈ st.sockets client) :
    Tables (st.next (.closing client)) := by
  simp only [next, Option.mem_def.1 hsocket]
  -- the socket keeps its number and its connection
  have hmem : ∀ c,
      ∀ s ∈ Function.update st.sockets client (some { socket with connected := false }) c,
      ∃ s₀ ∈ st.sockets c, s₀.conn = s.conn ∧ s₀.clientId = s.clientId := by
    intro c s hs
    rcases mem_update_some.1 hs with ⟨rfl, rfl⟩ | ⟨-, hold⟩
    · exact ⟨socket, hsocket, rfl, rfl⟩
    · exact ⟨s, hold, rfl, rfl⟩
  refine { h with
    conn_lt := fun c s hs => ?_
    clientId := fun c s hs => ?_
    conn_inj := fun c c' s hs s' hs' heq => ?_
    clientMap := fun id c => ?_
    clients := fun c => ?_ }
  · rcases hmem c s hs with ⟨s₀, hs₀, hconn, -⟩
    exact hconn ▸ h.conn_lt c s₀ hs₀
  · rcases hmem c s hs with ⟨s₀, hs₀, hconn, hid⟩
    rw [← hid, ← hconn]
    exact h.clientId c s₀ hs₀
  · rcases hmem c s hs with ⟨s₀, hs₀, hconn, -⟩
    rcases hmem c' s' hs' with ⟨s₀', hs₀', hconn', -⟩
    exact h.conn_inj c c' s₀ hs₀ s₀' hs₀' (by rw [hconn, hconn', heq])
  · rw [h.clientMap]
    constructor
    · rintro ⟨s, hs, heq⟩
      by_cases hc : c = client
      · subst hc
        obtain rfl := Option.mem_unique hs hsocket
        exact ⟨_, mem_update_some.2 (Or.inl ⟨rfl, rfl⟩), heq⟩
      · exact ⟨s, mem_update_some.2 (Or.inr ⟨hc, hs⟩), heq⟩
    · rintro ⟨s, hs, heq⟩
      rcases hmem c s hs with ⟨s₀, hs₀, -, hid⟩
      exact ⟨s₀, hs₀, hid.trans heq⟩
  · rw [h.clients]
    by_cases hc : c = client
    · subst hc
      simp [Option.mem_def.1 hsocket]
    · simp [hc]

theorem Tables.disconnected (h : Tables st) (hsocket : socket ∈ st.sockets client) :
    Tables (st.next (.disconnected client)) := by
  simp only [next, Option.mem_def.1 hsocket]
  refine { h with
    conn_lt := fun c s hs => h.conn_lt c s (mem_update_none.1 hs).2
    clientId := fun c s hs => h.clientId c s (mem_update_none.1 hs).2
    conn_inj := fun c c' s hs s' hs' =>
      h.conn_inj c c' s (mem_update_none.1 hs).2 s' (mem_update_none.1 hs').2
    clientMap := fun id c => ?_
    clients := fun c => ?_ }
  · change Function.update st.server.m_clientMap socket.clientId none id = some c ↔ _
    by_cases hid : id = socket.clientId
    · subst hid
      rw [Function.update_self]
      refine iff_of_false (fun heq => by cases heq) ?_
      rintro ⟨s, hs, heq⟩
      rcases mem_update_none.1 hs with ⟨hne, hold⟩
      -- equal numbers are equal connections, and these have one socket
      rw [h.clientId c s hold, h.clientId client socket hsocket] at heq
      have hconn := h.clientId_inj (h.conn_lt c s hold) (h.conn_lt client socket hsocket) heq
      exact hne (h.conn_inj c client s hold socket hsocket hconn)
    · rw [Function.update_of_ne hid, h.clientMap]
      constructor
      · rintro ⟨s, hold, heq⟩
        refine ⟨s, mem_update_none.2 ⟨?_, hold⟩, heq⟩
        rintro rfl
        obtain rfl := Option.mem_unique hold hsocket
        exact hid heq.symm
      · rintro ⟨s, hs, heq⟩
        exact ⟨s, (mem_update_none.1 hs).2, heq⟩
  · change c ∈ (st.server.m_clients.filter _).filter _ ↔ _
    rw [List.mem_filter, List.mem_filter, h.clients]
    by_cases hc : c = client
    · subst hc
      simp
    · simp [hc]

/-! ## Records and streams -/

theorem record_self (conn : Nat) (f : ConnectionRecord → ConnectionRecord) :
    st.record conn f conn = f (st.records conn) :=
  Function.update_self _ _ _

theorem record_of_ne {conn k : Nat} (h : k ≠ conn) (f : ConnectionRecord → ConnectionRecord) :
    st.record conn f k = st.records k :=
  Function.update_of_ne h _ _

/-- What a change of one record leaves, it leaves in all. -/
theorem map_record {β : Type} (st : TcpRouting) (conn : Nat)
    (f : ConnectionRecord → ConnectionRecord) (g : ConnectionRecord → β)
    (h : g (f (st.records conn)) = g (st.records conn)) (k : Nat) :
    g (st.record conn f k) = g (st.records k) := by
  by_cases hk : k = conn
  · subst hk
    rw [record_self, h]
  · rw [record_of_ne hk]

/-- The parsers know nothing of answers and writes. -/
theorem Streams.record (h : Streams st) {conn : Nat} (hlt : conn < st.connections)
    {f : ConnectionRecord → ConnectionRecord} (hchunks : ∀ r, (f r).chunks = r.chunks)
    (hpackets : ∀ r, (f r).packets = r.packets)
    (hdisconnected : ∀ r, (f r).disconnected = r.disconnected) :
    Streams { st with records := st.record conn f } where
  parsers := by
    intro c
    simp only [st.map_record conn f ConnectionRecord.chunks (hchunks _)]
    exact h.parsers c
  parsed := by
    intro k
    rw [st.map_record conn f ConnectionRecord.chunks (hchunks _),
      st.map_record conn f ConnectionRecord.packets (hpackets _)]
    exact h.parsed k
  alive := by
    intro c s hs
    rw [st.map_record conn f ConnectionRecord.disconnected (hdisconnected _)]
    exact h.alive c s hs
  fresh := by
    intro k hk
    have hne : k ≠ conn := Nat.ne_of_gt (Nat.lt_of_lt_of_le hlt hk)
    exact (record_of_ne hne f).trans (h.fresh k hk)

theorem Inv.parser (h : Inv st) (hsocket : socket ∈ st.sockets client) :
    st.server.m_clientParsers client = some
      { m_buffer := (ProtocolParser.pushAll (st.records socket.conn).chunks).2
        clientId := socket.clientId } := by
  rw [h.streams.parsers, Option.mem_def.1 hsocket]
  rfl

/-- A read goes to the parser of its connection only. -/
theorem Inv.streams_read (h : Inv st) (hsocket : socket ∈ st.sockets client) (data : QByteArray)
    {packets : List QByteArray}
    (hpackets : packets = ProtocolParser.udsPackets (ProtocolParser.pushData
      (ProtocolParser.pushAll (st.records socket.conn).chunks).2 data).1) :
    Streams { st with
      server := { st.server with
        m_clientParsers := Function.update st.server.m_clientParsers client (some
          { m_buffer := (ProtocolParser.pushData
              (ProtocolParser.pushAll (st.records socket.conn).chunks).2 data).2
            clientId := socket.clientId }) }
      records := st.record socket.conn (·.read data packets) } := by
  have hsnoc := ProtocolParser.pushAll_snoc (st.records socket.conn).chunks data
  have hlt := h.tables.conn_lt client socket hsocket
  refine
    { parsers := fun c => ?_
      parsed := fun k => ?_
      alive := fun c s hs => ?_
      fresh := fun k hk => ?_ } <;> dsimp only
  · by_cases hc : c = client
    · subst hc
      rw [Function.update_self, Option.mem_def.1 hsocket, Option.map_some, record_self,
        ConnectionRecord.read, hsnoc]
    · rw [Function.update_of_ne hc, h.streams.parsers]
      -- another socket stands for another connection
      refine Option.map_congr fun s hs => ?_
      have hne : s.conn ≠ socket.conn :=
        fun heq => hc (h.tables.conn_inj c client s hs socket hsocket heq)
      rw [record_of_ne hne]
  · by_cases hk : k = socket.conn
    · subst hk
      rw [record_self, ConnectionRecord.read, hsnoc, ProtocolParser.udsPackets_append, hpackets,
        ← h.streams.parsed]
    · rw [record_of_ne hk]
      exact h.streams.parsed k
  · rw [st.map_record socket.conn _ ConnectionRecord.disconnected rfl]
    exact h.streams.alive c s hs
  · have hne : k ≠ socket.conn := Nat.ne_of_gt (Nat.lt_of_lt_of_le hlt hk)
    rw [record_of_ne hne]
    exact h.streams.fresh k hk

theorem Inv.streams_disconnected (h : Inv st) (hsocket : socket ∈ st.sockets client) :
    Streams (st.next (.disconnected client)) := by
  have hlt := h.tables.conn_lt client socket hsocket
  have hchunks := st.map_record socket.conn ConnectionRecord.disconnect ConnectionRecord.chunks rfl
  have hpackets :=
    st.map_record socket.conn ConnectionRecord.disconnect ConnectionRecord.packets rfl
  simp only [next, Option.mem_def.1 hsocket]
  refine
    { parsers := fun c => ?_
      parsed := fun k => ?_
      alive := fun c s hs => ?_
      fresh := fun k hk => ?_ } <;> dsimp only
  · change Function.update st.server.m_clientParsers client none c = _
    by_cases hc : c = client
    · subst hc
      rw [Function.update_self, Function.update_self]
      rfl
    · simp only [Function.update_of_ne hc, hchunks]
      exact h.streams.parsers c
  · rw [hpackets, hchunks]
    exact h.streams.parsed k
  · rcases mem_update_none.1 hs with ⟨hne, hold⟩
    have hconn : s.conn ≠ socket.conn :=
      fun heq => hne (h.tables.conn_inj c client s hold socket hsocket heq)
    rw [record_of_ne hconn]
    exact h.streams.alive c s hold
  · have hne : k ≠ socket.conn := Nat.ne_of_gt (Nat.lt_of_lt_of_le hlt hk)
    rw [record_of_ne hne]
    exact h.streams.fresh k hk

/-! ## Queues -/

/-- The messages of a connection join its requests. -/
theorem Queues.ask (h : Queues st) {conn : Nat} (hlt : conn < st.connections) (data : QByteArray)
    {messages : List ClientMessage} (hmessages : ∀ m ∈ messages, m.clientId = clientIdOf conn ∧
      ∃ mem, m.msg = deserializeUDSMessage mem m.packet) :
    Queues { st with
      requests := st.requests ++ messages.map fun m =>
        { packet := m.packet, msg := m.msg, clientId := m.clientId, conn := conn }
      records := st.record conn (·.read data (messages.map ClientMessage.packet)) } := by
  -- reading adds packets to the record; its answers and what was written stay
  have hanswers := st.map_record conn (·.read data (messages.map ClientMessage.packet))
    ConnectionRecord.answers rfl
  have hwritten := st.map_record conn (·.read data (messages.map ClientMessage.packet))
    ConnectionRecord.written rfl
  refine
    { requests := fun request hmem => ?_
      responses := h.responses
      replies := fun k => ?_
      pending := fun k => ?_
      written := fun k => ?_
      unwritten := fun c s hs hconnected => ?_ } <;> dsimp only
  · rcases List.mem_append.1 hmem with hold | hnew
    · exact h.requests request hold
    · rcases List.mem_map.1 hnew with ⟨m, hm, rfl⟩
      exact ⟨hlt, hmessages m hm⟩
  · rw [hanswers]
    exact h.replies k
  · -- the packets read and the requests they become are all of `conn`
    rw [hanswers, share_append]
    by_cases hk : k = conn
    · subst hk
      rw [share_of_all (q := messages.map _), record_self, ConnectionRecord.read, ← h.pending,
        List.map_append, List.append_assoc, List.map_map]
      · rfl
      · intro x hx
        rcases List.mem_map.1 hx with ⟨m, -, rfl⟩
        rfl
    · rw [share_of_none (q := messages.map _), List.append_nil, record_of_ne hk]
      · exact h.pending k
      · intro x hx
        rcases List.mem_map.1 hx with ⟨m, -, rfl⟩
        exact Ne.symm hk
  · rw [hanswers, hwritten]
    exact h.written k
  · rw [hanswers, hwritten]
    exact h.unwritten c s hs hconnected

/-- The first request becomes an answer of its connection. -/
theorem Queues.answer (h : Queues st) {request : TcpRequest} {rest : List TcpRequest}
    (hqueue : st.requests = request :: rest) {response : UDSMessage}
    (hreply : IsReply ⟨request.packet, response⟩) :
    Queues { st with
      requests := rest
      responses := st.responses ++
        [{ msg := response, clientId := request.clientId, conn := request.conn }]
      records := st.record request.conn (·.answer ⟨request.packet, response⟩) } := by
  rcases h.requests request (by rw [hqueue]; exact List.mem_cons_self) with ⟨hlt, hid, -⟩
  -- an answer touches neither what was written nor the packets of a record
  have hwritten := st.map_record request.conn (·.answer ⟨request.packet, response⟩)
    ConnectionRecord.written rfl
  have hpackets := st.map_record request.conn (·.answer ⟨request.packet, response⟩)
    ConnectionRecord.packets rfl
  refine
    { requests := fun r hr => h.requests r (by rw [hqueue]; exact List.mem_cons_of_mem _ hr)
      responses := fun response hmem => ?_
      replies := fun k answer hmem => ?_
      pending := fun k => ?_
      written := fun k => ?_
      unwritten := fun c s hs hconnected => ?_ }
  · rcases List.mem_append.1 hmem with hold | hnew
    · exact h.responses response hold
    · obtain rfl := List.mem_singleton.1 hnew
      exact ⟨hlt, hid⟩
  · dsimp only at hmem
    by_cases hk : k = request.conn
    · subst hk
      rw [record_self, ConnectionRecord.answer] at hmem
      rcases List.mem_append.1 hmem with hold | hnew
      · exact h.replies _ answer hold
      · obtain rfl := List.mem_singleton.1 hnew
        exact hreply
    · rw [record_of_ne hk] at hmem
      exact h.replies k answer hmem
  · -- the packet goes from the requests to the answers
    have hpending := h.pending k
    dsimp only
    rw [hpackets, ← hpending, hqueue]
    by_cases hk : k = request.conn
    · subst hk
      rw [record_self, ConnectionRecord.answer, share_cons_self _ rfl, List.map_append,
        List.append_assoc]
      rfl
    · rw [record_of_ne hk, share_cons_ne _ (Ne.symm hk)]
  · dsimp only
    rw [hwritten]
    by_cases hk : k = request.conn
    · subst hk
      rw [record_self, ConnectionRecord.answer, List.map_append]
      exact (h.written _).trans (List.prefix_append _ _)
    · rw [record_of_ne hk]
      exact h.written k
  · have hunwritten := h.unwritten c s hs hconnected
    dsimp only
    rw [hwritten, share_append, List.map_append, ← List.append_assoc, hunwritten]
    by_cases hk : s.conn = request.conn
    · rw [hk, record_self, ConnectionRecord.answer, List.map_append, share_of_all]
      · rfl
      · intro x hx
        obtain rfl := List.mem_singleton.1 hx
        rfl
    · rw [record_of_ne hk, share_of_none, List.map_nil, List.append_nil]
      intro x hx
      obtain rfl := List.mem_singleton.1 hx
      exact Ne.symm hk

/-- The first response is lost to a connection that has no connected socket. -/
theorem Queues.drop (h : Queues st) {response : TcpResponse} {rest : List TcpResponse}
    (hqueue : st.responses = response :: rest)
    (hgone : ∀ c, ∀ s ∈ st.sockets c, s.connected = true → response.conn ≠ s.conn) :
    Queues { st with responses := rest } := by
  refine { h with
    responses := fun r hr => h.responses r (by rw [hqueue]; exact List.mem_cons_of_mem _ hr)
    unwritten := fun c s hs hconnected => ?_ }
  have hunwritten := h.unwritten c s hs hconnected
  rw [hqueue, share_cons_ne _ (hgone c s hs hconnected)] at hunwritten
  exact hunwritten

/-- The first response is written to the connected socket of its connection. -/
theorem Queues.deliver (h : Queues st) {response : TcpResponse} {rest : List TcpResponse}
    (hqueue : st.responses = response :: rest) (hsocket : socket ∈ st.sockets client)
    (hconn : socket.conn = response.conn) (hconnected : socket.connected = true) :
    Queues { st with
      responses := rest
      records := st.record socket.conn (·.write (constructUdsPacket response.msg)) } := by
  have hunwritten := h.unwritten client socket hsocket hconnected
  rw [hqueue, share_cons_self _ hconn.symm, List.map_cons, List.append_cons] at hunwritten
  -- a write touches neither the answers nor the packets of a record
  have hanswers := st.map_record socket.conn (·.write (constructUdsPacket response.msg))
    ConnectionRecord.answers rfl
  have hpackets := st.map_record socket.conn (·.write (constructUdsPacket response.msg))
    ConnectionRecord.packets rfl
  refine
    { requests := h.requests
      responses := fun r hr => h.responses r (by rw [hqueue]; exact List.mem_cons_of_mem _ hr)
      replies := fun k => ?_
      pending := fun k => ?_
      written := fun k => ?_
      unwritten := fun c s hs hstate => ?_ } <;> dsimp only
  · rw [hanswers]
    exact h.replies k
  · rw [hanswers, hpackets]
    exact h.pending k
  · -- what is still queued completes what is written
    rw [hanswers]
    by_cases hk : k = socket.conn
    · subst hk
      rw [record_self, ConnectionRecord.write]
      exact ⟨_, hunwritten⟩
    · rw [record_of_ne hk]
      exact h.written k
  · rw [hanswers]
    by_cases hk : s.conn = socket.conn
    · rw [hk, record_self, ConnectionRecord.write]
      exact hunwritten
    · have hother := h.unwritten c s hs hstate
      rw [hqueue, share_cons_ne _ (fun heq => hk (heq.symm.trans hconn.symm))] at hother
      rw [record_of_ne hk]
      exact hother

theorem Queues.disconnected (h : Queues st) (hsocket : socket ∈ st.sockets client) :
    Queues (st.next (.disconnected client)) := by
  have hpackets :=
    st.map_record socket.conn ConnectionRecord.disconnect ConnectionRecord.packets rfl
  have hanswers :=
    st.map_record socket.conn ConnectionRecord.disconnect ConnectionRecord.answers rfl
  have hwritten :=
    st.map_record socket.conn ConnectionRecord.disconnect ConnectionRecord.written rfl
  simp only [next, Option.mem_def.1 hsocket]
  refine
    { requests := h.requests
      responses := h.responses
      replies := fun k => ?_
      pending := fun k => ?_
      written := fun k => ?_
      unwritten := fun c s hs hconnected => ?_ } <;> dsimp only
  · rw [hanswers]
    exact h.replies k
  · rw [hanswers, hpackets]
    exact h.pending k
  · rw [hwritten, hanswers]
    exact h.written k
  · rw [hwritten, hanswers]
    exact h.unwritten c s (mem_update_none.1 hs).2 hconnected

/-! ## Events -/

theorem Inv.newConnection (h : Inv st) {connected : Bool} (hfree : st.sockets client = none)
    (hlt : st.connections + 1 < 2 ^ 31) : Inv (st.next (.newConnection client connected)) := by
  have hfresh := h.streams.fresh st.connections (Nat.le_refl _)
  -- the number of the connection is new: its record is empty and no packet is its own
  refine ⟨h.tables.newConnection hfree hlt, ?_, ?_⟩
  · refine
      { parsers := fun c => ?_
        parsed := h.streams.parsed
        alive := fun c s hs => ?_
        fresh := fun k hk => h.streams.fresh k (Nat.le_of_succ_le hk) }
    · change Function.update st.server.m_clientParsers client _ c =
        (Function.update st.sockets client _ c).map _
      by_cases hc : c = client
      · subst hc
        rw [Function.update_self, Function.update_self, Option.map_some]
        dsimp only [next]
        rw [hfresh]
        rfl
      · rw [Function.update_of_ne hc, Function.update_of_ne hc]
        exact h.streams.parsers c
    · rcases mem_update_some.1 hs with ⟨-, rfl⟩ | ⟨-, hold⟩
      · exact congrArg ConnectionRecord.disconnected hfresh
      · exact h.streams.alive c s hold
  · refine { h.queues with
      requests := fun request hmem => ?_
      responses := fun response hmem => ?_
      unwritten := fun c s hs hconnected => ?_ }
    · rcases h.queues.requests request hmem with ⟨hconn, hrest⟩
      exact ⟨Nat.lt_succ_of_lt hconn, hrest⟩
    · rcases h.queues.responses response hmem with ⟨hconn, hrest⟩
      exact ⟨Nat.lt_succ_of_lt hconn, hrest⟩
    · rcases mem_update_some.1 hs with ⟨-, rfl⟩ | ⟨-, hold⟩
      · -- nothing is queued for a connection that did not exist
        have hnone : share TcpResponse.conn st.connections st.responses = [] :=
          share_of_none _ fun r hr => Nat.ne_of_lt (h.queues.responses r hr).1
        dsimp only [next]
        rw [hfresh, hnone]
        rfl
      · exact h.queues.unwritten c s hold hconnected

theorem Inv.closing (h : Inv st) (hsocket : socket ∈ st.sockets client) :
    Inv (st.next (.closing client)) := by
  refine ⟨h.tables.closing hsocket, ?_, ?_⟩ <;> simp only [next, Option.mem_def.1 hsocket]
  · refine { h.streams with
      parsers := fun c => ?_
      alive := fun c s hs => ?_ } <;> dsimp only
    · rw [h.streams.parsers]
      by_cases hc : c = client
      · subst hc
        rw [Function.update_self, Option.mem_def.1 hsocket]
        rfl
      · rw [Function.update_of_ne hc]
    · rcases mem_update_some.1 hs with ⟨-, rfl⟩ | ⟨-, hold⟩
      · exact h.streams.alive client socket hsocket
      · exact h.streams.alive c s hold
  · refine { h.queues with
      unwritten := fun c s hs hconnected => ?_ }
    rcases mem_update_some.1 hs with ⟨-, rfl⟩ | ⟨-, hold⟩
    · -- nothing more is owed to this socket
      cases hconnected
    · exact h.queues.unwritten c s hold hconnected

theorem Inv.readyRead (h : Inv st) (hsocket : socket ∈ st.sockets client) (data : QByteArray)
    (mem : Nat → UDSMessage.Memory) : Inv (st.next (.readyRead client data mem)) := by
  have hparser := h.parser hsocket
  have hserver := congrArg Prod.fst (TcpWorkerServer.onClientReadyRead_eq data mem hparser)
  have hpackets := TcpWorkerServer.packets_onClientReadyRead data mem hparser
  have hmessages := fun m => TcpWorkerServer.mem_onClientReadyRead data mem hparser (m := m)
  simp only [next, Option.mem_def.1 hsocket]
  generalize st.server.onClientReadyRead client data mem = r at *
  rcases r with ⟨server, messages⟩
  dsimp only at hserver hpackets hmessages ⊢
  subst hserver
  refine ⟨{ h.tables with }, { h.streams_read hsocket data hpackets with }, ?_⟩
  have hasked := h.queues.ask (h.tables.conn_lt client socket hsocket) data fun m hm =>
    ⟨(hmessages m hm).1.trans (h.tables.clientId client socket hsocket), (hmessages m hm).2⟩
  exact { hasked with }

theorem Inv.tcpRequest (h : Inv st) (env : HandlerEnv) (now latencyUs : Int64) :
    Inv (st.next (.tcpRequest env now latencyUs)) := by
  cases hqueue : st.requests with
  | nil =>
      simp only [next, hqueue]
      exact h
  | cons request rest =>
      rcases h.queues.requests request (by rw [hqueue]; exact List.mem_cons_self) with
        ⟨hlt, -, mem, hmsg⟩
      -- the worker answers every request
      rcases UdsWorker.worker_replies st.m_handler
        { source := .tcp request.clientId.toInt, env, now, latencyUs, msg := request.msg } with
        ⟨reply, hreply, -⟩
      have hstep : (UdsWorker.onTcpUdsMessageReceived st.m_handler env now latencyUs request.msg
          request.clientId.toInt).2 = some reply := hreply
      have hanswered := h.queues.answer hqueue
        ⟨st.m_handler, _, mem, hmsg, reply, hreply, rfl⟩
      simp only [next, hqueue, hstep]
      exact ⟨{ h.tables with },
        { h.streams.record (f := (·.answer ⟨request.packet, reply.response⟩)) hlt (fun _ => rfl)
            (fun _ => rfl) (fun _ => rfl) with }, { hanswered with }⟩

theorem Inv.canRequest (h : Inv st) (env : HandlerEnv) (now latencyUs : Int64) (msg : UDSMessage) :
    Inv (st.next (.canRequest env now latencyUs msg)) :=
  ⟨{ h.tables with }, { h.streams with }, { h.queues with }⟩

theorem Inv.tcpResponse (h : Inv st) : Inv (st.next .tcpResponse) := by
  cases hqueue : st.responses with
  | nil =>
      simp only [next, hqueue]
      exact h
  | cons response rest =>
      have hmem : response ∈ st.responses := by
        rw [hqueue]
        exact List.mem_cons_self
      cases hwrite : st.write response with
      | none =>
          -- with a connected socket of its connection it would have been written
          simp only [next, hqueue, hwrite]
          refine ⟨{ h.tables with }, { h.streams with }, h.queues.drop hqueue ?_⟩
          intro c s hs hconnected heq
          have hsome := (h.write_eq_some_iff hmem).2 ⟨rfl, s, hs, heq.symm, hconnected⟩
          cases hwrite.symm.trans hsome
      | some target =>
          rcases target with ⟨client, packet⟩
          rcases (h.write_eq_some_iff hmem).1 hwrite with
            ⟨rfl, socket, hsocket, hconn, hconnected⟩
          simp only [next, hqueue, hwrite, recordWrite, Option.mem_def.1 hsocket]
          have hlt := h.tables.conn_lt client socket hsocket
          exact ⟨{ h.tables with },
            { h.streams.record (f := (·.write (constructUdsPacket response.msg))) hlt (fun _ => rfl)
                (fun _ => rfl) (fun _ => rfl) with },
            h.queues.deliver hqueue hsocket hconn hconnected⟩

theorem Inv.disconnected (h : Inv st) (hsocket : socket ∈ st.sockets client) :
    Inv (st.next (.disconnected client)) :=
  ⟨h.tables.disconnected hsocket, h.streams_disconnected hsocket, h.queues.disconnected hsocket⟩

end

/-! ## Whole runs -/

theorem inv_init : Inv {} where
  tables :=
    { connections_lt := by decide
      nextClientId := by decide
      conn_lt := fun _ _ h => by cases h
      clientId := fun _ _ h => by cases h
      conn_inj := fun _ _ _ h => by cases h
      clientMap := fun _ _ => iff_of_false (fun h => by cases h) (fun ⟨_, h, _⟩ => by cases h)
      clients := fun _ => iff_of_false (fun h => by cases h) (fun h => by cases h) }
  streams :=
    { parsers := fun _ => rfl
      parsed := fun _ => rfl
      alive := fun _ _ h => by cases h
      fresh := fun _ _ => rfl }
  queues :=
    { requests := fun _ h => by cases h
      responses := fun _ h => by cases h
      replies := fun _ _ h => by cases h
      pending := fun _ => rfl
      written := fun _ => List.prefix_rfl
      unwritten := fun _ _ h => by cases h }

theorem Inv.next {st : TcpRouting} (h : Inv st) (e : RoutingEvent) (hpossible : st.Possible e) :
    Inv (st.next e) := by
  cases e with
  | newConnection client connected => exact h.newConnection hpossible.1 hpossible.2
  | tcpRequest env now latencyUs => exact h.tcpRequest env now latencyUs
  | canRequest env now latencyUs msg => exact h.canRequest env now latencyUs msg
  | tcpResponse => exact h.tcpResponse
  | readyRead client data mem =>
      cases hsocket : st.sockets client with
      | none =>
          simp only [TcpRouting.next, hsocket]
          exact h
      | some socket => exact h.readyRead hsocket data mem
  | closing client =>
      cases hsocket : st.sockets client with
      | none =>
          simp only [TcpRouting.next, hsocket]
          exact h
      | some socket => exact h.closing hsocket
  | disconnected client =>
      cases hsocket : st.sockets client with
      | none =>
          simp only [TcpRouting.next, hsocket]
          exact h
      | some socket => exact h.disconnected hsocket

end TcpRouting
end Server
end TcpCanUds
