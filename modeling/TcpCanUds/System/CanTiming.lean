import TcpCanUds.Lib.StampedQueue
import TcpCanUds.System.CanDelivery

/-!
# CanTiming — polls and frames on one clock

Both poll timers fire every hundred milliseconds and every frame takes one to five.  A timer that is
set when a frame arrives runs for a hundred milliseconds too, so the client's own poll can find it
expired between two frames that the server sent a hundred milliseconds apart.
-/

namespace TcpCanUds
namespace System

open Lib IsoTp Server Client CanSystem

/-! ## Two poll timers and a bus on one clock -/

/-- The parties with a clock in milliseconds, the times their poll timers fire next, when each frame
on the bus was sent, and when frames arrived at the client, newest first. -/
structure TimedCan where
  can : CanSystem
  now : Nat
  nextServerPoll : Nat
  nextClientPoll : Nat
  toClientSent : List Nat := []
  toServerSent : List Nat := []
  arrivals : List Nat := []
  deriving DecidableEq, Repr

inductive TimedAction where
  | tick
  | serverPoll
  | clientPoll
  | deliverToServer
  | deliverToClient
  deriving DecidableEq, Repr

namespace TimedCan

/-- The interval of both poll timers. -/
abbrev pollInterval : Nat := 100

/-- What a frame takes at least, and at most. -/
abbrev minDelay : Nat := 1

abbrev maxDelay : Nat := 5

/-- What `isotp_user_get_ms` returns. -/
def ms (st : TimedCan) : UInt32 :=
  UInt32.ofNat st.now

/-- The parties after an action, with what is left of the times of the frames on the bus. -/
def carry (st : TimedCan) (can : CanSystem) (toClientSent toServerSent : List Nat) : TimedCan :=
  { st with
    can := can
    toClientSent := stampedAt st.now toClientSent can.toClient
    toServerSent := stampedAt st.now toServerSent can.toServer }

/-- The server's worker is handed a message. -/
def send (st : TimedCan) (msg : UDSMessage) : TimedCan :=
  st.carry (st.can.send st.ms msg) st.toClientSent st.toServerSent

def next (mem : UDSMessage.Memory) (st : TimedCan) : TimedAction → TimedCan
  | .tick => { st with now := st.now + 1 }
  | .serverPoll =>
      { st.carry (st.can.next mem (.serverPoll st.ms)) st.toClientSent st.toServerSent with
        nextServerPoll := st.nextServerPoll + pollInterval }
  | .clientPoll =>
      { st.carry (st.can.next mem (.clientPoll st.ms)) st.toClientSent st.toServerSent with
        nextClientPoll := st.nextClientPoll + pollInterval }
  | .deliverToServer =>
      st.carry (st.can.next mem (.deliverToServer st.ms)) st.toClientSent st.toServerSent.tail
  | .deliverToClient =>
      { st.carry (st.can.next mem (.deliverToClient st.ms)) st.toClientSent.tail
          st.toServerSent with
        arrivals := st.now :: st.arrivals }

def timedMachine (mem : UDSMessage.Memory) (st : TimedCan) : Machine TimedCan TimedAction Unit where
  init := st
  step st a := (st.next mem a, ())

/-- The timers fire when they are due and frames take their time; the clock waits for both. -/
def OnTime (st : TimedCan) : TimedAction → Prop
  | .tick =>
      st.now < st.nextServerPoll ∧ st.now < st.nextClientPoll ∧
        ∀ sent ∈ st.toClientSent ++ st.toServerSent, st.now < sent + maxDelay
  | .serverPoll => st.now = st.nextServerPoll
  | .clientPoll => st.now = st.nextClientPoll
  | .deliverToServer => ∃ sent ∈ st.toServerSent.head?, sent + minDelay ≤ st.now
  | .deliverToClient => ∃ sent ∈ st.toClientSent.head?, sent + minDelay ≤ st.now

instance (st : TimedCan) (a : TimedAction) : Decidable (st.OnTime a) :=
  match a with
  | .tick =>
      inferInstanceAs (Decidable (st.now < st.nextServerPoll ∧ st.now < st.nextClientPoll ∧
        ∀ sent ∈ st.toClientSent ++ st.toServerSent, st.now < sent + maxDelay))
  | .serverPoll => inferInstanceAs (Decidable (st.now = st.nextServerPoll))
  | .clientPoll => inferInstanceAs (Decidable (st.now = st.nextClientPoll))
  | .deliverToServer =>
      inferInstanceAs (Decidable (∃ sent ∈ st.toServerSent.head?, sent + minDelay ≤ st.now))
  | .deliverToClient =>
      inferInstanceAs (Decidable (∃ sent ∈ st.toClientSent.head?, sent + minDelay ≤ st.now))

/-- Idle links, and poll timers at any phase. -/
structure Ready (st : TimedCan) (slink clink : IsoTpLink) : Prop where
  idle : st.can.Idle slink clink
  serverPoll : st.now ≤ st.nextServerPoll ∧ st.nextServerPoll ≤ st.now + pollInterval
  clientPoll : st.now ≤ st.nextClientPoll ∧ st.nextClientPoll ≤ st.now + pollInterval
  toClientSent : st.toClientSent = []
  toServerSent : st.toServerSent = []
  arrivals : st.arrivals = []

/-- Links behind `init` at time zero; the arguments are the times of the first polls. -/
def start (nextServerPoll nextClientPoll : Nat) : TimedCan where
  can := CanSystem.init (IsoTpBuffers.zero _) (IsoTpBuffers.zero _)
  now := 0
  nextServerPoll := nextServerPoll
  nextClientPoll := nextClientPoll

theorem ready_start {nextServerPoll nextClientPoll : Nat} (hserver : nextServerPoll ≤ pollInterval)
    (hclient : nextClientPoll ≤ pollInterval) :
    Ready (start nextServerPoll nextClientPoll)
      (isotpInitLink CanId.udsResp (IsoTpBuffers.zero Server.isoTpBufferSize))
      (CanInterFace.init (IsoTpBuffers.zero _)).m_iso_link where
  idle := idle_init _ _
  serverPoll := ⟨Nat.zero_le _, hserver.trans (Nat.le_add_left _ _)⟩
  clientPoll := ⟨Nat.zero_le _, hclient.trans (Nat.le_add_left _ _)⟩
  toClientSent := rfl
  toServerSent := rfl
  arrivals := rfl

/-- The action makes neither party's result a timeout. -/
def TimeoutFree (mem : UDSMessage.Memory) (st : TimedCan) (a : TimedAction) : Prop :=
  (∀ link ∈ (st.next mem a).can.server.m_isoTpLink, link.send_protocol_result = .timeoutBs →
      ∃ link ∈ st.can.server.m_isoTpLink, link.send_protocol_result = .timeoutBs) ∧
    ((st.next mem a).can.client.m_iso_link.receive_protocol_result = .timeoutCr →
      st.can.client.m_iso_link.receive_protocol_result = .timeoutCr)

instance (mem : UDSMessage.Memory) (st : TimedCan) (a : TimedAction) :
    Decidable (st.TimeoutFree mem a) :=
  inferInstanceAs (Decidable (_ ∧ _))

/-- Between the first and the last of `frames` frames, the client's timer fires at most a hundred
milliseconds behind the latest one. -/
def InTime (frames : Nat) (st : TimedCan) : TimedAction → Prop
  | .clientPoll =>
      st.arrivals.length < frames → ∀ arrival ∈ st.arrivals.head?, st.now ≤ arrival + 100
  | _ => True

instance (frames : Nat) (st : TimedCan) (a : TimedAction) : Decidable (st.InTime frames a) :=
  match a with
  | .clientPoll =>
      inferInstanceAs (Decidable (st.arrivals.length < frames →
        ∀ arrival ∈ st.arrivals.head?, st.now ≤ arrival + 100))
  | .tick | .serverPoll | .deliverToServer | .deliverToClient => isTrue trivial

/-! ## Times along a delivery -/

/-- A delivery whose frames are on time; the server's last frame was sent at `sentAt`. -/
structure Timed (mem : UDSMessage.Memory) (p : QByteArray) (n d c sentAt : Nat) (st : TimedCan)
    (slink clink : IsoTpLink) : Prop where
  delivery : st.can.Delivery mem p n d c slink clink
  sentAt_le : sentAt ≤ st.now
  -- the timer is looked at only when the granted frames are used up
  timerBs : n = 8 * c →
    slink.send_timer_bs = UInt32.ofNat sentAt + isoTpDefaultResponseTimeout
  timerCr : d ≤ consecutiveCount p → ∀ arrival ∈ st.arrivals.head?,
    clink.receive_timer_cr = UInt32.ofNat arrival + isoTpDefaultResponseTimeout
  arrivals : st.arrivals.length = d
  arrived : ∀ arrival ∈ st.arrivals.head?, arrival ≤ st.now
  toClientSent : st.toClientSent.length = n + 1 - d
  toClientTimes : ∀ sent ∈ st.toClientSent, st.now ≤ sent + maxDelay ∧ sent ≤ sentAt
  toServerSent : st.toServerSent.length = grantsGiven p d - c
  toServerTimes : ∀ sent ∈ st.toServerSent, st.now ≤ sent + maxDelay ∧ sent ≤ sentAt + maxDelay
  clientPoll : st.now ≤ st.nextClientPoll ∧ st.nextClientPoll ≤ st.now + pollInterval
  -- the client's poll lies at most one interval behind the expiry of its timer
  nextPoll : d ≤ consecutiveCount p → ∀ arrival ∈ st.arrivals.head?,
    st.nextClientPoll ≤ arrival + 100 + pollInterval

section

variable {mem : UDSMessage.Memory} {p : QByteArray} {n d c sentAt : Nat} {st : TimedCan}
  {slink clink : IsoTpLink}

/-- The last frame of a block is answered by a flow control frame within two delays. -/
theorem Timed.now_le_of_waiting (h : Timed mem p n d c sentAt st slink clink)
    (hn : n < consecutiveCount p) (hc : n = 8 * c) : st.now ≤ sentAt + 10 := by
  have hle := h.delivery.taken_le
  by_cases hd : d < n + 1
  · -- the frame is on its way
    rcases List.exists_mem_of_length_pos (by rw [h.toClientSent]; omega) with ⟨sent, hsent⟩
    have htimes := h.toClientTimes sent hsent
    calc
      st.now ≤ sent + maxDelay := htimes.1
      _ ≤ sentAt + maxDelay := Nat.add_le_add_right htimes.2 _
      _ ≤ sentAt + 10 := Nat.add_le_add_left (by decide) _
  · -- the flow control frame is
    have hgrants : grantsGiven p d = c + 1 := by
      rw [grantsGiven, if_neg (by omega)]
      omega
    rcases List.exists_mem_of_length_pos (by rw [h.toServerSent]; omega) with ⟨sent, hsent⟩
    have htimes := h.toServerTimes sent hsent
    calc
      st.now ≤ sent + maxDelay := htimes.1
      _ ≤ sentAt + maxDelay + maxDelay := Nat.add_le_add_right htimes.2 _
      _ = sentAt + 10 := rfl

/-- The server's timer never expires. -/
theorem Timed.serverTimer (h : Timed mem p n d c sentAt st slink clink) :
    st.can.TimersHold (.serverPoll st.ms) := by
  intro link hlink hin hmay
  rw [h.delivery.server] at hlink
  obtain rfl := Option.mem_some_iff.1 hlink
  have hn := h.delivery.sends.inprogress_iff.1 hin
  rw [h.delivery.sends.maySend_iff] at hmay
  -- in progress without a grant left
  have hc : n = 8 * c := by
    have hle := h.delivery.sent_le_grants
    omega
  have hnow := h.now_le_of_waiting hn hc
  have hsent := h.sentAt_le
  rw [h.timerBs hc, ms, timeAfter_ofNat hsent (by omega), decide_eq_false_iff_not]
  omega

/-- The client's timer holds at a poll that comes in time. -/
theorem Timed.clientTimer (h : Timed mem p n d c sentAt st slink clink)
    (htime : st.InTime (consecutiveCount p + 1) .clientPoll) :
    st.can.TimersHold (.clientPoll st.ms) := by
  intro hin
  rw [h.delivery.client] at hin ⊢
  cases h.delivery.taking with
  | waiting _ hstatus => cases hstatus.symm.trans hin
  | done _ hstatus => cases hstatus.symm.trans hin
  | taking k hk hlt hreceives =>
      rcases List.exists_cons_of_length_pos (by rw [h.arrivals, hk]; omega) with
        ⟨arrival, earlier, harrivals⟩
      have hmem : arrival ∈ st.arrivals.head? := by
        rw [harrivals]
        rfl
      have hle := htime (by rw [h.arrivals, hk]; omega) arrival hmem
      have harrived := h.arrived arrival hmem
      rw [h.timerCr (by omega) arrival hmem, ms, timeAfter_ofNat harrived (by omega),
        decide_eq_false_iff_not]
      omega

/-! ### What each action keeps -/

theorem Timed.tick (h : Timed mem p n d c sentAt st slink clink) (hon : st.OnTime .tick) :
    Timed mem p n d c sentAt (st.next mem .tick) slink clink := by
  rcases hon with ⟨-, hclient, hframes⟩
  refine { h with
    sentAt_le := Nat.le_succ_of_le h.sentAt_le
    arrived := fun arrival hmem => Nat.le_succ_of_le (h.arrived arrival hmem)
    toClientTimes := fun sent hmem =>
      ⟨hframes sent (List.mem_append_left _ hmem), (h.toClientTimes sent hmem).2⟩
    toServerTimes := fun sent hmem =>
      ⟨hframes sent (List.mem_append_right _ hmem), (h.toServerTimes sent hmem).2⟩
    clientPoll := ⟨hclient, ?_⟩ }
  have hle := h.clientPoll.2
  change st.nextClientPoll ≤ st.now + 1 + pollInterval
  omega

theorem Timed.stamped_toClient (h : Timed mem p n d c sentAt st slink clink) :
    stampedAt st.now st.toClientSent st.can.toClient = st.toClientSent :=
  stampedAt_same (h.toClientSent.trans h.delivery.length_toClient.symm)

theorem Timed.stamped_toServer (h : Timed mem p n d c sentAt st slink clink) :
    stampedAt st.now st.toServerSent st.can.toServer = st.toServerSent :=
  stampedAt_same (h.toServerSent.trans h.delivery.length_toServer.symm)

theorem Timed.carry_self (h : Timed mem p n d c sentAt st slink clink) :
    st.carry st.can st.toClientSent st.toServerSent = st := by
  rw [carry, h.stamped_toClient, h.stamped_toServer]

theorem Timed.serverPoll (h : Timed mem p n d c sentAt st slink clink) :
    ∃ n' sentAt' slink', Timed mem p n' d c sentAt' (st.next mem .serverPoll) slink' clink := by
  by_cases hsends : n < consecutiveCount p ∧ n < 8 * c
  · rcases h.delivery.sendNext hsends.1 hsends.2 st.ms with ⟨slink', hnext, htimer⟩
    have hlength := hnext.length_toClient
    have hclient := h.toClientSent
    have htaken := h.delivery.taken_le
    -- one frame joins those to the client, none those to the server
    have hserver : stampedAt st.now st.toServerSent
        (st.can.next mem (.serverPoll st.ms)).toServer = st.toServerSent :=
      stampedAt_same (h.toServerSent.trans hnext.length_toServer.symm)
    refine ⟨n + 1, st.now, slink', { h with
      delivery := hnext
      sentAt_le := Nat.le_refl _
      timerBs := fun _ => htimer
      toClientSent := (length_stampedAt (by omega)).trans hlength
      toClientTimes := fun sent hmem => ?_
      toServerSent := (congrArg List.length hserver).trans h.toServerSent
      toServerTimes := fun sent hmem => ?_ }⟩
    · rcases mem_stampedAt hmem with hold | rfl
      · have htimes := h.toClientTimes sent hold
        exact ⟨htimes.1, Nat.le_trans htimes.2 h.sentAt_le⟩
      · exact ⟨Nat.le_add_right _ _, Nat.le_refl _⟩
    · have hold : sent ∈ st.toServerSent := hserver ▸ hmem
      have htimes := h.toServerTimes sent hold
      have hle := h.sentAt_le
      exact ⟨htimes.1, by omega⟩
  · have hquiet := h.delivery.serverPoll_quiet hsends st.ms h.serverTimer
    refine ⟨n, sentAt, slink, ?_⟩
    rw [next, hquiet, h.carry_self]
    exact { h with }

theorem Timed.clientPoll_inTime (h : Timed mem p n d c sentAt st slink clink)
    (hon : st.OnTime .clientPoll) (htime : st.InTime (consecutiveCount p + 1) .clientPoll) :
    Timed mem p n d c sentAt (st.next mem .clientPoll) slink clink := by
  have hon : st.now = st.nextClientPoll := hon
  rw [next, h.delivery.clientPoll st.ms (h.clientTimer htime), h.carry_self]
  refine { h with
    clientPoll := ⟨?_, ?_⟩
    nextPoll := fun hd arrival hmem => ?_ }
  · exact Nat.le_trans h.clientPoll.1 (Nat.le_add_right _ _)
  · exact Nat.le_of_eq (by rw [hon])
  · have hle := htime (by rw [h.arrivals]; omega) arrival hmem
    change st.nextClientPoll + pollInterval ≤ arrival + 100 + pollInterval
    omega

/-- A frame that arrives leaves the times of the others. -/
theorem exists_tail_of_head {sent : Nat} {times : List Nat} (h : sent ∈ times.head?) :
    times = sent :: times.tail := by
  cases times with
  | nil => cases h
  | cons first rest =>
      obtain rfl := Option.mem_some_iff.1 h
      rfl

theorem Timed.deliverToServer (hpos : 0 < consecutiveCount p)
    (h : Timed mem p n d c sentAt st slink clink) (hon : st.OnTime .deliverToServer) :
    ∃ slink', Timed mem p n d (c + 1) sentAt (st.next mem .deliverToServer) slink' clink := by
  rcases hon with ⟨first, hfirst, -⟩
  have hcons := exists_tail_of_head hfirst
  have hlength := congrArg List.length hcons
  rw [h.toServerSent, List.length_cons] at hlength
  rcases h.delivery.takeGrant hpos (by omega) st.ms with ⟨slink', hnext⟩
  have hle := h.delivery.sent_le_grants
  have hclient : stampedAt st.now st.toClientSent
      (st.can.next mem (.deliverToServer st.ms)).toClient = st.toClientSent :=
    stampedAt_same (h.toClientSent.trans hnext.length_toClient.symm)
  have hserver : stampedAt st.now st.toServerSent.tail
      (st.can.next mem (.deliverToServer st.ms)).toServer = st.toServerSent.tail :=
    stampedAt_same (by rw [hnext.length_toServer]; omega)
  refine ⟨slink', { h with
    delivery := hnext
    timerBs := fun hc => by omega
    toClientSent := (congrArg List.length hclient).trans h.toClientSent
    toClientTimes := fun sent hmem => h.toClientTimes sent (hclient ▸ hmem)
    toServerSent := (congrArg List.length hserver).trans (by omega)
    toServerTimes := fun sent hmem => ?_ }⟩
  have hrest : sent ∈ st.toServerSent.tail := hserver ▸ hmem
  exact h.toServerTimes sent (List.mem_of_mem_tail hrest)

theorem Timed.deliverToClient (hlong : 8 ≤ p.length) (hsize : p.length ≤ Client.isoTpBufferSize)
    (h : Timed mem p n d c sentAt st slink clink) (hon : st.OnTime .deliverToClient) :
    ∃ clink', Timed mem p n (d + 1) c sentAt (st.next mem .deliverToClient) slink clink' := by
  rcases hon with ⟨first, hfirst, -⟩
  have hcons := exists_tail_of_head hfirst
  have hlength := congrArg List.length hcons
  rw [h.toClientSent, List.length_cons] at hlength
  rcases h.delivery.takeFrame hlong hsize (by omega) st.ms with ⟨clink', hnext, htimer⟩
  have hclient : stampedAt st.now st.toClientSent.tail
      (st.can.next mem (.deliverToClient st.ms)).toClient = st.toClientSent.tail :=
    stampedAt_same (by rw [hnext.length_toClient]; omega)
  have hgrants := grantsGiven_le_succ (p := p) (d := d)
  have hserver := hnext.length_toServer
  have hserverSent := h.toServerSent
  have hnow := h.toClientTimes first (hcons ▸ List.mem_cons_self)
  -- the frame arrives now, and only now the timer for the next one starts
  refine ⟨clink', { h with
    delivery := hnext
    timerCr := fun hd arrival hmem => ?_
    arrivals := congrArg (· + 1) h.arrivals
    arrived := fun arrival hmem => ?_
    toClientSent := (congrArg List.length hclient).trans (by omega)
    toClientTimes := fun sent hmem => ?_
    toServerSent := (length_stampedAt (by omega)).trans hserver
    toServerTimes := fun sent hmem => ?_
    nextPoll := fun hd arrival hmem => ?_ }⟩
  · obtain rfl : st.now = arrival := Option.mem_some_iff.1 hmem
    exact htimer hd
  · obtain rfl : st.now = arrival := Option.mem_some_iff.1 hmem
    exact Nat.le_refl _
  · have hrest : sent ∈ st.toClientSent.tail := hclient ▸ hmem
    exact h.toClientTimes sent (List.mem_of_mem_tail hrest)
  · rcases mem_stampedAt hmem with hold | rfl
    · exact h.toServerTimes sent hold
    · -- a grant sent now answers a frame that took no more than its time
      refine ⟨Nat.le_add_right _ _, ?_⟩
      omega
  · obtain rfl : st.now = arrival := Option.mem_some_iff.1 hmem
    have hle := h.clientPoll.2
    change st.nextClientPoll ≤ st.now + 100 + pollInterval
    omega

/-! ## Whole runs -/

theorem timed_send (mem : UDSMessage.Memory) {msg : UDSMessage} (h : Ready st slink clink)
    (hlong : 8 ≤ (serializeUDSMessage msg).length)
    (hsize : (serializeUDSMessage msg).length ≤ Client.isoTpBufferSize) :
    ∃ slink', Timed mem (serializeUDSMessage msg) 0 0 0 st.now (st.send msg) slink' clink := by
  rcases delivery_send mem h.idle hlong hsize st.ms with ⟨slink', hsent, htimer⟩
  have hclient := hsent.length_toClient
  have hserver := hsent.length_toServer
  -- one frame is on the bus, sent now, and nothing has arrived
  have hclientTimes : (st.send msg).toClientSent = [st.now] := by
    change stampedAt st.now st.toClientSent _ = _
    rw [h.toClientSent, stampedAt, hclient]
    rfl
  have hserverTimes : (st.send msg).toServerSent = [] := by
    change stampedAt st.now st.toServerSent _ = _
    rw [h.toServerSent, stampedAt, hserver]
    rfl
  have harrivals : (st.send msg).arrivals.head? = none := congrArg List.head? h.arrivals
  refine ⟨slink',
    { delivery := hsent
      sentAt_le := Nat.le_refl _
      timerBs := fun _ => htimer
      timerCr := fun _ arrival hmem => ?_
      arrivals := congrArg List.length h.arrivals
      arrived := fun arrival hmem => ?_
      toClientSent := congrArg List.length hclientTimes
      toClientTimes := fun sent hmem => ?_
      toServerSent := congrArg List.length hserverTimes
      toServerTimes := fun sent hmem => ?_
      clientPoll := h.clientPoll
      nextPoll := fun _ arrival hmem => ?_ }⟩
  · cases harrivals.symm.trans hmem
  · cases harrivals.symm.trans hmem
  · rw [hclientTimes] at hmem
    obtain rfl := List.mem_singleton.1 hmem
    exact ⟨Nat.le_add_right _ _, Nat.le_refl _⟩
  · rw [hserverTimes] at hmem
    cases hmem
  · cases harrivals.symm.trans hmem

/-- A response of several frames is under way, all on time. -/
def TimelyDelivery (mem : UDSMessage.Memory) (p : QByteArray) (st : TimedCan) : Prop :=
  ∃ n d c sentAt slink clink, Timed mem p n d c sentAt st slink clink

/-- An action behind which the delivery goes on, and from which the client's link comes out
untouched or with a frame taken, makes no timeout. -/
theorem Timed.timeoutFree {n' d' c' sentAt' : Nat} {slink' clink' : IsoTpLink} {a : TimedAction}
    (h : Timed mem p n d c sentAt st slink clink)
    (hnext : Timed mem p n' d' c' sentAt' (st.next mem a) slink' clink')
    (hclient : 0 < d' ∨ clink' = clink) : TimeoutFree mem st a := by
  refine ⟨fun link hlink hresult => ?_, fun hresult => ?_⟩
  · rw [hnext.delivery.server] at hlink
    obtain rfl := Option.mem_some_iff.1 hlink
    cases hnext.delivery.sends.result.symm.trans hresult
  · rw [hnext.delivery.client] at hresult
    rcases hclient with hd | rfl
    · exact absurd hresult (hnext.delivery.noTimeout hd)
    · rw [h.delivery.client]
      exact hresult

theorem TimelyDelivery.next (hlong : 8 ≤ p.length) (hsize : p.length ≤ Client.isoTpBufferSize)
    (h : TimelyDelivery mem p st) {a : TimedAction} (hon : st.OnTime a)
    (htime : st.InTime (consecutiveCount p + 1) a) :
    TimelyDelivery mem p (st.next mem a) ∧ TimeoutFree mem st a := by
  rcases h with ⟨n, d, c, sentAt, slink, clink, h⟩
  cases a with
  | tick =>
      have hnext := h.tick hon
      exact ⟨⟨_, _, _, _, _, _, hnext⟩, h.timeoutFree hnext (Or.inr rfl)⟩
  | serverPoll =>
      rcases h.serverPoll with ⟨n', sentAt', slink', hnext⟩
      exact ⟨⟨_, _, _, _, _, _, hnext⟩, h.timeoutFree hnext (Or.inr rfl)⟩
  | clientPoll =>
      have hnext := h.clientPoll_inTime hon htime
      exact ⟨⟨_, _, _, _, _, _, hnext⟩, h.timeoutFree hnext (Or.inr rfl)⟩
  | deliverToServer =>
      rcases h.deliverToServer (by rw [consecutiveCount]; omega) hon with ⟨slink', hnext⟩
      exact ⟨⟨_, _, _, _, _, _, hnext⟩, h.timeoutFree hnext (Or.inr rfl)⟩
  | deliverToClient =>
      rcases h.deliverToClient hlong hsize hon with ⟨clink', hnext⟩
      exact ⟨⟨_, _, _, _, _, _, hnext⟩, h.timeoutFree hnext (Or.inl (Nat.succ_pos d))⟩

/-- A poll of the client that comes too late finds the timer expired. -/
theorem TimelyDelivery.inTime (h : TimelyDelivery mem p st) {a : TimedAction} (hon : st.OnTime a)
    (hfree : TimeoutFree mem st a) : st.InTime (consecutiveCount p + 1) a := by
  rcases h with ⟨n, d, c, sentAt, slink, clink, h⟩
  cases a with
  | tick | serverPoll | deliverToServer | deliverToClient => trivial
  | clientPoll =>
      intro hlt arrival hmem
      by_contra hlate
      rw [h.arrivals] at hlt
      have hnow : st.now = st.nextClientPoll := hon
      have harrived := h.arrived arrival hmem
      have hpoll : st.nextClientPoll ≤ arrival + 100 + 100 := h.nextPoll (by omega) arrival hmem
      have hd : 0 < d := by
        rw [← h.arrivals]
        exact List.length_pos_of_mem (List.mem_of_mem_head? hmem)
      have hstatus : clink.receive_status = .inprogress := by
        cases h.delivery.taking with
        | waiting hzero => omega
        | taking _ _ _ hreceives => exact hreceives.status
        | done hall => omega
      -- the poll is late, but not so late that the comparison of the times wraps
      have hafter : isoTpTimeAfter st.ms clink.receive_timer_cr = true := by
        rw [h.timerCr (by omega) arrival hmem, ms, timeAfter_ofNat harrived (by omega),
          decide_eq_true_iff]
        omega
      have htimeout := next_clientPoll_expires mem st.ms h.delivery.client
        h.delivery.clientReady.send_ne hstatus hafter
      have hbefore := hfree.2 htimeout
      rw [h.delivery.client] at hbefore
      exact h.delivery.noTimeout hd hbefore

end

/-- No timeout comes of a response of several frames on idle links exactly when each timer of the
client that fires before the last frame does so at most a hundred milliseconds behind the latest. -/
theorem timeoutFree_iff (mem : UDSMessage.Memory) {st : TimedCan} {slink clink : IsoTpLink}
    (hready : Ready st slink clink) {msg : UDSMessage}
    (hlong : 8 ≤ (serializeUDSMessage msg).length)
    (hsize : (serializeUDSMessage msg).length ≤ Client.isoTpBufferSize) {run : List TimedAction}
    (hrun : (timedMachine mem (st.send msg)).Along OnTime (st.send msg) run) :
    (timedMachine mem (st.send msg)).Along (TimeoutFree mem) (st.send msg) run ↔
      (timedMachine mem (st.send msg)).Along
        (InTime (consecutiveCount (serializeUDSMessage msg) + 1)) (st.send msg) run := by
  rcases timed_send mem hready hlong hsize with ⟨slink', hsent⟩
  refine (timedMachine mem (st.send msg)).along_iff_along
    (I := TimelyDelivery mem (serializeUDSMessage msg)) (fun s a hs hon => ?_)
    (fun s a hs hon htime => ?_) ⟨_, _, _, _, _, _, hsent⟩ hrun
  · exact ⟨hs.inTime hon, fun htime => (hs.next hlong hsize hon htime).2⟩
  · exact (hs.next hlong hsize hon htime).1

/-- The client polls before the consecutive frame arrives, but within its timer. -/
theorem timeoutFree_early_poll :
    let sent := (start 90 50).send CanWorkerServer.longResponse
    let run := [.tick, .deliverToClient, .tick, .deliverToServer] ++ List.replicate 48 .tick ++
      .clientPoll :: List.replicate 40 .tick ++ [.serverPoll, .tick, .deliverToClient]
    (timedMachine {} sent).Along (TimeoutFree {}) sent run :=
  (timeoutFree_iff {} (ready_start (by decide) (by decide)) (by decide) (by decide)
    (by decide +kernel)).2 (by decide +kernel)

/-- The first frame arrives at 1 ms, right behind the server's poll; the consecutive frame, sent at
101 ms, is still on the bus when the client polls at 103 ms. -/
theorem timeout_late_poll :
    let sent := (start 1 3).send CanWorkerServer.longResponse
    let run := [.tick, .serverPoll, .deliverToClient, .tick, .deliverToServer, .tick, .clientPoll] ++
      List.replicate 98 .tick ++ [.serverPoll, .tick, .tick, .clientPoll]
    (timedMachine {} sent).Along OnTime sent run ∧
      ¬ (timedMachine {} sent).Along (TimeoutFree {}) sent run ∧
      ((timedMachine {} sent).after run).can.client.m_iso_link.receive_protocol_result =
        .timeoutCr := by
  decide +kernel

end TimedCan
end System
end TcpCanUds
