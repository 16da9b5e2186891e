import TcpCanUds.Server.Remembered
import TcpCanUds.Server.ResponseSize
import TcpCanUds.System.CanSight

/-!
# CanSession — a tester's session over CAN

The whole way of a request and its response: the client's link, the bus, the server's link, the UDS
worker behind its queue, and the same way back.  Nothing is lost and no timer runs out, and the client
sends a request of one frame when nothing else is under way; apart from that everything happens in any
order.  A call of `sendUdsMessage` is one step here: what the CAN thread can do inside the `isotp_send` of
another thread, where a grant can be lost and only a timer ends the transfer, is in `SendRace`.

* `CanSession.next` — the actions of all the parties;
* `CanSession.Stage` — where the one request under way is;
* `can_session` — the client sees the answers of one sequential server;
* `can_session_settles` — and no session gets stuck.
-/

namespace TcpCanUds
namespace System

open Lib IsoTp Server Client LossyCan

/-! ## The parties -/

structure CanSession where
  can : LossyCan
  /-- the session of the UDS worker's handler -/
  session : SessionState := {}
  /-- what the handler found at each request that the UDS worker has taken -/
  served : List HandlerEnv := []
  /-- the responses of the UDS worker, in the order in which `CanServer` gets them -/
  replies : List UDSMessage := []

inductive CanSessionAction where
  | bus (a : LossyAction)
  /-- the UDS worker takes the next request -/
  | serve (env : HandlerEnv) (now latencyUs : Int64)
  /-- `CanServer` hands the next response to the link -/
  | respond
  deriving DecidableEq, Repr

namespace CanSession

section

variable (ahead : WhichEnd → Nat) (st : CanSession)

def next : CanSessionAction → CanSession
  | .bus a => { st with can := st.can.next ahead a }
  | .serve env now latencyUs =>
      match st.can.received[st.served.length]? with
      | none => st
      | some msg =>
          let r := UdsWorker.onCanUdsMessageReceived st.session env now latencyUs msg
          { st with
            session := r.1
            served := st.served ++ [env]
            replies := st.replies ++ r.2.toList.map UdsWorker.Reply.response }
  | .respond =>
      match st.replies[st.can.responses.length]? with
      | none => st
      | some msg => { st with can := st.can.next ahead (.respond msg) }

/-- Nothing is under way: neither on the bus nor in a queue. -/
def Over : Prop :=
  (sight st.can []).Completed ∧ st.served.length = st.can.received.length ∧
    st.can.responses.length = st.replies.length

instance : Decidable st.Over :=
  inferInstanceAs (Decidable (_ ∧ _ ∧ _))

/-- Nothing is lost and no timer runs out; a request of one frame is sent when the last one is over. -/
def Orderly : CanSessionAction → Prop
  | .bus (.request msg) => st.Over ∧ (serializeUDSMessage msg).length < 8
  | .bus .serverPoll => (sight st.can []).TimersHold (.serverPoll (st.can.ms ahead .far))
  | .bus (.clientPoll _) => (sight st.can []).TimersHold (.clientPoll (st.can.ms ahead .near))
  -- responses come from the UDS worker alone
  | .bus (.respond _) | .bus (.loseToServer _) | .bus (.loseToClient _) => False
  | .bus .tick | .bus (.deliverToServer _) | .bus (.deliverToClient _) | .serve _ _ _ | .respond => True

instance (a : CanSessionAction) : Decidable (st.Orderly ahead a) :=
  match a with
  | .bus (.request msg) => inferInstanceAs (Decidable (st.Over ∧ (serializeUDSMessage msg).length < 8))
  | .bus .serverPoll =>
      inferInstanceAs (Decidable ((sight st.can []).TimersHold (.serverPoll (st.can.ms ahead .far))))
  | .bus (.clientPoll _) =>
      inferInstanceAs (Decidable ((sight st.can []).TimersHold (.clientPoll (st.can.ms ahead .near))))
  | .bus (.respond _) | .bus (.loseToServer _) | .bus (.loseToClient _) => isFalse id
  | .bus .tick | .bus (.deliverToServer _) | .bus (.deliverToClient _) | .serve _ _ _ | .respond =>
      isTrue trivial

end

def machine (ahead : WhichEnd → Nat) (st : CanSession) : Machine CanSession CanSessionAction Unit where
  init := st
  step st a := (st.next ahead a, ())

end CanSession

/-! ## A response under way -/

namespace CanSystem

section

variable {mem : UDSMessage.Memory} {p : QByteArray} {st : CanSystem}

/-- Nothing is emitted yet, or the whole message is; which memory it is decoded in plays no part in the
rest. -/
theorem Underway.emitted_cases (h : Underway mem p st) :
    (st.emitted = [] ∧ ∀ mem', Underway mem' p st) ∨
      (st.emitted = [Client.deserializeUDSMessage mem p] ∧
        ∀ mem', Underway mem' p { st with emitted := [Client.deserializeUDSMessage mem' p] }) := by
  by_cases hshort : p.length < 8
  · rw [Underway, if_pos hshort] at h
    rcases h with ⟨slink, clink, h⟩
    rcases h.delivery with ⟨hbus, hemitted⟩ | ⟨hbus, hemitted⟩
    · refine .inl ⟨hemitted, fun mem' => ?_⟩
      rw [Underway, if_pos hshort]
      exact ⟨slink, clink, { h with delivery := .inl ⟨hbus, hemitted⟩ }⟩
    · refine .inr ⟨hemitted, fun mem' => ?_⟩
      rw [Underway, if_pos hshort]
      exact ⟨slink, clink, { h with delivery := .inr ⟨hbus, rfl⟩ }⟩
  · rw [Underway, if_neg hshort] at h
    rcases h with ⟨n, d, c, slink, clink, h⟩
    have hemitted := h.emitted
    by_cases hall : d = consecutiveCount p + 1
    · rw [if_pos hall] at hemitted
      refine .inr ⟨hemitted, fun mem' => ?_⟩
      rw [Underway, if_neg hshort]
      exact ⟨n, d, c, slink, clink, { h with emitted := (if_pos hall).symm }⟩
    · rw [if_neg hall] at hemitted
      refine .inl ⟨hemitted, fun mem' => ?_⟩
      rw [Underway, if_neg hshort]
      exact ⟨n, d, c, slink, clink, { h with emitted := hemitted.trans (if_neg hall).symm }⟩

theorem eq_frameOf_messageFrame (hlong : 8 ≤ p.length) (d : Nat) :
    messageFrame p d = frameOf CanId.udsResp (messageFrame p d).data ∧
      (messageFrame p d).data.length = 8 := by
  cases d with
  | zero => exact ⟨rfl, length_firstFrame (Nat.le_trans (by decide) hlong)⟩
  | succ d => exact ⟨rfl, length_consecutiveFrame p d⟩

/-- The frames on the bus are those of the message, and grants. -/
theorem Underway.frames (h : Underway mem p st) :
    (∀ frame ∈ st.toClient, frame = frameOf CanId.udsResp frame.data ∧ frame.data.length = 8) ∧
      ∀ frame ∈ st.toServer, frame = flowControl := by
  by_cases hshort : p.length < 8
  · rw [Underway, if_pos hshort] at h
    rcases h with ⟨slink, clink, h⟩
    refine ⟨fun frame hmem => ?_, fun frame hmem => ?_⟩
    · rcases h.delivery with ⟨hbus, -⟩ | ⟨hbus, -⟩
      · rw [hbus, List.mem_singleton] at hmem
        rw [hmem]
        exact ⟨rfl, length_singleFrame (Nat.le_of_lt_succ hshort)⟩
      · rw [hbus] at hmem
        exact absurd hmem List.not_mem_nil
    · rw [h.toServer] at hmem
      exact absurd hmem List.not_mem_nil
  · rw [Underway, if_neg hshort] at h
    rcases h with ⟨n, d, c, slink, clink, h⟩
    refine ⟨fun frame hmem => ?_, fun frame hmem => ?_⟩
    · rw [h.toClient, framesOnBus, List.mem_map] at hmem
      rcases hmem with ⟨k, -, rfl⟩
      exact eq_frameOf_messageFrame (Nat.le_of_not_lt hshort) k
    · rw [h.toServer] at hmem
      exact List.eq_of_mem_replicate hmem

/-- With everything arrived both links are free. -/
theorem Underway.idle (h : Underway mem p st) (hdone : Completed st) {slink clink : IsoTpLink}
    (hserver : st.server = ⟨true, some slink⟩) (hclient : st.client = ⟨clink⟩) :
    slink.send_status = .idle ∧ slink.receive_status = .idle ∧ clink.send_status = .idle ∧
      clink.receive_status = .idle := by
  rcases hdone.1 with ⟨link, hlink, hsend⟩
  have hslink : link = slink := by
    rw [hserver] at hlink
    exact (Option.some.inj hlink).symm
  rw [hslink] at hsend
  by_cases hshort : p.length < 8
  · rw [Underway, if_pos hshort] at h
    rcases h with ⟨slink', clink', h⟩
    obtain rfl : slink' = slink :=
      Option.some.inj (congrArg CanWorkerServer.m_isoTpLink (h.server.symm.trans hserver))
    obtain rfl : clink' = clink := congrArg CanInterFace.m_iso_link (h.client.symm.trans hclient)
    exact ⟨hsend, h.serverReceive, h.clientReady.send, h.clientReceive⟩
  · rw [Underway, if_neg hshort] at h
    rcases h with ⟨n, d, c, slink', clink', h⟩
    obtain rfl : slink' = slink :=
      Option.some.inj (congrArg CanWorkerServer.m_isoTpLink (h.server.symm.trans hserver))
    obtain rfl : clink' = clink := congrArg CanInterFace.m_iso_link (h.client.symm.trans hclient)
    have hall := (h.completed_iff.1 hdone).1
    refine ⟨hsend, h.serverReceive, h.clientReady.send, ?_⟩
    cases h.taking with
    | waiting hd => omega
    | taking n hd hn => omega
    | done _ hstatus => exact hstatus

end

end CanSystem

namespace LossyCan

/-- The response `p` is on its way, and the client has or has not taken all of it. -/
def Answering (p : QByteArray) (taken : Bool) (st : LossyCan) : Prop :=
  ∀ mem, CanSystem.Underway mem p
    (sight st (if taken then [Client.deserializeUDSMessage mem p] else []))

/-- The actions of the bus that bring a response forward. -/
def Carries (ahead : WhichEnd → Nat) (st : LossyCan) : LossyAction → Prop
  | .serverPoll => (sight st []).TimersHold (.serverPoll (st.ms ahead .far))
  | .clientPoll _ => (sight st []).TimersHold (.clientPoll (st.ms ahead .near))
  | .deliverToServer _ | .deliverToClient _ => True
  | .tick | .request _ | .respond _ | .loseToServer _ | .loseToClient _ => False

section

variable {st : LossyCan} {slink clink : IsoTpLink} {ahead : WhichEnd → Nat} {p : QByteArray}
  {taken : Bool}

/-- A grant is no request. -/
theorem received_flowControl (h : Up st slink clink) (ms : UInt32) (mem : UDSMessage.Memory) :
    (st.server.onFrameReceived ms mem CanSystem.flowControl).2.received = none := by
  have htakes : takes slink continueFrame = none := by
    rw [takes, if_neg (by decide)]
    simp only
    rw [if_neg (by decide), if_neg (by decide), if_neg (by decide)]
  rcases h.server.step (IsoTpBuffers.zero _) (.frameReceived ms mem CanSystem.flowControl) with
    ⟨link', out, -, hstep, -, hreceived⟩
  have hheard : CanWorkerServer.heard (.frameReceived ms mem CanSystem.flowControl) = continueFrame := by
    have hid : CanSystem.flowControl.id = CanId.udsReq := rfl
    rw [CanWorkerServer.heard, if_pos hid]
    exact CanSystem.bytes_of_eight _ rfl
  rw [hheard] at hstep
  rw [(hstep.of_none htakes).1] at hreceived
  exact hreceived

/-- What a step of the two links shows of the response. -/
theorem Answering.of_sight {st' : LossyCan} {mem : UDSMessage.Memory} {new : List UDSMessage}
    (h : CanSystem.Underway mem p
      (sight st' ((if taken then [Client.deserializeUDSMessage mem p] else []) ++ new))) :
    (new = [] ∧ Answering p taken st') ∨
      (taken = false ∧ new = [Client.deserializeUDSMessage mem p] ∧ Answering p true st') := by
  rcases h.emitted_cases with ⟨hemitted, hall⟩ | ⟨hemitted, hall⟩
  · change _ ++ new = [] at hemitted
    rcases List.append_eq_nil_iff.1 hemitted with ⟨hold, hnew⟩
    cases taken with
    | true => exact absurd hold (List.cons_ne_nil _ _)
    | false =>
        rw [hnew] at hall
        exact .inl ⟨hnew, hall⟩
  · change _ ++ new = [_] at hemitted
    cases taken with
    | true => exact .inl ⟨(List.cons.inj hemitted).2, hall⟩
    | false => exact .inr ⟨rfl, hemitted, hall⟩

/-- Each of these actions leaves the messages of both programs as they are, but that the client emits the
response once. -/
theorem Answering.next (h : Answering p taken st) (hup : Up st slink clink) (hpos : 0 < p.length)
    (hsize : p.length ≤ Client.isoTpBufferSize) {a : LossyAction} (ha : Carries ahead st a) :
    let st' := st.next ahead a
    (st'.requests = st.requests ∧ st'.received = st.received ∧ st'.responses = st.responses) ∧
      ((st'.emitted = st.emitted ∧ Answering p taken st') ∨
        (taken = false ∧ (∃ mem, st'.emitted = st.emitted ++ [Client.deserializeUDSMessage mem p]) ∧
          Answering p true st')) := by
  intro st'
  let seen := fun mem => if taken then [Client.deserializeUDSMessage mem p] else []
  have hstep := fun mem (b : CanAction) hb => (h mem).next hpos hsize b hb
  -- the client sends grants only, which have eight bytes
  have hadds : ∀ mem (b : CanAction), (sight st (seen mem)).TimersHold b →
      AddsEight (sight st (seen mem)) mem b := by
    intro mem b hb frame hframe
    rw [(hstep mem b hb).frames.2 frame hframe]
    rfl
  have hclose : ∀ (mem : UDSMessage.Memory) (new : List UDSMessage),
      st'.emitted = st.emitted ++ new → CanSystem.Underway mem p (sight st' (seen mem ++ new)) →
      (st'.emitted = st.emitted ∧ Answering p taken st') ∨
        (taken = false ∧ (∃ mem, st'.emitted = st.emitted ++ [Client.deserializeUDSMessage mem p]) ∧
          Answering p true st') := by
    intro mem new hemitted hunderway
    rcases Answering.of_sight hunderway with ⟨hnew, hafter⟩ | ⟨htaken, hnew, hafter⟩
    · rw [hnew, List.append_nil] at hemitted
      exact .inl ⟨hemitted, hafter⟩
    · rw [hnew] at hemitted
      exact .inr ⟨htaken, ⟨mem, hemitted⟩, hafter⟩
  cases a with
  | serverPoll =>
      refine ⟨messages_of_waits ahead st (a := .serverPoll) trivial, hclose {} [] ?_ ?_⟩
      · exact (List.append_nil _).symm
      · rw [List.append_nil]
        exact hstep {} (.serverPoll (st.ms ahead .far)) ha
  | clientPoll mem =>
      rcases sight_clientPoll hup (hadds mem (.clientPoll (st.ms ahead .near)) ha) with
        ⟨new, hemitted, hsight⟩
      have hunderway := hstep mem (.clientPoll (st.ms ahead .near)) ha
      rw [hsight] at hunderway
      exact ⟨messages_of_waits ahead st (a := .clientPoll mem) trivial, hclose _ _ hemitted hunderway⟩
  | deliverToServer mem =>
      have hunderway := hstep mem (.deliverToServer (st.ms ahead .far)) trivial
      rw [sight_deliverToServer] at hunderway
      have hmessages : (st.next ahead (.deliverToServer mem)).requests = st.requests ∧
          (st.next ahead (.deliverToServer mem)).received = st.received ∧
          (st.next ahead (.deliverToServer mem)).responses = st.responses ∧
          (st.next ahead (.deliverToServer mem)).emitted = st.emitted := by
        cases hbus : st.toServer with
        | nil => simp only [LossyCan.next, hbus, and_self]
        | cons frame rest =>
            have hgrant : frame = CanSystem.flowControl :=
              (h mem).frames.2 frame (by
                change frame ∈ st.toServer
                rw [hbus]
                exact List.mem_cons_self)
            have hnone := received_flowControl hup (st.ms ahead .far) mem
            rw [← hgrant] at hnone
            simp only [LossyCan.next, hbus, hnone, serverSends, Option.toList_none, List.append_nil,
              and_self]
      rcases hmessages with ⟨hrequests, hreceived, hresponses, hemitted⟩
      refine ⟨⟨hrequests, hreceived, hresponses⟩, hclose mem [] ?_ ?_⟩
      · exact hemitted.trans (List.append_nil _).symm
      · rw [List.append_nil]
        exact hunderway
  | deliverToClient mem =>
      rcases sight_deliverToClient hup (h mem).frames.1
        (hadds mem (.deliverToClient (st.ms ahead .near)) trivial) with ⟨new, hemitted, hsight⟩
      have hunderway := hstep mem (.deliverToClient (st.ms ahead .near)) trivial
      rw [hsight] at hunderway
      exact ⟨messages_of_waits ahead st (a := .deliverToClient mem) trivial, hclose _ _ hemitted hunderway⟩
  | tick | request msg | respond msg | loseToServer i | loseToClient i => exact ha.elim

/-- The action of the two programs that is `a` for their links. -/
def busAction : CanAction → LossyAction
  | .serverPoll _ => .serverPoll
  | .clientPoll _ => .clientPoll {}
  | .deliverToServer _ => .deliverToServer {}
  | .deliverToClient _ => .deliverToClient {}

theorem carries_busAction {a : CanAction} (hat : a.At (st.ms ahead .far) (st.ms ahead .near))
    (ha : (sight st []).TimersHold a) : Carries ahead st (busAction a) := by
  cases a with
  | serverPoll ms =>
      obtain rfl : ms = st.ms ahead .far := hat
      exact ha
  | clientPoll ms =>
      obtain rfl : ms = st.ms ahead .near := hat
      exact ha
  | deliverToServer ms | deliverToClient ms => trivial

/-- While a response is under way, what the links do the programs do. -/
theorem Answering.sight_next (h : Answering p taken st) (hup : Up st slink clink) (hpos : 0 < p.length)
    (hsize : p.length ≤ Client.isoTpBufferSize) {a : CanAction}
    (hat : a.At (st.ms ahead .far) (st.ms ahead .near)) (ha : (sight st []).TimersHold a)
    (emitted : List UDSMessage) :
    ∃ new, (sight st emitted).next {} a = sight (st.next ahead (busAction a)) (emitted ++ new) := by
  let seen := if taken then [Client.deserializeUDSMessage {} p] else []
  have hheld : (sight st seen).TimersHold a := by
    cases a <;> exact ha
  -- the client sends nothing but grants, and these have eight bytes
  have hgrants := ((h {}).next hpos hsize a hheld).frames.2
  cases a with
  | serverPoll ms =>
      obtain rfl : ms = st.ms ahead .far := hat
      exact ⟨[], by rw [List.append_nil]; rfl⟩
  | clientPoll ms =>
      obtain rfl : ms = st.ms ahead .near := hat
      have hadds : AddsEight (sight st emitted) {} (.clientPoll (st.ms ahead .near)) := by
        intro frame hframe
        rw [hgrants frame hframe]
        rfl
      rcases sight_clientPoll hup hadds with ⟨new, -, hsight⟩
      exact ⟨new, hsight⟩
  | deliverToServer ms =>
      obtain rfl : ms = st.ms ahead .far := hat
      exact ⟨[], by rw [List.append_nil]; exact sight_deliverToServer⟩
  | deliverToClient ms =>
      obtain rfl : ms = st.ms ahead .near := hat
      have hadds : AddsEight (sight st emitted) {} (.deliverToClient (st.ms ahead .near)) := by
        intro frame hframe
        have hmem : frame ∈ ((sight st seen).next {} (.deliverToClient (st.ms ahead .near))).toServer := by
          cases hbus : st.toClient with
          | nil | cons first rest =>
              simp only [CanSystem.next, sight, hbus] at hframe ⊢
              exact hframe
        rw [hgrants frame hmem]
        rfl
      rcases sight_deliverToClient hup (h {}).frames.1 hadds with ⟨new, -, hsight⟩
      exact ⟨new, hsight⟩

end

end LossyCan

/-! ## Where the request is -/

namespace CanSession

open UdsHandler

/-- What the client can decode from the bytes of an answer. -/
def DecodedFrom (answer : QByteArray) (got : UDSMessage) : Prop :=
  ∃ mem, got = Client.deserializeUDSMessage mem answer

/-- What a session has done of `inputs`, and what is between two parties: requests that are not served
yet, of them those in the queue of the UDS worker, responses in the queue of `CanServer`, and answers that
the client has not emitted yet. -/
structure Books (st : CanSession) (inputs : List RawRequest) (asked posted replied : List UDSMessage)
    (unseen : List QByteArray) : Prop where
  session : st.session = rawHandler.after inputs
  envs : inputs.map RawRequest.env = st.served
  requests : st.can.requests.map serializeUDSMessage =
    inputs.map RawRequest.raw ++ asked.map serializeUDSMessage
  posted : st.can.received.drop st.served.length = posted
  served_le : st.served.length ≤ st.can.received.length
  replied : st.replies.drop st.can.responses.length = replied
  responses_le : st.can.responses.length ≤ st.replies.length
  unseen : (rawHandler.answers {} inputs).drop st.can.emitted.length = unseen
  emitted :
    List.Forall₂ DecodedFrom ((rawHandler.answers {} inputs).take st.can.emitted.length) st.can.emitted

inductive Stage (st : CanSession) (inputs : List RawRequest) : Prop where
  | settled {slink clink : IsoTpLink} (books : Books st inputs [] [] [] [])
      (rest : Resting st.can slink clink) (bus : st.can.toServer = [])
  | asked {slink clink : IsoTpLink} (msg : UDSMessage) (books : Books st inputs [msg] [] [] [])
      (rest : Resting st.can slink clink) (short : (serializeUDSMessage msg).length < 8)
      (bus : st.can.toServer = [frameOf CanId.udsReq (singleFrame (serializeUDSMessage msg))])
  | posted {slink clink : IsoTpLink} (msg : UDSMessage) (mem : UDSMessage.Memory)
      (books : Books st inputs [msg] [serverDecode mem (serializeUDSMessage msg)] [] [])
      (rest : Resting st.can slink clink) (bus : st.can.toServer = [])
  | replied {slink clink : IsoTpLink} (reply : UDSMessage)
      (books : Books st inputs [] [] [reply] [serializeUDSMessage reply])
      (rest : Resting st.can slink clink) (bus : st.can.toServer = [])
      (size : (serializeUDSMessage reply).length ≤ 24)
  | underway {slink clink : IsoTpLink} (p : QByteArray) (taken : Bool)
      (books : Books st inputs [] [] [] (if taken then [] else [p])) (up : Up st.can slink clink)
      (answering : Answering p taken st.can) (pos : 0 < p.length) (size : p.length ≤ 24)
      (answer : p ∈ rawHandler.answers {} inputs)

section

variable {st : CanSession} {can : LossyCan} {inputs : List RawRequest}
  {asked posted replied : List UDSMessage} {unseen : List QByteArray} {ahead : WhichEnd → Nat}

/-- The books are about the messages alone. -/
theorem Books.congr (h : Books st inputs asked posted replied unseen)
    (hrequests : can.requests = st.can.requests) (hreceived : can.received = st.can.received)
    (hresponses : can.responses = st.can.responses) (hemitted : can.emitted = st.can.emitted) :
    Books { st with can := can } inputs asked posted replied unseen where
  session := h.session
  envs := h.envs
  requests := hrequests ▸ h.requests
  posted := hreceived ▸ h.posted
  served_le := hreceived ▸ h.served_le
  replied := hresponses ▸ h.replied
  responses_le := hresponses ▸ h.responses_le
  unseen := hemitted ▸ h.unseen
  emitted := hemitted ▸ h.emitted

theorem Books.same (h : Books st inputs asked posted replied unseen) (hsame : Same st.can can) :
    Books { st with can := can } inputs asked posted replied unseen :=
  h.congr hsame.requests hsame.received hsame.responses hsame.emitted

theorem Stage.same (h : Stage st inputs) (hsame : Same st.can can)
    (hup : ∃ slink clink, Up can slink clink) : Stage { st with can := can } inputs := by
  cases h with
  | settled books rest bus =>
      exact .settled (books.same hsame) (rest.congr hsame.sight hup) (hsame.toServer.trans bus)
  | asked msg books rest short bus =>
      exact .asked msg (books.same hsame) (rest.congr hsame.sight hup) short (hsame.toServer.trans bus)
  | posted msg mem books rest bus =>
      exact .posted msg mem (books.same hsame) (rest.congr hsame.sight hup) (hsame.toServer.trans bus)
  | replied reply books rest bus size =>
      exact .replied reply (books.same hsame) (rest.congr hsame.sight hup) (hsame.toServer.trans bus) size
  | underway p taken books up answering pos size answer =>
      rcases hup with ⟨slink, clink, hup⟩
      refine .underway p taken (books.same hsame) hup (fun mem => ?_) pos size answer
      let seen := if taken then [Client.deserializeUDSMessage mem p] else []
      have hsight : sight can seen = sight st.can seen :=
        congrArg (fun v => { v with emitted := seen }) hsame.sight
      rw [hsight]
      exact answering mem

/-- What is drawn from a queue. -/
theorem drop_succ_of_drop {α : Type*} {l : List α} {k : Nat} {x : α} (h : l.drop k = [x]) :
    l[k]? = some x ∧ l.drop (k + 1) = [] ∧ l.take (k + 1) = l.take k ++ [x] := by
  have hhead : l[k]? = some x := by
    rw [← List.head?_drop, h]
    rfl
  refine ⟨hhead, ?_, ?_⟩
  · rw [← List.drop_drop, h]
    rfl
  · rw [List.take_add_one, hhead]
    rfl

theorem none_of_drop {α : Type*} {l : List α} {k : Nat} (h : l.drop k = []) : l[k]? = none := by
  rw [← List.head?_drop, h]
  rfl

/-! ## What each action does -/

theorem Books.ask (h : Books st inputs [] [] [] []) (msg : UDSMessage)
    (hrequests : can.requests = st.can.requests ++ [msg]) (hreceived : can.received = st.can.received)
    (hresponses : can.responses = st.can.responses) (hemitted : can.emitted = st.can.emitted) :
    Books { st with can := can } inputs [msg] [] [] [] where
  session := h.session
  envs := h.envs
  requests := by
    change can.requests.map serializeUDSMessage = _
    rw [hrequests, List.map_append, h.requests, List.map_nil, List.append_nil]
  posted := hreceived ▸ h.posted
  served_le := hreceived ▸ h.served_le
  replied := hresponses ▸ h.replied
  responses_le := hresponses ▸ h.responses_le
  unseen := hemitted ▸ h.unseen
  emitted := hemitted ▸ h.emitted

theorem Books.post (h : Books st inputs asked [] [] []) (got : UDSMessage)
    (hrequests : can.requests = st.can.requests) (hreceived : can.received = st.can.received ++ [got])
    (hresponses : can.responses = st.can.responses) (hemitted : can.emitted = st.can.emitted) :
    Books { st with can := can } inputs asked [got] [] [] where
  session := h.session
  envs := h.envs
  requests := hrequests ▸ h.requests
  posted := by
    change can.received.drop st.served.length = _
    rw [hreceived, List.drop_append_of_le_length h.served_le, h.posted, List.nil_append]
  served_le := by
    change st.served.length ≤ can.received.length
    rw [hreceived, List.length_append]
    exact Nat.le_add_right_of_le h.served_le
  replied := hresponses ▸ h.replied
  responses_le := hresponses ▸ h.responses_le
  unseen := hemitted ▸ h.unseen
  emitted := hemitted ▸ h.emitted

theorem Books.length_answers (h : Books st inputs asked posted replied unseen) :
    st.can.emitted.length ≤ (rawHandler.answers {} inputs).length := by
  have hlength := h.emitted.length_eq
  rw [List.length_take] at hlength
  rw [← hlength]
  exact Nat.min_le_right _ _

theorem processRequest_serverDecode (env : HandlerEnv) (session : SessionState)
    (mem : UDSMessage.Memory) (raw : QByteArray) :
    processRequest env session (serverDecode mem raw) =
      processRequest env session (Server.deserializeUDSMessage mem raw) :=
  processRequest_congr env session rfl rfl rfl

/-- The UDS worker answers as the handler does on the bytes of the request. -/
theorem exists_reply (session : SessionState) (env : HandlerEnv) (now latencyUs : Int64)
    (mem : UDSMessage.Memory) (raw : QByteArray) :
    let i : RawRequest := { raw := raw, env := env, mem := ⟨mem, env.mem⟩ }
    let r := UdsWorker.onCanUdsMessageReceived session env now latencyUs (serverDecode mem raw)
    ∃ reply, r.2 = some reply ∧ r.1 = (rawHandler.step session i).1 ∧
      serializeUDSMessage reply.response = (rawHandler.step session i).2 ∧
      (serializeUDSMessage reply.response).length ≤ 24 := by
  intro i r
  let w : UdsWorker.WorkerInput :=
    { source := .can, env, now, latencyUs, msg := serverDecode mem raw }
  have hr : UdsWorker.worker.step session w = r := rfl
  have hsame := processRequest_serverDecode env session mem raw
  rcases UdsWorker.worker_replies session w with ⟨reply, hreply, hresponse⟩
  rw [hr] at hreply
  refine ⟨reply, hreply, ?_, ?_, UdsWorker.length_response session w (hr ▸ hreply)⟩
  · exact congrArg Prod.fst hsame
  · rw [hresponse]
    exact congrArg (fun result => serializeUDSMessage result.2) hsame

/-- The next request is served, and its answer goes into the books. -/
theorem Books.serve {msg got : UDSMessage} (h : Books st inputs [msg] [got] [] []) (i : RawRequest)
    (hraw : i.raw = serializeUDSMessage msg) {reply : UDSMessage}
    (hanswer : serializeUDSMessage reply = (rawHandler.step st.session i).2) :
    Books { st with
        session := (rawHandler.step st.session i).1
        served := st.served ++ [i.env]
        replies := st.replies ++ [reply] }
      (inputs ++ [i]) [] [] [reply] [serializeUDSMessage reply] where
  session := by
    have hafter : rawHandler.after (inputs ++ [i]) = (rawHandler.step (rawHandler.after inputs) i).1 :=
      rawHandler.after_snoc inputs i
    rw [hafter, ← h.session]
  envs := by
    rw [List.map_append, h.envs]
    rfl
  requests := by
    rw [h.requests, List.map_append, List.map_nil, List.append_nil, List.map_singleton,
      List.map_singleton, hraw]
  posted := by
    change st.can.received.drop (st.served ++ [i.env]).length = []
    rw [List.length_append]
    exact (drop_succ_of_drop h.posted).2.1
  served_le := by
    have hlength := congrArg List.length h.posted
    rw [List.length_drop, List.length_singleton] at hlength
    change (st.served ++ [i.env]).length ≤ st.can.received.length
    rw [List.length_append, List.length_singleton]
    omega
  replied := by
    change (st.replies ++ [reply]).drop st.can.responses.length = _
    rw [List.drop_append_of_le_length h.responses_le, h.replied, List.nil_append]
  responses_le := by
    change st.can.responses.length ≤ (st.replies ++ [reply]).length
    rw [List.length_append]
    exact Nat.le_add_right_of_le h.responses_le
  unseen := by
    have hanswers : rawHandler.answers {} (inputs ++ [i]) =
        rawHandler.answers {} inputs ++ [(rawHandler.step (rawHandler.after inputs) i).2] :=
      Machine.answers_snoc inputs i
    -- all answers before this one are in the books already
    rw [hanswers, ← h.session, ← hanswer, List.drop_append_of_le_length h.length_answers, h.unseen,
      List.nil_append]
  emitted := by
    have hanswers : rawHandler.answers {} (inputs ++ [i]) =
        rawHandler.answers {} inputs ++ [(rawHandler.step (rawHandler.after inputs) i).2] :=
      Machine.answers_snoc inputs i
    rw [hanswers, List.take_append_of_le_length h.length_answers]
    exact h.emitted

theorem Books.respond {reply : UDSMessage} {p : QByteArray} (h : Books st inputs [] [] [reply] [p])
    (hrequests : can.requests = st.can.requests) (hreceived : can.received = st.can.received)
    (hresponses : can.responses = st.can.responses ++ [reply])
    (hemitted : can.emitted = st.can.emitted) :
    Books { st with can := can } inputs [] [] [] [p] where
  session := h.session
  envs := h.envs
  requests := hrequests ▸ h.requests
  posted := hreceived ▸ h.posted
  served_le := hreceived ▸ h.served_le
  replied := by
    change st.replies.drop can.responses.length = []
    rw [hresponses, List.length_append]
    exact (drop_succ_of_drop h.replied).2.1
  responses_le := by
    have hlength := congrArg List.length h.replied
    rw [List.length_drop, List.length_singleton] at hlength
    change can.responses.length ≤ st.replies.length
    rw [hresponses, List.length_append, List.length_singleton]
    omega
  unseen := hemitted ▸ h.unseen
  emitted := hemitted ▸ h.emitted

theorem Books.see {p : QByteArray} (h : Books st inputs [] [] [] [p])
    (hrequests : can.requests = st.can.requests) (hreceived : can.received = st.can.received)
    (hresponses : can.responses = st.can.responses) {mem : UDSMessage.Memory}
    (hemitted : can.emitted = st.can.emitted ++ [Client.deserializeUDSMessage mem p]) :
    Books { st with can := can } inputs [] [] [] [] where
  session := h.session
  envs := h.envs
  requests := hrequests ▸ h.requests
  posted := hreceived ▸ h.posted
  served_le := hreceived ▸ h.served_le
  replied := hresponses ▸ h.replied
  responses_le := hresponses ▸ h.responses_le
  unseen := by
    change (rawHandler.answers {} inputs).drop can.emitted.length = []
    rw [hemitted, List.length_append]
    exact (drop_succ_of_drop h.unseen).2.1
  emitted := by
    change List.Forall₂ DecodedFrom ((rawHandler.answers {} inputs).take can.emitted.length) can.emitted
    rw [hemitted, List.length_append, List.length_singleton, (drop_succ_of_drop h.unseen).2.2]
    exact List.rel_append h.emitted (.cons ⟨mem, rfl⟩ .nil)

end

/-! ## What each stage becomes -/

section

variable {st : CanSession} {inputs : List RawRequest} {ahead : WhichEnd → Nat}

/-- When nothing is under way, everything is served and seen, and the links are at rest. -/
theorem Stage.settle (h : Stage st inputs) (hover : st.Over) :
    ∃ slink clink, Books st inputs [] [] [] [] ∧ Resting st.can slink clink ∧ st.can.toServer = [] := by
  rcases hover with ⟨hdone, hserved, hresponses⟩
  cases h with
  | settled books rest bus => exact ⟨_, _, books, rest, bus⟩
  | asked msg books rest short bus => cases bus.symm.trans hdone.2.2
  | posted msg mem books rest bus =>
      have hempty := books.posted
      rw [hserved, List.drop_length] at hempty
      cases hempty
  | replied reply books rest bus size =>
      have hempty := books.replied
      rw [hresponses, List.drop_length] at hempty
      cases hempty
  | underway p taken books up answering pos size answer =>
      have hemitted := (answering {}).emitted hdone
      cases taken with
      | false => cases hemitted
      | true =>
          rcases (answering {}).idle hdone up.server_eq up.client.link with
            ⟨hserverSend, hserverReceive, hclientSend, hclientReceive⟩
          exact ⟨_, _, books, ⟨up, hserverSend, hserverReceive, hclientSend, hclientReceive, hdone.2.1⟩,
            hdone.2.2⟩

theorem Stage.ask (h : Stage st inputs) (hover : st.Over) {msg : UDSMessage}
    (hshort : (serializeUDSMessage msg).length < 8) :
    Stage (st.next ahead (.bus (.request msg))) inputs := by
  rcases h.settle hover with ⟨slink, clink, books, rest, bus⟩
  rcases rest.request ahead bus hshort with ⟨clink', rest', bus'⟩
  exact .asked msg (books.ask msg rfl rfl rfl rfl) rest' hshort bus'

/-! ### One stage after the other -/

theorem posted_of_asked (ahead : WhichEnd → Nat) {slink clink : IsoTpLink} {msg : UDSMessage}
    (books : Books st inputs [msg] [] [] []) (rest : Resting st.can slink clink)
    (short : (serializeUDSMessage msg).length < 8)
    (bus : st.can.toServer = [frameOf CanId.udsReq (singleFrame (serializeUDSMessage msg))])
    (mem : UDSMessage.Memory) :
    let st' := st.next ahead (.bus (.deliverToServer mem))
    ∃ slink', Books st' inputs [msg] [serverDecode mem (serializeUDSMessage msg)] [] [] ∧
      Resting st'.can slink' clink ∧ st'.can.toServer = [] := by
  intro st'
  have hpos : 0 < (serializeUDSMessage msg).length := Nat.succ_pos _
  rcases rest.take ahead hpos short bus mem with ⟨slink', rest', bus', hreceived⟩
  have hmessages : (st.can.next ahead (.deliverToServer mem)).requests = st.can.requests ∧
      (st.can.next ahead (.deliverToServer mem)).responses = st.can.responses ∧
      (st.can.next ahead (.deliverToServer mem)).emitted = st.can.emitted := by
    simp only [LossyCan.next, bus, serverSends, and_self]
  rcases hmessages with ⟨hrequests, hresponses, hemitted⟩
  exact ⟨slink', books.post _ hrequests hreceived hresponses hemitted, rest', bus'⟩

theorem replied_of_posted (ahead : WhichEnd → Nat) {msg : UDSMessage} {mem : UDSMessage.Memory}
    (books : Books st inputs [msg] [serverDecode mem (serializeUDSMessage msg)] [] [])
    (env : HandlerEnv) (now latencyUs : Int64) :
    let st' := st.next ahead (.serve env now latencyUs)
    let i : RawRequest := { raw := serializeUDSMessage msg, env := env, mem := ⟨mem, env.mem⟩ }
    ∃ reply, Books st' (inputs ++ [i]) [] [] [reply] [serializeUDSMessage reply] ∧
      st'.can = st.can ∧ (serializeUDSMessage reply).length ≤ 24 := by
  intro st' i
  let raw := serializeUDSMessage msg
  rcases exists_reply st.session env now latencyUs mem raw with
    ⟨reply, hreply, hsession, hanswer, hsize⟩
  have hnext : st' =
      { st with
        session := (rawHandler.step st.session i).1
        served := st.served ++ [env]
        replies := st.replies ++ [reply.response] } := by
    change st.next ahead (.serve env now latencyUs) = _
    rw [CanSession.next, (drop_succ_of_drop books.posted).1]
    simp only
    rw [hreply, hsession]
    rfl
  rw [hnext]
  exact ⟨reply.response, books.serve i rfl hanswer, rfl, hsize⟩

theorem underway_of_replied (ahead : WhichEnd → Nat) {slink clink : IsoTpLink} {reply : UDSMessage}
    (books : Books st inputs [] [] [reply] [serializeUDSMessage reply])
    (rest : Resting st.can slink clink) (bus : st.can.toServer = [])
    (size : (serializeUDSMessage reply).length ≤ 24) :
    let st' := st.next ahead .respond
    ∃ slink' clink', Books st' inputs [] [] [] [serializeUDSMessage reply] ∧
      Up st'.can slink' clink' ∧ Answering (serializeUDSMessage reply) false st'.can := by
  intro st'
  have hnext : st' = { st with can := st.can.next ahead (.respond reply) } := by
    change st.next ahead .respond = _
    rw [CanSession.next, (drop_succ_of_drop books.replied).1]
  have hsight : { sight st.can [] with toServer := [] } = sight st.can [] :=
    congrArg (fun frames => { sight st.can [] with toServer := frames }) bus.symm
  have hidle := rest.idle
  rw [hsight] at hidle
  rcases rest.up.next ahead (.respond reply) with ⟨slink', clink', up'⟩
  rw [hnext]
  refine ⟨slink', clink', books.respond rfl rfl rfl rfl, up', fun mem => ?_⟩
  exact CanSystem.underway_send hidle (Nat.le_trans size (by decide)) (st.can.ms ahead .far)

/-- A response under way is brought forward. -/
theorem exists_carried {slink clink : IsoTpLink} {p : QByteArray} {taken : Bool} {a : LossyAction}
    (books : Books st inputs [] [] [] (if taken then [] else [p])) (up : Up st.can slink clink)
    (answering : Answering p taken st.can) (pos : 0 < p.length) (size : p.length ≤ 24)
    (ha : Carries ahead st.can a) :
    ∃ taken' slink' clink', Books (st.next ahead (.bus a)) inputs [] [] [] (if taken' then [] else [p]) ∧
      Up (st.next ahead (.bus a)).can slink' clink' ∧ Answering p taken' (st.next ahead (.bus a)).can := by
  have hsize : p.length ≤ Client.isoTpBufferSize := Nat.le_trans size (by decide)
  rcases up.next ahead a with ⟨slink', clink', up'⟩
  rcases answering.next up pos hsize ha with
    ⟨⟨hrequests, hreceived, hresponses⟩, ⟨hemitted, answering'⟩ | ⟨rfl, ⟨mem, hemitted⟩, answering'⟩⟩
  · exact ⟨taken, slink', clink', books.congr hrequests hreceived hresponses hemitted, up', answering'⟩
  · exact ⟨true, slink', clink', books.see hrequests hreceived hresponses hemitted, up', answering'⟩

theorem Stage.carry {slink clink : IsoTpLink} {p : QByteArray} {taken : Bool} {a : LossyAction}
    (books : Books st inputs [] [] [] (if taken then [] else [p])) (up : Up st.can slink clink)
    (answering : Answering p taken st.can) (pos : 0 < p.length) (size : p.length ≤ 24)
    (answer : p ∈ rawHandler.answers {} inputs) (ha : Carries ahead st.can a) :
    Stage (st.next ahead (.bus a)) inputs := by
  rcases exists_carried books up answering pos size ha with
    ⟨taken', slink', clink', books', up', answering'⟩
  exact .underway p taken' books' up' answering' pos size answer

/-- Links at rest stay at rest. -/
theorem Stage.wait (h : Stage st inputs) {a : LossyAction} (ha : Waits a)
    (horderly : st.Orderly ahead (.bus a)) : Stage (st.next ahead (.bus a)) inputs := by
  have hempty : ∀ frame ∈ ([] : List CanFrameData), frame.data.length = 8 :=
    fun _ hmem => absurd hmem List.not_mem_nil
  cases h with
  | settled books rest bus =>
      exact Stage.same (.settled books rest bus) (rest.same ha (bus ▸ hempty)) (rest.up.next ahead a)
  | asked msg books rest short bus =>
      refine Stage.same (.asked msg books rest short bus) (rest.same ha ?_) (rest.up.next ahead a)
      intro frame hmem
      rw [bus, List.mem_singleton] at hmem
      rw [hmem]
      exact length_singleFrame (Nat.le_of_lt_succ short)
  | posted msg mem books rest bus =>
      exact Stage.same (.posted msg mem books rest bus) (rest.same ha (bus ▸ hempty))
        (rest.up.next ahead a)
  | replied reply books rest bus size =>
      exact Stage.same (.replied reply books rest bus size) (rest.same ha (bus ▸ hempty))
        (rest.up.next ahead a)
  | underway p taken books up answering pos size answer =>
      cases a with
      | tick =>
          exact .underway p taken (books.congr rfl rfl rfl rfl) (up.next ahead .tick).choose_spec.choose_spec
            answering pos size answer
      | serverPoll | clientPoll mem => exact Stage.carry books up answering pos size answer horderly
      | deliverToClient mem => exact Stage.carry books up answering pos size answer trivial
      | request msg | respond msg | deliverToServer mem | loseToServer i | loseToClient i => exact ha.elim

theorem next_deliverToServer_nil (h : st.can.toServer = []) (mem : UDSMessage.Memory) :
    st.next ahead (.bus (.deliverToServer mem)) = st := by
  have hcan : st.can.next ahead (.deliverToServer mem) = st.can := by
    simp only [LossyCan.next, h]
  rw [CanSession.next, hcan]

theorem Stage.deliver (h : Stage st inputs) (mem : UDSMessage.Memory) :
    Stage (st.next ahead (.bus (.deliverToServer mem))) inputs := by
  cases h with
  | settled books rest bus =>
      rw [next_deliverToServer_nil bus]
      exact .settled books rest bus
  | asked msg books rest short bus =>
      rcases posted_of_asked ahead books rest short bus mem with
        ⟨slink', books', rest', bus'⟩
      exact .posted msg mem books' rest' bus'
  | posted msg mem' books rest bus =>
      rw [next_deliverToServer_nil bus]
      exact .posted msg mem' books rest bus
  | replied reply books rest bus size =>
      rw [next_deliverToServer_nil bus]
      exact .replied reply books rest bus size
  | underway p taken books up answering pos size answer =>
      exact Stage.carry books up answering pos size answer trivial

theorem next_serve_none (h : st.can.received.drop st.served.length = []) (env : HandlerEnv)
    (now latencyUs : Int64) : st.next ahead (.serve env now latencyUs) = st := by
  rw [CanSession.next, none_of_drop h]

/-- The one request in the queue is served. -/
theorem Stage.serve (h : Stage st inputs) (ahead : WhichEnd → Nat) (env : HandlerEnv)
    (now latencyUs : Int64) :
    st.next ahead (.serve env now latencyUs) = st ∨
      ∃ msg mem, st.can.requests.map serializeUDSMessage =
          inputs.map RawRequest.raw ++ [serializeUDSMessage msg] ∧
        Stage (st.next ahead (.serve env now latencyUs))
          (inputs ++ [{ raw := serializeUDSMessage msg, env := env, mem := ⟨mem, env.mem⟩ }]) := by
  cases h with
  | settled books | asked _ books | replied _ books | underway _ _ books =>
      exact .inl (next_serve_none books.posted env now latencyUs)
  | posted msg mem books rest bus =>
      rcases replied_of_posted ahead books env now latencyUs with ⟨reply, books', hcan, hsize⟩
      exact .inr ⟨msg, mem, books.requests, .replied reply books' (hcan ▸ rest) (hcan ▸ bus) hsize⟩

theorem next_respond_none (h : st.replies.drop st.can.responses.length = []) :
    st.next ahead .respond = st := by
  rw [CanSession.next, none_of_drop h]

/-- The one response in the queue goes out. -/
theorem Stage.respond (h : Stage st inputs) : Stage (st.next ahead .respond) inputs := by
  cases h with
  | settled books rest bus =>
      rw [next_respond_none books.replied]
      exact .settled books rest bus
  | asked msg books rest short bus =>
      rw [next_respond_none books.replied]
      exact .asked msg books rest short bus
  | posted msg mem books rest bus =>
      rw [next_respond_none books.replied]
      exact .posted msg mem books rest bus
  | replied reply books rest bus size =>
      rcases underway_of_replied ahead books rest bus size with
        ⟨slink', clink', books', up', answering'⟩
      have answer : serializeUDSMessage reply ∈ rawHandler.answers {} inputs := by
        apply List.mem_of_mem_drop
        rw [books.unseen]
        exact List.mem_singleton_self _
      exact .underway _ false books' up' answering' (Nat.succ_pos _) size answer
  | underway p taken books up answering pos size answer =>
      rw [next_respond_none books.replied]
      exact .underway p taken books up answering pos size answer

/-- All that an action does to the requests that are served: one more is, or none. -/
theorem Stage.next (h : Stage st inputs) {a : CanSessionAction} (ha : st.Orderly ahead a) :
    Stage (st.next ahead a) inputs ∨
      ∃ env now latencyUs msg mem, a = .serve env now latencyUs ∧
        st.can.requests.map serializeUDSMessage =
          inputs.map RawRequest.raw ++ [serializeUDSMessage msg] ∧
        Stage (st.next ahead a)
          (inputs ++ [{ raw := serializeUDSMessage msg, env := env, mem := ⟨mem, env.mem⟩ }]) := by
  cases a with
  | serve env now latencyUs =>
      rcases h.serve ahead env now latencyUs with hsame | ⟨msg, mem, hrequests, hstage⟩
      · rw [hsame]
        exact .inl h
      · exact .inr ⟨env, now, latencyUs, msg, mem, rfl, hrequests, hstage⟩
  | respond => exact .inl h.respond
  | bus a =>
      left
      cases a with
      | request msg => exact h.ask ha.1 ha.2
      | deliverToServer mem => exact h.deliver mem
      | tick | clientPoll mem | serverPoll | deliverToClient mem => exact h.wait trivial ha
      | respond msg | loseToServer i | loseToClient i => exact ha.elim

theorem Stage.exists_next (h : Stage st inputs) {a : CanSessionAction} (ha : st.Orderly ahead a) :
    ∃ inputs', Stage (st.next ahead a) inputs' := by
  rcases h.next ha with hsame | ⟨_, _, _, _, _, -, -, hserved⟩
  · exact ⟨_, hsame⟩
  · exact ⟨_, hserved⟩

/-- The books of every stage, whatever is under way. -/
theorem Stage.books (h : Stage st inputs) :
    ∃ asked posted replied unseen, Books st inputs asked posted replied unseen := by
  cases h with
  | settled books | asked _ books | posted _ _ books | replied _ books | underway _ _ books =>
      exact ⟨_, _, _, _, books⟩

end

/-! ## The way to the end -/

section

variable {st₀ st : CanSession} {inputs : List RawRequest} {ahead : WhichEnd → Nat}

/-- The rest of a session that began in `st₀` can be brought to its end without another request. -/
def Settles (ahead : WhichEnd → Nat) (st₀ st : CanSession) : Prop :=
  ∃ actions, (machine ahead st₀).Along (fun st a => st.Orderly ahead a) st actions ∧
    (∀ msg, .bus (.request msg) ∉ actions) ∧ ((machine ahead st₀).exec st actions).Over

theorem Settles.step {a : CanSessionAction} (ha : st.Orderly ahead a)
    (hno : ∀ msg, a ≠ .bus (.request msg)) (h : Settles ahead st₀ (st.next ahead a)) :
    Settles ahead st₀ st := by
  rcases h with ⟨actions, halong, hnone, hover⟩
  exact ⟨a :: actions, ⟨ha, halong⟩,
    fun msg => List.not_mem_cons_of_ne_of_not_mem (hno msg).symm (hnone msg), hover⟩

theorem Books.counts {asked : List UDSMessage} {unseen : List QByteArray}
    (h : Books st inputs asked [] [] unseen) :
    st.served.length = st.can.received.length ∧ st.can.responses.length = st.replies.length :=
  ⟨Nat.le_antisymm h.served_le (List.drop_eq_nil_iff.1 h.posted),
    Nat.le_antisymm h.responses_le (List.drop_eq_nil_iff.1 h.replied)⟩

theorem now_busAction (can : LossyCan) (a : CanAction) :
    (can.next ahead (busAction a)).now = can.now := by
  cases a with
  | serverPoll ms | clientPoll ms => rfl
  | deliverToServer ms =>
      cases hbus : can.toServer with
      | nil | cons frame rest => simp only [busAction, LossyCan.next, hbus, serverSends]
  | deliverToClient ms =>
      cases hbus : can.toClient with
      | nil | cons frame rest => simp only [busAction, LossyCan.next, hbus, clientSends]

/-- The programs follow a run of their links that completes the response. -/
theorem settles_of_completion {slink clink : IsoTpLink} {p : QByteArray} {taken : Bool}
    {far near : UInt32} {v₀ v : CanSystem} {emitted : List UDSMessage} {run : List CanAction}
    (books : Books st inputs [] [] [] (if taken then [] else [p])) (up : Up st.can slink clink)
    (answering : Answering p taken st.can) (pos : 0 < p.length) (size : p.length ≤ 24)
    (hfar : st.can.ms ahead .far = far) (hnear : st.can.ms ahead .near = near)
    (hv : v = sight st.can emitted)
    (hrun : (CanSystem.canMachine {} v₀).Along (fun s a => s.TimersHold a ∧ a.At far near) v run)
    (hdone : ((CanSystem.canMachine {} v₀).exec v run).Completed) : Settles ahead st₀ st := by
  induction run generalizing st slink clink taken v emitted with
  | nil =>
      rw [hv] at hdone
      exact ⟨[], trivial, fun _ => List.not_mem_nil, hdone, books.counts⟩
  | cons a run ih =>
      rcases hrun with ⟨⟨hheld, hat⟩, hrest⟩
      rw [hv] at hheld
      have hheld' : (sight st.can []).TimersHold a := by
        cases a <;> exact hheld
      have hat' : a.At (st.can.ms ahead .far) (st.can.ms ahead .near) := by
        rw [hfar, hnear]
        exact hat
      have hcarries := carries_busAction hat' hheld'
      rcases exists_carried books up answering pos size hcarries with
        ⟨taken', slink', clink', books', up', answering'⟩
      rcases answering.sight_next up pos (Nat.le_trans size (by decide)) hat' hheld' emitted with
        ⟨new, hsight⟩
      have hclock : ∀ side, (st.can.next ahead (busAction a)).ms ahead side = st.can.ms ahead side :=
        fun side => congrArg (fun now => UInt32.ofNat (now + ahead side)) (now_busAction st.can a)
      refine Settles.step (a := .bus (busAction a)) ?_ ?_ (ih books' up' answering'
        ((hclock .far).trans hfar) ((hclock .near).trans hnear) (hv ▸ hsight) hrest hdone)
      · cases a <;> exact hcarries
      · cases a <;> exact fun _ heq => nomatch heq

theorem settles_of_underway {slink clink : IsoTpLink} {p : QByteArray} {taken : Bool}
    (books : Books st inputs [] [] [] (if taken then [] else [p])) (up : Up st.can slink clink)
    (answering : Answering p taken st.can) (pos : 0 < p.length) (size : p.length ≤ 24) :
    Settles ahead st₀ st := by
  rcases (answering {}).exists_completion pos (Nat.le_trans size (by decide))
    (st.can.ms ahead .far) (st.can.ms ahead .near) with ⟨run, hrun, hdone⟩
  exact settles_of_completion books up answering pos size rfl rfl rfl hrun hdone

theorem settles_of_replied {slink clink : IsoTpLink} {reply : UDSMessage}
    (books : Books st inputs [] [] [reply] [serializeUDSMessage reply])
    (rest : Resting st.can slink clink) (bus : st.can.toServer = [])
    (size : (serializeUDSMessage reply).length ≤ 24) : Settles ahead st₀ st := by
  apply Settles.step (a := .respond) trivial (fun _ heq => nomatch heq)
  rcases underway_of_replied ahead books rest bus size with
    ⟨slink', clink', books', up', answering'⟩
  have unseen : Books (st.next ahead .respond) inputs [] [] []
      (if false then [] else [serializeUDSMessage reply]) := books'
  exact settles_of_underway unseen up' answering' (Nat.succ_pos _) size

theorem settles_of_posted {slink clink : IsoTpLink} {msg : UDSMessage} {mem : UDSMessage.Memory}
    (books : Books st inputs [msg] [serverDecode mem (serializeUDSMessage msg)] [] [])
    (rest : Resting st.can slink clink) (bus : st.can.toServer = [])
    (env : HandlerEnv) (now latencyUs : Int64) : Settles ahead st₀ st := by
  apply Settles.step (a := .serve env now latencyUs) trivial (fun _ heq => nomatch heq)
  rcases replied_of_posted ahead books env now latencyUs with ⟨reply, books', hcan, hsize⟩
  exact settles_of_replied books' (hcan ▸ rest) (hcan ▸ bus) hsize

/-- From every stage the next one is reached, and the last one is the end. -/
theorem Stage.settles (h : Stage st inputs) (env : HandlerEnv) (now latencyUs : Int64) :
    Settles ahead st₀ st := by
  cases h with
  | settled books rest bus =>
      exact ⟨[], trivial, fun _ => List.not_mem_nil,
        ⟨⟨_, rest.up.server.isLink, rest.serverSend⟩, rest.toClient, bus⟩, books.counts⟩
  | asked msg books rest short bus =>
      apply Settles.step (a := .bus (.deliverToServer {})) trivial (fun _ heq => nomatch heq)
      rcases posted_of_asked ahead books rest short bus {} with ⟨slink', books', rest', bus'⟩
      exact settles_of_posted books' rest' bus' env now latencyUs
  | posted msg mem books rest bus => exact settles_of_posted books rest bus env now latencyUs
  | replied reply books rest bus size => exact settles_of_replied books rest bus size
  | underway p taken books up answering pos size answer =>
      exact settles_of_underway books up answering pos size

end

/-! ## Every session -/

theorem stage_init (serverBuffers : IsoTpBuffers Server.isoTpBufferSize)
    (memory : IsoTpBuffers Client.isoTpBufferSize) (now : Nat) :
    Stage { can := LossyCan.init serverBuffers memory now } [] := by
  rcases up_init serverBuffers memory now with ⟨slink, clink, hup⟩
  -- both links are as they were initialised
  have hslink : isotpInitLink CanId.udsResp serverBuffers = slink := Option.some.inj hup.server.isLink
  have hclink : (LossyCan.init serverBuffers memory now).client.m_iso_link = clink :=
    congrArg CanInterFace.m_iso_link hup.client.link
  have hserver : slink.send_status = .idle ∧ slink.receive_status = .idle := by
    rw [← hslink]
    exact ⟨rfl, rfl⟩
  have hclient : clink.send_status = .idle ∧ clink.receive_status = .idle := by
    rw [← hclink]
    exact ⟨rfl, rfl⟩
  have books : Books { can := LossyCan.init serverBuffers memory now } [] [] [] [] [] := {
    session := rfl
    envs := rfl
    requests := rfl
    posted := rfl
    served_le := Nat.le_refl _
    replied := rfl
    responses_le := Nat.le_refl _
    unseen := rfl
    emitted := .nil }
  exact .settled books ⟨hup, hserver.1, hserver.2, hclient.1, hclient.2, rfl⟩ rfl

theorem exists_stage (ahead : WhichEnd → Nat) (serverBuffers : IsoTpBuffers Server.isoTpBufferSize)
    (memory : IsoTpBuffers Client.isoTpBufferSize) (now : Nat) {actions : List CanSessionAction}
    (h : (machine ahead { can := LossyCan.init serverBuffers memory now }).Along
      (fun st a => st.Orderly ahead a) { can := LossyCan.init serverBuffers memory now } actions) :
    ∃ inputs,
      Stage ((machine ahead { can := LossyCan.init serverBuffers memory now }).after actions) inputs :=
  (machine ahead _).exec_invariant_along (I := fun st => ∃ inputs, Stage st inputs)
    (fun _ _ ⟨_, hstage⟩ ha => hstage.exists_next ha) ⟨[], stage_init serverBuffers memory now⟩ h

/-- The client's tester sees one sequential server.  The requests that were served, in their order, are
the first of those that the client sent; the session of the UDS worker is the handler's after them; and
what the client has emitted is decoded from the handler's answers to the first of them, one for one.  When
nothing is under way, that is all of them. -/
theorem can_session (ahead : WhichEnd → Nat) (serverBuffers : IsoTpBuffers Server.isoTpBufferSize)
    (memory : IsoTpBuffers Client.isoTpBufferSize) (now : Nat) {actions : List CanSessionAction}
    (h : (machine ahead { can := LossyCan.init serverBuffers memory now }).Along
      (fun st a => st.Orderly ahead a) { can := LossyCan.init serverBuffers memory now } actions) :
    let st := (machine ahead { can := LossyCan.init serverBuffers memory now }).after actions
    ∃ inputs : List RawRequest,
      inputs.map RawRequest.raw <+: st.can.requests.map serializeUDSMessage ∧
      inputs.map RawRequest.env = st.served ∧
      st.session = rawHandler.after inputs ∧
      List.Forall₂ DecodedFrom ((rawHandler.answers {} inputs).take st.can.emitted.length)
        st.can.emitted ∧
      (st.Over → inputs.map RawRequest.raw = st.can.requests.map serializeUDSMessage ∧
        List.Forall₂ DecodedFrom (rawHandler.answers {} inputs) st.can.emitted) := by
  intro st
  rcases exists_stage ahead serverBuffers memory now h with ⟨inputs, hstage⟩
  rcases hstage.books with ⟨asked, posted, replied, unseen, books⟩
  refine ⟨inputs, ⟨_, books.requests.symm⟩, books.envs, books.session, books.emitted, fun hover => ?_⟩
  rcases hstage.settle hover with ⟨slink, clink, books, -, -⟩
  have hrequests := books.requests
  rw [List.map_nil, List.append_nil] at hrequests
  refine ⟨hrequests.symm, ?_⟩
  have hall : (rawHandler.answers {} inputs).length ≤ st.can.emitted.length :=
    List.drop_eq_nil_iff.1 books.unseen
  have hemitted := books.emitted
  rwa [List.take_of_length_le hall] at hemitted

/-- A request for the seed, and the way back of its response. -/
def seedOverCan : List CanSessionAction :=
  [.bus .tick, .bus (.request { (UDSMessage.declare {}) with serviceId := 0x27, subFunction := 1 }),
    .bus .serverPoll, .bus (.deliverToServer {}), .serve {} 0 0, .bus (.clientPoll {}), .respond,
    .bus (.deliverToClient {})]

theorem can_session_seedOverCan :
    let can := LossyCan.init (IsoTpBuffers.zero _) (IsoTpBuffers.zero _) 0
    let st := (machine (fun _ => 3) { can := can }).after seedOverCan
    ∃ inputs : List RawRequest, inputs.map RawRequest.raw = [[0x27, 1]] ∧
      st.session = rawHandler.after inputs ∧
      List.Forall₂ DecodedFrom (rawHandler.answers {} inputs) st.can.emitted := by
  intro can st
  have hover : st.Over := by decide +kernel
  have horderly : (machine (fun _ => 3) { can := can }).Along
      (fun st a => st.Orderly (fun _ => 3) a) { can := can } seedOverCan := by
    decide +kernel
  rcases can_session (fun _ => 3) _ _ 0 horderly with ⟨inputs, -, -, hsession, -, hall⟩
  exact ⟨inputs, (hall hover).1, hsession, (hall hover).2⟩

/-- Whatever has happened, the session can be brought to its end, with the requests that were sent and no
other. -/
theorem can_session_settles (ahead : WhichEnd → Nat)
    (serverBuffers : IsoTpBuffers Server.isoTpBufferSize)
    (memory : IsoTpBuffers Client.isoTpBufferSize) (now : Nat) {actions : List CanSessionAction}
    (h : (machine ahead { can := LossyCan.init serverBuffers memory now }).Along
      (fun st a => st.Orderly ahead a) { can := LossyCan.init serverBuffers memory now } actions)
    (env : HandlerEnv) (servedAt latencyUs : Int64) :
    let M := machine ahead { can := LossyCan.init serverBuffers memory now }
    ∃ more, M.Along (fun st a => st.Orderly ahead a) M.init (actions ++ more) ∧
      (∀ msg, .bus (.request msg) ∉ more) ∧ (M.after (actions ++ more)).Over := by
  intro M
  rcases exists_stage ahead serverBuffers memory now h with ⟨inputs, hstage⟩
  rcases hstage.settles env servedAt latencyUs with ⟨more, halong, hnone, hover⟩
  refine ⟨more, M.along_append.2 ⟨h, halong⟩, hnone, ?_⟩
  rw [Machine.after, Machine.exec_append]
  exact hover

/-- The request is on the bus; the rest brings the session to its end. -/
theorem can_session_settles_seedOverCan :
    let M := machine (fun _ => 3)
      { can := LossyCan.init (IsoTpBuffers.zero _) (IsoTpBuffers.zero _) 0 }
    ∃ more, M.Along (fun st a => st.Orderly (fun _ => 3) a) M.init (seedOverCan.take 3 ++ more) ∧
      (∀ msg, .bus (.request msg) ∉ more) ∧ (M.after (seedOverCan.take 3 ++ more)).Over :=
  can_session_settles (fun _ => 3) _ _ 0 (by decide +kernel) {} 0 0

end CanSession
end System
end TcpCanUds
