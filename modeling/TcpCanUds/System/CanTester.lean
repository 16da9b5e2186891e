import TcpCanUds.System.CanSession
import TcpCanUds.System.SessionRequests

/-!
# CanTester — the session buttons over CAN

The window of the client on top of a session over CAN.  A click is for when nothing is under way; the
requests that follow from it, the frames, the timers, the queues of both programs and the slots of the
window take their turns in any order.  As in `CanSession`, a call of `sendUdsMessage` is one step.

The window and the handler of the server then do what they do when they are connected by two queues:
`CanTester.Tracks` says which message of the bus stands for which message of the queues.

* `buttons_enter` — with nothing under way, both parties are in the session of the last button;
* `buttons_settle` — and that point is reached from everywhere.
-/

namespace TcpCanUds
namespace System

open Lib IsoTp Server UdsHandler Client

/-! ## The parties -/

structure CanTester where
  link : CanSession
  window : ClientState := {}
  /-- the requests that the window has posted to the CAN worker, oldest first -/
  posted : List QByteArray := []
  /-- how many messages of the link have reached the window -/
  heard : Nat := 0

inductive CanTesterAction where
  | click (button : SessionButton)
  /-- the CAN worker takes the next request of the window -/
  | send
  /-- the next message of the link reaches the window -/
  | hear
  | link (a : CanSessionAction)
  deriving DecidableEq, Repr

def CanSessionAction.IsRequest : CanSessionAction → Prop
  | .bus (.request _) => True
  | .bus _ | .serve .. | .respond => False

instance : DecidablePred CanSessionAction.IsRequest
  | .bus (.request _) => isTrue trivial
  | .bus .tick | .bus .serverPoll | .bus (.clientPoll _) | .bus (.respond _) | .bus (.deliverToServer _)
  | .bus (.deliverToClient _) | .bus (.loseToServer _) | .bus (.loseToClient _) | .serve ..
  | .respond => isFalse id

/-- The message whose bytes are those of a request. -/
def messageOf (raw : QByteArray) : UDSMessage :=
  { (UDSMessage.declare {}) with
    serviceId := raw.byteAt 0
    subFunction := raw.byteAt 1
    payload := raw.drop 2 }

namespace CanTester

/-- `Can_worker` holds back what has no service. -/
def passOn (window : ClientState) (msg : UDSMessage) : ClientState × List QByteArray :=
  if .udsMessageReceived msg ∈ CanWorker.onUdsMessageReceived msg then
    Client.onUdsMessageReceived window msg
  else (window, [])

section

variable (ahead : WhichEnd → Nat) (st : CanTester)

def next : CanTesterAction → CanTester
  | .click button =>
      let r := onClicked st.window button
      { st with window := r.1, posted := st.posted ++ r.2 }
  | .send =>
      match st.posted with
      | [] => st
      | raw :: rest =>
          { st with posted := rest, link := st.link.next ahead (.bus (.request (messageOf raw))) }
  | .hear =>
      match st.link.can.emitted[st.heard]? with
      | none => st
      | some msg =>
          let r := passOn st.window msg
          { st with window := r.1, posted := st.posted ++ r.2, heard := st.heard + 1 }
  | .link a => { st with link := st.link.next ahead a }

/-- Nothing is under way, and nothing waits for its turn. -/
def Quiet : Prop :=
  st.link.Over ∧ st.posted = [] ∧ st.heard = st.link.can.emitted.length

instance : Decidable st.Quiet :=
  inferInstanceAs (Decidable (_ ∧ _ ∧ _))

/-- Nothing is lost and no timer runs out; the user waits for the end of what the last click led to. -/
def Orderly : CanTesterAction → Prop
  | .click _ => st.Quiet
  | .send | .hear => True
  -- the requests are those of the window
  | .link a => ¬ a.IsRequest ∧ st.link.Orderly ahead a

instance (a : CanTesterAction) : Decidable (st.Orderly ahead a) :=
  match a with
  | .click _ => inferInstanceAs (Decidable st.Quiet)
  | .send | .hear => isTrue trivial
  | .link a => inferInstanceAs (Decidable (¬ a.IsRequest ∧ st.link.Orderly ahead a))

end

def machine (ahead : WhichEnd → Nat) (st : CanTester) : Machine CanTester CanTesterAction Unit where
  init := st
  step st a := (st.next ahead a, ())

/-- The button of a click. -/
def buttonOf : CanTesterAction → Option SessionButton
  | .click button => some button
  | .send | .hear | .link _ => none

def lastButton (actions : List CanTesterAction) : Option SessionButton :=
  (actions.filterMap buttonOf).getLast?

theorem lastButton_snoc (actions : List CanTesterAction) (a : CanTesterAction) :
    lastButton (actions ++ [a]) = (buttonOf a).or (lastButton actions) := by
  cases hbutton : buttonOf a with
  | none => simp [lastButton, List.filterMap_append, hbutton]
  | some button => simp [lastButton, List.filterMap_append, hbutton]

end CanTester

/-! ## The requests of the buttons -/

/-- The request goes into one frame, and so does the answer. -/
structure SessionRequest (raw : QByteArray) : Prop where
  service : raw.byteAt 0 = UdsSid.diagnosticSessionControl ∨ raw.byteAt 0 = UdsSid.securityAccess
  two_le : 2 ≤ raw.length
  short : raw.length < 8

theorem serialize_messageOf {raw : QByteArray} (h : 2 ≤ raw.length) :
    serializeUDSMessage (messageOf raw) = raw := by
  cases raw with
  | nil => exact absurd h (by decide)
  | cons a raw =>
      cases raw with
      | nil => exact absurd h (Nat.not_succ_le_self 1)
      | cons b payload => rfl

theorem short_of_answers {env : HandlerEnv} {s s' : SessionState} {req r : UDSMessage}
    (h : Answers env s req s' r)
    (hservice : req.serviceId = UdsSid.diagnosticSessionControl ∨
      req.serviceId = UdsSid.securityAccess) : (serializeUDSMessage r).length < 8 := by
  have hother : ∀ {sid}, req.serviceId = sid → sid ≠ UdsSid.diagnosticSessionControl →
      sid ≠ UdsSid.securityAccess → (serializeUDSMessage r).length < 8 := by
    intro sid hsid hsession haccess
    rcases hservice with heq | heq
    · exact absurd (hsid.symm.trans heq) hsession
    · exact absurd (hsid.symm.trans heq) haccess
  rw [length_serializeUDSMessage]
  cases h with
  | read hsid | tester hsid | reset hsid => exact hother hsid (by decide) (by decide)
  | defaultSession | unlockedSession | seed | key => exact Nat.le_of_ble_eq_true rfl
  | refused => exact Nat.le_of_ble_eq_true rfl

theorem short_answer (server : SessionState) {i : RawRequest} (h : SessionRequest i.raw) :
    (rawHandler.step server i).2.length < 8 := by
  rcases Server.deserialize_fields i.mem.1 h.two_le with ⟨hsid, -, -⟩
  exact short_of_answers (processRequest_answers _ server _) (hsid ▸ h.service)

/-- The server of the queues answers as the handler does. -/
theorem serve_rawHandler (server : SessionState) (raw : QByteArray) (mem : UDSMessage.Memory)
    (env : HandlerEnv) (now latencyUs : Int64) :
    let i : RawRequest := { raw := raw, env := env, mem := ⟨mem, env.mem⟩ }
    let r := serve server raw mem env now latencyUs
    r.1 = (rawHandler.step server i).1 ∧
      r.2.toList.map (fun reply => serializeUDSMessage reply.response) =
        [(rawHandler.step server i).2] := by
  intro i r
  let w : UdsWorker.WorkerInput :=
    { source := .tcp clientId, env, now, latencyUs, msg := Server.deserializeUDSMessage mem raw }
  have hr : r = UdsWorker.worker.step server w := rfl
  rcases UdsWorker.worker_replies server w with ⟨reply, hreply, hresponse⟩
  refine ⟨UdsWorker.worker_step_fst server w, ?_⟩
  rw [hr, hreply, Option.toList_some, List.map_singleton, hresponse]
  rfl

section

variable {button : SessionButton} {k : Nat} {v : SystemState}

theorem Phase.requests (h : Phase button k v) : ∀ raw ∈ v.toServer, SessionRequest raw := by
  have hkey : ∀ seed, SessionRequest (sendSecurityKey (calculateKeyFromSeed (bytes32 seed))) := by
    intro seed
    refine ⟨.inr rfl, two_le_length_request _ _ _, ?_⟩
    rw [calculateKeyFromSeed, if_neg (by simp)]
    exact Nat.le_of_ble_eq_true rfl
  cases h with
  | seedAsked =>
      refine List.forall_mem_singleton.2 ⟨.inr rfl, two_le_length_request _ _ _, ?_⟩
      exact Nat.le_of_ble_eq_true rfl
  | @keySent client server => exact List.forall_mem_singleton.2 (hkey server.seed)
  | sessionAsked =>
      refine List.forall_mem_singleton.2 ⟨.inl rfl, two_le_length_request _ _ _, ?_⟩
      exact Nat.le_of_ble_eq_true rfl
  | seedSent | keyTaken | sessionSent | entered => exact fun _ hmem => absurd hmem List.not_mem_nil

end

/-! ## The course of a click -/

/-- Before the first click nothing happens; behind one, the phases follow each other. -/
inductive Course : Option SessionButton → Nat → SystemState → Prop
  | start : Course none 0 {}
  | clicked {button : SessionButton} {k : Nat} {v : SystemState} (h : Phase button k v) :
      Course (some button) k v

section

variable {last : Option SessionButton} {k : Nat} {v : SystemState}

theorem Course.requests (h : Course last k v) : ∀ raw ∈ v.toServer, SessionRequest raw := by
  cases h with
  | start => exact fun _ hmem => absurd hmem List.not_mem_nil
  | clicked h => exact h.requests

/-- One message is in flight: a request, a response, or none. -/
theorem Course.inFlight (h : Course last k v) :
    (∃ raw, v.toServer = [raw] ∧ v.toClient = [] ∧ k ≠ 0 ∧ k % 2 = 0) ∨
      (∃ raw, v.toServer = [] ∧ v.toClient = [raw] ∧ k % 2 = 1) ∨
      (v.toServer = [] ∧ v.toClient = [] ∧ k = 0) := by
  cases h with
  | start => exact .inr (.inr ⟨rfl, rfl, rfl⟩)
  | clicked h =>
      cases h with
      | seedAsked | keySent | sessionAsked => exact .inl ⟨_, rfl, rfl, by decide, rfl⟩
      | seedSent | keyTaken | sessionSent => exact .inr (.inl ⟨_, rfl, rfl, rfl⟩)
      | entered => exact .inr (.inr ⟨rfl, rfl, rfl⟩)

theorem Course.next (h : Course last k v) {a : Action} (ha : ¬ IsClick a) :
    ∃ k', Course last k' (System.next v a) ∧ k = k' + (taken v a).toList.length := by
  cases h with
  | start =>
      cases a with
      | click => exact absurd trivial ha
      | serverStep | clientStep => exact ⟨0, .start, rfl⟩
  | clicked h =>
      rcases h.next ha with ⟨k', hnext, hk⟩
      exact ⟨k', .clicked hnext, hk⟩

/-- Where the last click has led to. -/
theorem Course.entered {button : SessionButton} (h : Course (some button) k v) (hserver : v.toServer = [])
    (hclient : v.toClient = []) : Entered button v.client v.server := by
  cases h with
  | clicked h =>
      cases h with
      | entered hentered => exact hentered
      | seedAsked | keySent | sessionAsked => cases hserver
      | seedSent | keyTaken | sessionSent => cases hclient

/-- What the phase says of one queue it says of every state. -/
theorem Course.toServer_of {v' : SystemState} (h : Course last k v) (h' : Course last k v')
    (hserver : v.toServer = []) : v'.toServer = [] := by
  rcases h'.inFlight with ⟨_, -, -, hne, heven⟩ | ⟨_, hserver', -⟩ | ⟨hserver', -⟩
  · rcases h.inFlight with ⟨_, hraw, -⟩ | ⟨_, -, -, hodd⟩ | ⟨-, -, hzero⟩
    · cases hserver.symm.trans hraw
    · cases heven.symm.trans hodd
    · exact absurd hzero hne
  · exact hserver'
  · exact hserver'

/-- The next click starts from there. -/
theorem Course.click (h : Course last k v) (hserver : v.toServer = []) (hclient : v.toClient = [])
    (button : SessionButton) : ∃ k', Course (some button) k' (System.next v (.click button)) := by
  have hready : (v.client.m_securityAccessCompleted = true → v.server.isAuthenticated = true) ∧
      (v.client.m_securityAccessCompleted = true → v.client.m_waitingForSecurityAccess = false) := by
    cases last with
    | none =>
        cases h with
        | start => exact ⟨fun hcompleted => (nomatch hcompleted), fun _ => rfl⟩
    | some old =>
        have hentered := h.entered hserver hclient
        exact ⟨fun hcompleted => hentered.authenticated.2 (hentered.completed.1 hcompleted),
          fun _ => hentered.waiting⟩
  rcases v with ⟨client, server, toServer, toClient⟩
  cases hserver
  cases hclient
  rcases @phase_click button client server hready.1 hready.2 with ⟨k', -, hphase⟩
  exact ⟨k', .clicked hphase⟩

end

namespace CanSession

/-- A session whose requests are served and whose answers, short ones, are emitted is over. -/
theorem Stage.over {st : CanSession} {inputs : List RawRequest} (h : Stage st inputs)
    (hserved : (st.can.requests.map serializeUDSMessage).drop inputs.length = [])
    (hseen : (rawHandler.answers {} inputs).length ≤ st.can.emitted.length)
    (hshort : ∀ answer ∈ rawHandler.answers {} inputs, answer.length < 8) : st.Over := by
  have hnone : ∀ {msg posted replied unseen}, ¬ Books st inputs [msg] posted replied unseen := by
    intro msg posted replied unseen books
    rw [books.requests, ← List.length_map RawRequest.raw, List.drop_left] at hserved
    cases hserved
  have hall : (rawHandler.answers {} inputs).drop st.can.emitted.length = [] :=
    List.drop_eq_nil_iff.2 hseen
  cases h with
  | settled books rest bus =>
      exact ⟨⟨⟨_, rest.up.server.isLink, rest.serverSend⟩, rest.toClient, bus⟩, books.counts⟩
  | asked msg books | posted msg mem books => exact absurd books hnone
  | replied reply books => cases books.unseen.symm.trans hall
  | underway p taken books up answering pos size answer =>
      cases taken with
      | false => cases books.unseen.symm.trans hall
      | true =>
          -- the one frame of the answer has arrived
          have hunderway := answering {}
          rw [CanSystem.Underway, if_pos (hshort p answer)] at hunderway
          rcases hunderway with ⟨slink, clink, hsingle⟩
          rcases hsingle.delivery with ⟨-, hemitted⟩ | ⟨hbus, -⟩
          · cases hemitted
          · exact ⟨⟨hsingle.idle, hbus, hsingle.toServer⟩, books.counts⟩

end CanSession

namespace CanTester

/-! ## The queues behind the bus -/

/-- The window and the handler are where they are in `v`.  The requests that are sent and not served, or
not sent yet, are those in the queue to the server, and the answers that the window has not heard are
those in the queue to the client. -/
structure Tracks (st : CanTester) (v : SystemState) (inputs : List RawRequest) : Prop where
  stage : CanSession.Stage st.link inputs
  client : v.client = st.window
  server : v.server = st.link.session
  toServer : v.toServer =
    (st.link.can.requests.map serializeUDSMessage).drop inputs.length ++ st.posted
  toClient : v.toClient = (rawHandler.answers {} inputs).drop st.heard
  heard : st.heard ≤ st.link.can.emitted.length
  short : ∀ answer ∈ rawHandler.answers {} inputs, answer.length < 8

section

variable {ahead : WhichEnd → Nat} {st : CanTester} {v : SystemState} {inputs : List RawRequest}

/-- No other action sends a request, and no message is taken back. -/
theorem messages_next (ahead : WhichEnd → Nat) (link : CanSession) {a : CanSessionAction}
    (ha : ¬ a.IsRequest) :
    (link.next ahead a).can.requests = link.can.requests ∧
      link.can.emitted <+: (link.next ahead a).can.emitted := by
  cases a with
  | serve env now latencyUs =>
      rw [CanSession.next]
      split
      · exact ⟨rfl, List.prefix_rfl⟩
      · exact ⟨rfl, List.prefix_rfl⟩
  | respond =>
      rw [CanSession.next]
      split
      · exact ⟨rfl, List.prefix_rfl⟩
      · exact ⟨rfl, List.prefix_rfl⟩
  | bus a =>
      cases a with
      | request msg => exact absurd trivial ha
      | tick | respond | serverPoll | loseToServer | loseToClient => exact ⟨rfl, List.prefix_rfl⟩
      | clientPoll mem => exact ⟨rfl, List.prefix_append _ _⟩
      | deliverToServer mem =>
          simp only [CanSession.next, LossyCan.next]
          split
          · exact ⟨rfl, List.prefix_rfl⟩
          · exact ⟨rfl, List.prefix_rfl⟩
      | deliverToClient mem =>
          simp only [CanSession.next, LossyCan.next]
          split
          · exact ⟨rfl, List.prefix_rfl⟩
          · exact ⟨rfl, List.prefix_append _ _⟩

/-- The link: when its UDS worker serves a request, the server takes one from its queue. -/
theorem Tracks.link (h : Tracks st v inputs) (hrequests : ∀ raw ∈ v.toServer, SessionRequest raw)
    {a : CanSessionAction} (hno : ¬ a.IsRequest) (ha : st.link.Orderly ahead a) :
    ∃ v' inputs', Tracks (st.next ahead (.link a)) v' inputs' ∧
      (v' = v ∨ ∃ mem env now latencyUs, v' = System.next v (.serverStep mem env now latencyUs)) := by
  rcases messages_next ahead st.link hno with ⟨hsame, hgrown⟩
  have hheard : st.heard ≤ (st.link.next ahead a).can.emitted.length :=
    Nat.le_trans h.heard hgrown.length_le
  rcases h.stage.books with ⟨_, _, _, _, books⟩
  rcases h.stage.next ha with hstage | ⟨env, now, latencyUs, msg, mem, -, hmsg, hstage⟩
  · -- the link is at work, and the queues of the window's machine do not move
    rcases hstage.books with ⟨_, _, _, _, books'⟩
    refine ⟨v, inputs, ?_, .inl rfl⟩
    exact {
      stage := hstage
      client := h.client
      server := h.server.trans (books.session.trans books'.session.symm)
      toServer := by
        change _ = ((st.link.next ahead a).can.requests.map serializeUDSMessage).drop _ ++ _
        rw [hsame]
        exact h.toServer
      toClient := h.toClient
      heard := hheard
      short := h.short }
  · -- a request is served: the same bytes are the first of the queue on the other side
    let raw := serializeUDSMessage msg
    let i : RawRequest := { raw := raw, env := env, mem := ⟨mem, env.mem⟩ }
    rcases hstage.books with ⟨_, _, _, _, books'⟩
    have htaken : v.toServer = raw :: st.posted := by
      rw [h.toServer, hmsg, ← List.length_map RawRequest.raw, List.drop_left]
      rfl
    -- the handler is in the state that the inputs before it have led to
    have hanswers : rawHandler.answers {} (inputs ++ [i]) =
        rawHandler.answers {} inputs ++ [(rawHandler.step v.server i).2] := by
      have hsnoc : rawHandler.answers {} (inputs ++ [i]) =
          rawHandler.answers {} inputs ++ [(rawHandler.step (rawHandler.after inputs) i).2] :=
        Machine.answers_snoc inputs i
      rw [hsnoc, h.server, books.session]
    rcases serve_rawHandler v.server raw mem env now latencyUs with ⟨hstate, hout⟩
    refine ⟨System.next v (.serverStep mem env now latencyUs), inputs ++ [i], ?_,
      .inr ⟨mem, env, now, latencyUs, rfl⟩⟩
    simp only [System.next, htaken]
    exact {
      stage := hstage
      client := h.client
      server := by
        have hafter : rawHandler.after (inputs ++ [i]) =
            (rawHandler.step (rawHandler.after inputs) i).1 := rawHandler.after_snoc inputs i
        rw [hstate, h.server, books.session, ← hafter]
        exact books'.session.symm
      toServer := by
        change _ = ((st.link.next ahead a).can.requests.map serializeUDSMessage).drop _ ++ _
        have hall : ((st.link.next ahead a).can.requests.map serializeUDSMessage).drop
            (inputs ++ [i]).length = [] := by
          rw [hsame, hmsg]
          apply List.drop_eq_nil_of_le
          rw [List.length_append, List.length_append, List.length_map]
          exact Nat.le_refl _
        rw [hall, List.nil_append]
        rfl
      toClient := by
        have hle : st.heard ≤ (rawHandler.answers {} inputs).length :=
          Nat.le_trans h.heard books.length_answers
        rw [hout, hanswers, h.toClient]
        exact (List.drop_append_of_le_length hle).symm
      heard := hheard
      short := by
        intro answer hmem
        rw [hanswers, List.mem_append, List.mem_singleton] at hmem
        rcases hmem with hold | rfl
        · exact h.short answer hold
        · exact short_answer v.server (hrequests raw (htaken ▸ List.mem_cons_self)) }

/-- The link takes a request over: it is free, for the window sends one when it has heard the answer to
the last one. -/
theorem Tracks.send (h : Tracks st v inputs) {last : Option SessionButton} {k : Nat}
    (hcourse : Course last k v) : Tracks (st.next ahead .send) v inputs := by
  rcases st with ⟨link, window, posted, heard⟩
  cases posted with
  | nil => exact h
  | cons raw rest =>
      have hserver := h.toServer
      rcases hcourse.inFlight with ⟨only, honly, hclient, -⟩ | ⟨_, hnone, -⟩ | ⟨hnone, -⟩
      · -- one request is in flight: the one the window has just posted
        rw [honly] at hserver
        have hserved : (link.can.requests.map serializeUDSMessage).drop inputs.length = [] := by
          rcases List.append_eq_cons_iff.1 hserver.symm with ⟨hserved, -⟩ | ⟨_, -, hrest⟩
          · exact hserved
          · cases (List.append_eq_nil_iff.1 hrest.symm).2
        rw [hserved, List.nil_append] at hserver
        rcases List.cons.inj hserver with ⟨rfl, hrest⟩
        have hreq : SessionRequest only := hcourse.requests only (honly ▸ List.mem_singleton_self _)
        have hseen : (rawHandler.answers {} inputs).length ≤ link.can.emitted.length :=
          Nat.le_trans (List.drop_eq_nil_iff.1 (h.toClient.symm.trans hclient)) h.heard
        -- all that was asked is served and heard, so the link is free
        have hover : link.Over := h.stage.over hserved hseen h.short
        have hraw := serialize_messageOf hreq.two_le
        have hlen : (serializeUDSMessage (messageOf only)).length < 8 := by
          rw [hraw]
          exact hreq.short
        refine { h with stage := h.stage.ask hover hlen, toServer := ?_ }
        change v.toServer = ((link.can.requests ++ [messageOf only]).map serializeUDSMessage).drop
          inputs.length ++ rest
        have hle : inputs.length ≤ (link.can.requests.map serializeUDSMessage).length := by
          rcases h.stage.books with ⟨_, _, _, _, books⟩
          rw [books.requests, List.length_append, List.length_map]
          exact Nat.le_add_right _ _
        rw [List.map_append, List.drop_append_of_le_length hle, hserved, List.map_singleton, hraw,
          ← hrest, honly]
        rfl
      · rw [hnone] at hserver
        cases (List.append_eq_nil_iff.1 hserver.symm).2
      · rw [hnone] at hserver
        cases (List.append_eq_nil_iff.1 hserver.symm).2

theorem passOn_eq (window : ClientState) (msg : UDSMessage) :
    passOn window msg = Client.onUdsMessageReceived window msg := by
  rw [passOn, CanWorker.onUdsMessageReceived]
  by_cases hzero : msg.serviceId = 0
  · rw [if_pos hzero, if_neg List.not_mem_nil, Client.onUdsMessageReceived, if_pos hzero]
  · rw [if_neg hzero, if_pos (by simp)]

/-- The window hears the next answer. -/
theorem Tracks.hear (h : Tracks st v inputs) :
    ∃ v', Tracks (st.next ahead .hear) v' inputs ∧
      (st.heard = st.link.can.emitted.length ∧ v' = v ∨
        ∃ mem, v' = System.next v (.clientStep mem)) := by
  rcases h.stage.books with ⟨_, _, _, _, books⟩
  by_cases hall : st.heard = st.link.can.emitted.length
  · have hnone : st.link.can.emitted[st.heard]? = none := List.getElem?_eq_none (Nat.le_of_eq hall.symm)
    have hstay : st.next ahead .hear = st := by
      rw [CanTester.next, hnone]
    refine ⟨v, ?_, .inl ⟨hall, rfl⟩⟩
    rw [hstay]
    exact h
  · have hlt : st.heard < st.link.can.emitted.length := Nat.lt_of_le_of_ne h.heard hall
    -- the message to be heard is the answer of the same number
    have htake : st.heard < ((rawHandler.answers {} inputs).take st.link.can.emitted.length).length := by
      rw [books.emitted.length_eq]
      exact hlt
    rcases books.emitted.get htake hlt with ⟨mem, hdecoded⟩
    rw [List.get_eq_getElem, List.get_eq_getElem, List.getElem_take] at hdecoded
    have hlt' : st.heard < (rawHandler.answers {} inputs).length :=
      Nat.lt_of_lt_of_le hlt books.length_answers
    have htoClient := h.toClient
    rw [List.drop_eq_getElem_cons hlt'] at htoClient
    let heardNow := passOn st.window st.link.can.emitted[st.heard]
    have hnext : st.next ahead .hear =
        { st with window := heardNow.1, posted := st.posted ++ heardNow.2, heard := st.heard + 1 } := by
      rw [CanTester.next, List.getElem?_eq_getElem hlt]
    have hheard : heardNow = Client.onUdsMessageReceived v.client
        (Client.deserializeUDSMessage mem (rawHandler.answers {} inputs)[st.heard]) := by
      rw [← hdecoded, h.client]
      exact passOn_eq _ _
    refine ⟨System.next v (.clientStep mem), ?_, .inr ⟨mem, rfl⟩⟩
    simp only [System.next, htoClient, ← hheard]
    rw [hnext]
    exact {
      stage := h.stage
      client := rfl
      server := h.server
      toServer := by
        rw [h.toServer, List.append_assoc]
      toClient := rfl
      heard := hlt
      short := h.short }

/-- The user clicks. -/
theorem Tracks.click (h : Tracks st v inputs) (button : SessionButton) :
    Tracks (st.next ahead (.click button)) (System.next v (.click button)) inputs := by
  have hclicked : onClicked v.client button = onClicked st.window button := by
    rw [h.client]
  exact {
    stage := h.stage
    client := congrArg Prod.fst hclicked
    server := h.server
    toServer := by
      change v.toServer ++ (onClicked v.client button).2 = _
      rw [h.toServer, hclicked, List.append_assoc]
      rfl
    toClient := h.toClient
    heard := h.heard
    short := h.short }

/-- With the link at its end, what waits for its turn is with the window. -/
theorem Tracks.of_over (h : Tracks st v inputs) (hover : st.link.Over) :
    v.toServer = st.posted ∧ (v.toClient = [] ↔ st.heard = st.link.can.emitted.length) := by
  rcases h.stage.settle hover with ⟨slink, clink, books, -, -⟩
  have hserved : (st.link.can.requests.map serializeUDSMessage).drop inputs.length = [] := by
    apply List.drop_eq_nil_of_le
    rw [books.requests, List.map_nil, List.append_nil, List.length_map]
  have hlength : (rawHandler.answers {} inputs).length = st.link.can.emitted.length :=
    Nat.le_antisymm (List.drop_eq_nil_iff.1 books.unseen) books.length_answers
  refine ⟨?_, ?_⟩
  · rw [h.toServer, hserved, List.nil_append]
  · rw [h.toClient, List.drop_eq_nil_iff, hlength]
    exact ⟨fun hle => Nat.le_antisymm h.heard hle, fun heq => Nat.le_of_eq heq.symm⟩

/-- Nothing is under way exactly when the queues are empty. -/
theorem Tracks.quiet_iff (h : Tracks st v inputs) (hover : st.link.Over) :
    st.Quiet ↔ v.toServer = [] ∧ v.toClient = [] := by
  rcases h.of_over hover with ⟨hserver, hclient⟩
  rw [hserver, hclient]
  exact ⟨fun hquiet => hquiet.2, fun hempty => ⟨hover, hempty⟩⟩

end

/-! ## Along a run -/

/-- The run has come to phase `k` of its last click. -/
def At (last : Option SessionButton) (k : Nat) (st : CanTester) : Prop :=
  ∃ v inputs, Tracks st v inputs ∧ Course last k v

section

variable {ahead : WhichEnd → Nat} {last : Option SessionButton} {k : Nat} {st st₀ : CanTester}

theorem At.next (h : At last k st) {a : CanTesterAction} (hbutton : buttonOf a = none)
    (ha : st.Orderly ahead a) : ∃ k' ≤ k, At last k' (st.next ahead a) := by
  rcases h with ⟨v, inputs, htracks, hcourse⟩
  have hstep : ∀ (v' : SystemState) {inputs'}, Tracks (st.next ahead a) v' inputs' →
      (v' = v ∨ ∃ b, ¬ IsClick b ∧ v' = System.next v b) → ∃ k' ≤ k, At last k' (st.next ahead a) := by
    rintro v' inputs' htracks' (rfl | ⟨b, hb, rfl⟩)
    · exact ⟨k, Nat.le_refl k, v', inputs', htracks', hcourse⟩
    · rcases hcourse.next hb with ⟨k', hcourse', hk⟩
      exact ⟨k', Nat.le.intro hk.symm, _, inputs', htracks', hcourse'⟩
  cases a with
  | click button => cases hbutton
  | send => exact hstep v (htracks.send hcourse) (.inl rfl)
  | hear =>
      rcases @Tracks.hear ahead _ _ _ htracks with ⟨v', htracks', ⟨-, hsame⟩ | ⟨mem, hnext⟩⟩
      · exact hstep v' htracks' (.inl hsame)
      · exact hstep v' htracks' (.inr ⟨.clientStep mem, id, hnext⟩)
  | link a =>
      rcases htracks.link hcourse.requests ha.1 ha.2 with
        ⟨v', inputs', htracks', hsame | ⟨mem, env, now, latencyUs, hnext⟩⟩
      · exact hstep v' htracks' (.inl hsame)
      · exact hstep v' htracks' (.inr ⟨.serverStep mem env now latencyUs, id, hnext⟩)

theorem At.click (h : At last k st) (ahead : WhichEnd → Nat) (hquiet : st.Quiet)
    (button : SessionButton) : ∃ k', At (some button) k' (st.next ahead (.click button)) := by
  rcases h with ⟨v, inputs, htracks, hcourse⟩
  rcases (htracks.quiet_iff hquiet.1).1 hquiet with ⟨hserver, hclient⟩
  rcases hcourse.click hserver hclient button with ⟨k', hcourse'⟩
  exact ⟨k', _, inputs, htracks.click button, hcourse'⟩

theorem At.along (h : At last k st) {actions : List CanTesterAction}
    (hbuttons : ∀ a ∈ actions, buttonOf a = none)
    (horderly : (machine ahead st₀).Along (fun st a => st.Orderly ahead a) st actions) :
    ∃ k' ≤ k, At last k' ((machine ahead st₀).exec st actions) := by
  induction actions generalizing st k with
  | nil => exact ⟨k, Nat.le_refl k, h⟩
  | cons a actions ih =>
      rcases h.next (hbuttons a List.mem_cons_self) horderly.1 with ⟨j, hj, hnext⟩
      rcases ih hnext (fun b hb => hbuttons b (List.mem_cons_of_mem a hb)) horderly.2 with
        ⟨k', hk', hend⟩
      exact ⟨k', Nat.le_trans hk' hj, hend⟩

theorem at_after (hinit : At none 0 st₀) {actions : List CanTesterAction}
    (h : (machine ahead st₀).Along (fun st a => st.Orderly ahead a) st₀ actions) :
    ∃ k, At (lastButton actions) k ((machine ahead st₀).after actions) := by
  induction actions using List.reverseRecOn with
  | nil => exact ⟨0, hinit⟩
  | append_singleton actions a ih =>
      rcases (machine ahead st₀).along_snoc.1 h with ⟨hbefore, ha⟩
      rcases ih hbefore with ⟨k, hat⟩
      rw [lastButton_snoc, Machine.after_snoc]
      cases a with
      | click button => exact hat.click ahead ha button
      | send | hear | link =>
          rcases hat.next rfl ha with ⟨k', -, hnext⟩
          exact ⟨k', hnext⟩

/-! ### The way to the end -/

/-- The rest of a run that began in `st₀` comes to an end without another click. -/
def Settles (ahead : WhichEnd → Nat) (st₀ st : CanTester) : Prop :=
  ∃ actions, (∀ a ∈ actions, buttonOf a = none) ∧
    (machine ahead st₀).Along (fun st a => st.Orderly ahead a) st actions ∧
    ((machine ahead st₀).exec st actions).Quiet

theorem Settles.after {actions : List CanTesterAction} (hbuttons : ∀ a ∈ actions, buttonOf a = none)
    (horderly : (machine ahead st₀).Along (fun st a => st.Orderly ahead a) st actions)
    (h : Settles ahead st₀ ((machine ahead st₀).exec st actions)) : Settles ahead st₀ st := by
  rcases h with ⟨more, hmore, halong, hquiet⟩
  refine ⟨actions ++ more, ?_, (machine ahead st₀).along_append.2 ⟨horderly, halong⟩, ?_⟩
  · exact fun a ha => (List.mem_append.1 ha).elim (hbuttons a) (hmore a)
  · rw [Machine.exec_append]
    exact hquiet

/-- A run of the link alone. -/
theorem exec_link (st₀ : CanTester) (link₀ : CanSession) {actions : List CanSessionAction}
    (hnone : ∀ msg, .bus (.request msg) ∉ actions)
    (h : (CanSession.machine ahead link₀).Along (fun link a => link.Orderly ahead a) st.link actions) :
    (machine ahead st₀).Along (fun st a => st.Orderly ahead a) st (actions.map .link) ∧
      (machine ahead st₀).exec st (actions.map .link) =
        { st with link := (CanSession.machine ahead link₀).exec st.link actions } := by
  induction actions generalizing st with
  | nil => exact ⟨trivial, rfl⟩
  | cons a actions ih =>
      have hno : ¬ a.IsRequest := by
        intro hreq
        cases a with
        | serve | respond => exact hreq
        | bus a =>
            cases a with
            | request msg => exact hnone msg List.mem_cons_self
            | tick | respond | clientPoll | serverPoll | deliverToServer | deliverToClient
            | loseToServer | loseToClient => exact hreq
      rcases @ih (st.next ahead (.link a)) (fun msg hmem => hnone msg (List.mem_cons_of_mem a hmem)) h.2 with
        ⟨halong, hexec⟩
      exact ⟨⟨⟨hno, h.1⟩, halong⟩, hexec⟩

/-- First the link is brought to its end. -/
theorem At.settle_link (h : At last k st) (ahead : WhichEnd → Nat) (st₀ : CanTester) :
    ∃ actions link k', (∀ a ∈ actions, buttonOf a = none) ∧
      (machine ahead st₀).Along (fun st a => st.Orderly ahead a) st actions ∧
      (machine ahead st₀).exec st actions = { st with link := link } ∧ link.Over ∧ k' ≤ k ∧
      At last k' { st with link := link } := by
  have hat := h
  rcases h with ⟨v, inputs, htracks, -⟩
  rcases @CanSession.Stage.settles st₀.link st.link inputs ahead htracks.stage {} 0 0 with
    ⟨actions, horderly, hnone, hover⟩
  rcases exec_link st₀ st₀.link hnone horderly with ⟨halong, hexec⟩
  have hbuttons : ∀ a ∈ actions.map CanTesterAction.link, buttonOf a = none := by
    intro a ha
    rcases List.mem_map.1 ha with ⟨b, -, rfl⟩
    rfl
  rcases hat.along hbuttons halong with ⟨k', hk', hend⟩
  rw [hexec] at hend
  exact ⟨_, _, k', hbuttons, halong, hexec, hover, hk', hend⟩

/-- Then the next request of the window is sent, and answered before the link is at its end again. -/
theorem exists_answered {v : SystemState} {inputs : List RawRequest} (htracks : Tracks st v inputs)
    (hcourse : Course last k v) (hover : st.link.Over) {raw : QByteArray} (hserver : v.toServer = [raw])
    (ahead : WhichEnd → Nat) (st₀ : CanTester) :
    ∃ actions, (∀ a ∈ actions, buttonOf a = none) ∧
      (machine ahead st₀).Along (fun st a => st.Orderly ahead a) st actions ∧
      ∃ k' < k, At last k' ((machine ahead st₀).exec st actions) := by
  have hsent : At last k (st.next ahead .send) := ⟨v, inputs, htracks.send hcourse, hcourse⟩
  have hposted : st.posted = [raw] := (htracks.of_over hover).1.symm.trans hserver
  have hrest : (st.next ahead .send).posted = [] := by
    simp only [CanTester.next, hposted]
  rcases hsent.settle_link ahead st₀ with
    ⟨actions, link, k', hbuttons, halong, hexec, hover', hk', hat⟩
  refine ⟨.send :: actions, List.forall_mem_cons.2 ⟨rfl, hbuttons⟩, ⟨trivial, halong⟩, k', ?_, ?_⟩
  · apply Nat.lt_of_le_of_ne hk'
    rintro rfl
    rcases hat with ⟨v', inputs', htracks', hcourse'⟩
    have hserver' : v'.toServer = [] := (htracks'.of_over hover').1.trans hrest
    cases hserver.symm.trans (hcourse'.toServer_of hcourse hserver')
  · have hexec' : (machine ahead st₀).exec st (.send :: actions) =
        { st.next ahead .send with link := link } := hexec
    rw [hexec']
    exact hat

/-- Or the window hears the next answer. -/
theorem exists_heard {v : SystemState} {inputs : List RawRequest} (htracks : Tracks st v inputs)
    (hcourse : Course last k v) (hover : st.link.Over) {raw : QByteArray} (hclient : v.toClient = [raw])
    (ahead : WhichEnd → Nat) : ∃ k' < k, At last k' (st.next ahead .hear) := by
  rcases @Tracks.hear ahead _ _ _ htracks with ⟨v', htracks', ⟨hall, -⟩ | ⟨mem, rfl⟩⟩
  · rw [(htracks.of_over hover).2.2 hall] at hclient
    cases hclient
  · rcases @Course.next _ _ _ hcourse (.clientStep mem) id with ⟨k', hcourse', hk⟩
    have htaken : taken v (.clientStep mem) = some raw := congrArg List.head? hclient
    rw [htaken] at hk
    exact ⟨k', Nat.lt_of_lt_of_eq (Nat.lt_succ_self k') hk.symm, _, inputs, htracks', hcourse'⟩

/-- Every phase is left behind. -/
theorem At.settles (h : At last k st) (ahead : WhichEnd → Nat) (st₀ : CanTester) :
    Settles ahead st₀ st := by
  induction k using Nat.strongRecOn generalizing st with
  | ind k ih =>
      rcases h.settle_link ahead st₀ with ⟨actions, link, j, hbuttons, halong, hexec, hover, hj, hat⟩
      apply Settles.after hbuttons halong
      rw [hexec]
      rcases hat with ⟨v, inputs, htracks, hcourse⟩
      rcases hcourse.inFlight with ⟨raw, hserver, -⟩ | ⟨raw, -, hclient, -⟩ | ⟨hserver, hclient, -⟩
      · rcases exists_answered htracks hcourse hover hserver ahead st₀ with
          ⟨more, hmore, halong', j', hj', hat'⟩
        exact Settles.after hmore halong' (ih j' (Nat.lt_of_lt_of_le hj' hj) hat')
      · rcases exists_heard htracks hcourse hover hclient ahead with ⟨j', hj', hat'⟩
        have hone : ∀ a ∈ [CanTesterAction.hear], buttonOf a = none := List.forall_mem_singleton.2 rfl
        exact Settles.after hone ⟨trivial, trivial⟩ (ih j' (Nat.lt_of_lt_of_le hj' hj) hat')
      · exact ⟨[], fun _ hmem => absurd hmem List.not_mem_nil, trivial,
          (htracks.quiet_iff hover).2 ⟨hserver, hclient⟩⟩

end

/-! ## Every run -/

section

variable (ahead : WhichEnd → Nat) (serverBuffers : IsoTpBuffers Server.isoTpBufferSize)
  (memory : IsoTpBuffers Client.isoTpBufferSize) (now : Nat)

/-- Both programs are started, and nothing has happened. -/
def init : CanTester where
  link := { can := LossyCan.init serverBuffers memory now }

theorem at_init : At none 0 (init serverBuffers memory now) := by
  refine ⟨{}, [], ?_, .start⟩
  exact {
    stage := CanSession.stage_init serverBuffers memory now
    client := rfl
    server := rfl
    toServer := rfl
    toClient := rfl
    heard := Nat.le_refl 0
    short := fun _ hmem => absurd hmem List.not_mem_nil }

theorem At.entered {k : Nat} {st : CanTester} {button : SessionButton} (h : At (some button) k st)
    (hquiet : st.Quiet) : Entered button st.window st.link.session := by
  rcases h with ⟨v, inputs, htracks, hcourse⟩
  rcases (htracks.quiet_iff hquiet.1).1 hquiet with ⟨hserver, hclient⟩
  rw [← htracks.client, ← htracks.server]
  exact hcourse.entered hserver hclient

/-- Whatever the order in which the messages, the frames and the timers took their turns, when nothing is
under way both parties are in the session of the last button, with the access that it needs. -/
theorem buttons_enter {actions : List CanTesterAction} {button : SessionButton}
    (h : (machine ahead (init serverBuffers memory now)).Along (fun st a => st.Orderly ahead a)
      (init serverBuffers memory now) actions)
    (hlast : lastButton actions = some button) :
    let st := (machine ahead (init serverBuffers memory now)).after actions
    st.Quiet → Entered button st.window st.link.session := by
  intro st hquiet
  rcases at_after (at_init serverBuffers memory now) h with ⟨k, hat⟩
  rw [hlast] at hat
  exact hat.entered hquiet

/-- One request of the window, and the answer to it. -/
def exchange : List CanTesterAction :=
  [.send, .link (.bus .tick), .link (.bus (.deliverToServer {})),
    .link (.serve { digest := 1 } 0 0), .link (.bus .serverPoll), .link .respond,
    .link (.bus (.deliverToClient {})), .hear]

/-- The extended session, with seed and key. -/
def exBtnRun : List CanTesterAction :=
  .click .exBtn :: (exchange ++ exchange ++ exchange)

theorem buttons_enter_exBtnRun :
    let st := (machine (fun _ => 3) (init (IsoTpBuffers.zero _) (IsoTpBuffers.zero _) 0)).after exBtnRun
    Entered .exBtn st.window st.link.session := by
  intro st
  have hquiet : st.Quiet := by decide +kernel
  exact @buttons_enter (fun _ => 3) _ _ 0 exBtnRun .exBtn (by decide +kernel) rfl hquiet

/-- And nothing gets stuck: every run can be continued, without another click, until nothing is under
way. -/
theorem buttons_settle {actions : List CanTesterAction}
    (h : (machine ahead (init serverBuffers memory now)).Along (fun st a => st.Orderly ahead a)
      (init serverBuffers memory now) actions) :
    let M := machine ahead (init serverBuffers memory now)
    ∃ more, M.Along (fun st a => st.Orderly ahead a) M.init (actions ++ more) ∧
      (∀ button, .click button ∉ more) ∧ (M.after (actions ++ more)).Quiet ∧
      ∀ button ∈ lastButton actions,
        Entered button (M.after (actions ++ more)).window (M.after (actions ++ more)).link.session := by
  intro M
  rcases at_after (at_init serverBuffers memory now) h with ⟨k, hat⟩
  rcases hat.settles ahead (init serverBuffers memory now) with ⟨more, hbuttons, halong, hquiet⟩
  have hend : M.after (actions ++ more) = M.exec (M.after actions) more := M.exec_append _ _ _
  rcases hat.along hbuttons halong with ⟨k', -, hat'⟩
  refine ⟨more, M.along_append.2 ⟨h, halong⟩, fun button hmem => ?_, hend ▸ hquiet,
    fun button hbutton => ?_⟩
  · cases hbuttons _ hmem
  · rw [Option.mem_def.1 hbutton] at hat'
    rw [hend]
    exact hat'.entered hquiet

/-- The seed has been asked for. -/
theorem buttons_settle_exBtnRun :
    let M := machine (fun _ => 3) (init (IsoTpBuffers.zero _) (IsoTpBuffers.zero _) 0)
    ∃ more, (∀ button, .click button ∉ more) ∧ (M.after (exBtnRun.take 4 ++ more)).Quiet ∧
      Entered .exBtn (M.after (exBtnRun.take 4 ++ more)).window
        (M.after (exBtnRun.take 4 ++ more)).link.session := by
  intro M
  have horderly : M.Along (fun st a => st.Orderly (fun _ => 3) a) M.init (exBtnRun.take 4) := by
    decide +kernel
  rcases @buttons_settle (fun _ => 3) _ _ 0 (exBtnRun.take 4) horderly with
    ⟨more, -, hbuttons, hquiet, hentered⟩
  exact ⟨more, hbuttons, hquiet, hentered .exBtn rfl⟩

end

end CanTester

end System
end TcpCanUds
