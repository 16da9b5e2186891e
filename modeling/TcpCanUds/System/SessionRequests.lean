import TcpCanUds.System.Unlocking

/-!
# SessionRequests — what a click on a session button leads to

A response can make the client send a request, and every request is answered, so client and server could
go on with each other for ever.  They do not: a click is worth six messages at the most, and when they have
been taken the server is in the session that was asked for.
-/

namespace TcpCanUds
namespace System

open Lib Client Server UdsHandler UdsWorker

/-! ## The messages a message can lead to -/

/-- A request, the response to it, and so on: seed, key and session are asked for one after the
other. -/
def requestWeight (raw : QByteArray) : Nat :=
  if raw.byteAt 0 = 0x27 ∧ raw.byteAt 1 = 0x01 then 6
  else if raw.byteAt 0 = 0x27 ∧ raw.byteAt 1 = 0x02 then 4
  else 2

def responseWeight (raw : QByteArray) : Nat :=
  if raw.byteAt 0 = 0x67 ∧ raw.byteAt 1 = 0x01 then 5
  else if raw.byteAt 0 = 0x67 ∧ raw.byteAt 1 = 0x02 then 3
  else 1

theorem two_le_requestWeight (raw : QByteArray) : 2 ≤ requestWeight raw := by
  rw [requestWeight]
  split_ifs <;> decide

theorem one_le_responseWeight (raw : QByteArray) : 1 ≤ responseWeight raw := by
  rw [responseWeight]
  split_ifs <;> decide

theorem requestWeight_seed {raw : QByteArray} (hsid : raw.byteAt 0 = 0x27) (hsub : raw.byteAt 1 = 0x01) :
    requestWeight raw = 6 :=
  if_pos ⟨hsid, hsub⟩

theorem requestWeight_key {raw : QByteArray} (hsid : raw.byteAt 0 = 0x27) (hsub : raw.byteAt 1 = 0x02) :
    requestWeight raw = 4 := by
  have hnot : ¬ (raw.byteAt 0 = 0x27 ∧ raw.byteAt 1 = 0x01) := fun hboth =>
    absurd (hsub.symm.trans hboth.2) (by decide)
  rw [requestWeight, if_neg hnot, if_pos ⟨hsid, hsub⟩]

theorem responseWeight_seed {raw : QByteArray} (hsid : raw.byteAt 0 = 0x67) (hsub : raw.byteAt 1 = 0x01) :
    responseWeight raw = 5 :=
  if_pos ⟨hsid, hsub⟩

theorem responseWeight_key {raw : QByteArray} (hsid : raw.byteAt 0 = 0x67) (hsub : raw.byteAt 1 = 0x02) :
    responseWeight raw = 3 := by
  have hnot : ¬ (raw.byteAt 0 = 0x67 ∧ raw.byteAt 1 = 0x01) := fun hboth =>
    absurd (hsub.symm.trans hboth.2) (by decide)
  rw [responseWeight, if_neg hnot, if_pos ⟨hsid, hsub⟩]

theorem responseWeight_other {raw : QByteArray}
    (h : raw.byteAt 0 ≠ 0x67 ∨ raw.byteAt 1 ≠ 0x01 ∧ raw.byteAt 1 ≠ 0x02) : responseWeight raw = 1 := by
  have hnot : ∀ sub, sub = 0x01 ∨ sub = 0x02 → ¬ (raw.byteAt 0 = 0x67 ∧ raw.byteAt 1 = sub) := by
    rintro sub (rfl | rfl) hboth
    · exact h.elim (fun hne => hne hboth.1) fun hne => hne.1 hboth.2
    · exact h.elim (fun hne => hne hboth.1) fun hne => hne.2 hboth.2
  rw [responseWeight, if_neg (hnot _ (.inl rfl)), if_neg (hnot _ (.inr rfl))]

/-- Answering a request takes one message off. -/
theorem weight_of_answers {env : HandlerEnv} {s s' : SessionState} {req r : UDSMessage}
    (h : Answers env s req s' r) {raw : QByteArray} (hsid : req.serviceId = raw.byteAt 0)
    (hsub : req.subFunction = raw.byteAt 1) :
    responseWeight (serializeUDSMessage r) + 1 ≤ requestWeight raw := by
  have hother : r.serviceId ≠ 0x67 ∨ r.subFunction ≠ 0x01 ∧ r.subFunction ≠ 0x02 →
      responseWeight (serializeUDSMessage r) + 1 ≤ requestWeight raw := by
    intro hne
    rw [@responseWeight_other (serializeUDSMessage r) hne]
    exact two_le_requestWeight raw
  cases h with
  | seed hreq hodd =>
      by_cases hone : req.subFunction = 0x01
      · rw [requestWeight_seed (hsid ▸ hreq) (hsub ▸ hone)]
        exact Nat.succ_le_succ (Nat.le_of_eq (@responseWeight_seed (serializeUDSMessage _) rfl hone))
      · have htwo : req.subFunction ≠ 0x02 := by
          intro heq
          rw [heq] at hodd
          exact absurd hodd (by decide)
        exact hother (.inr ⟨hone, htwo⟩)
  | key hreq heven =>
      have hone : req.subFunction ≠ 0x01 := by
        intro heq
        rw [heq] at heven
        exact heven (by decide)
      by_cases htwo : req.subFunction = 0x02
      · rw [requestWeight_key (hsid ▸ hreq) (hsub ▸ htwo)]
        exact Nat.succ_le_succ (Nat.le_of_eq (@responseWeight_key (serializeUDSMessage _) rfl htwo))
      · exact hother (.inr ⟨hone, htwo⟩)
  | defaultSession | unlockedSession | read | tester | reset | refused =>
      refine hother (.inl fun heq => ?_)
      simp at heq

section

variable {server : SessionState} {raw : QByteArray}

/-- What the server makes of a request. -/
theorem serve_weight (server : SessionState) (hraw : 2 ≤ raw.length) (mem : UDSMessage.Memory)
    (env : HandlerEnv) (now latencyUs : Int64) :
    ∃ out, ((serve server raw mem env now latencyUs).2.toList.map fun reply =>
        serializeUDSMessage reply.response) = [out] ∧ 2 ≤ out.length ∧
      responseWeight out + 1 ≤ requestWeight raw := by
  let i : WorkerInput :=
    { source := .tcp clientId, env, now, latencyUs, msg := Server.deserializeUDSMessage mem raw }
  rcases worker_replies server i with ⟨reply, hsome, hresp⟩
  have hbytes : serializeUDSMessage reply.response =
      serializeUDSMessage (processRequest i.env server i.msg).2 := by
    rw [hresp]
    rfl
  rcases Server.deserialize_fields mem hraw with ⟨hsid, hsub, -⟩
  have hserve : serve server raw mem env now latencyUs = worker.step server i := rfl
  refine ⟨serializeUDSMessage reply.response, ?_, two_le_length_serialize _, ?_⟩
  · rw [hserve, hsome]
    rfl
  · rw [hbytes]
    exact weight_of_answers (worker_answers server i) hsid hsub

/-- The client takes the fields of a positive response from its bytes. -/
theorem fields_of_positive {mem : UDSMessage.Memory} (hraw : 2 ≤ raw.length)
    (hpos : (Client.deserializeUDSMessage mem raw).isNegativeResponse ≠ true) :
    (Client.deserializeUDSMessage mem raw).serviceId = raw.byteAt 0 ∧
      (Client.deserializeUDSMessage mem raw).subFunction = raw.byteAt 1 := by
  by_cases hneg : raw.byteAt 0 = UdsSid.negativeResponse
  · exact absurd (Client.deserialize_negative mem hraw hneg).1 hpos
  · rcases Client.deserialize_fields mem hraw hneg with ⟨hsid, hsub, -⟩
    exact ⟨hsid, hsub⟩

theorem weight_startPending (client : ClientState)
    (hcompleted : client.m_securityAccessCompleted = true) :
    ((startPending client).2.map requestWeight).sum ≤ 2 := by
  have henter : ∀ sub op, sub ≠ 0x01 → ((enterSession client sub op).2.map requestWeight).sum ≤ 2 := by
    intro sub op hsub
    have hneed : ¬ ((sub = 0x03 ∨ sub = 0x02) ∧ ¬ client.m_securityAccessCompleted = true) :=
      fun hboth => hboth.2 hcompleted
    simp only [enterSession, if_neg hneed]
    rfl
  rw [startPending]
  cases client.m_pendingOperation with
  | noOperation | readData | otherOperation => exact Nat.zero_le 2
  | enterExtendedSession => exact henter 0x03 .enterExtendedSession (by decide)
  | enterProgrammingSession => exact henter 0x02 .enterProgrammingSession (by decide)

/-- What the client makes of a response. -/
theorem reaction_weight (client : ClientState) (hraw : 2 ≤ raw.length) (mem : UDSMessage.Memory) :
    ((onUdsMessageReceived client (Client.deserializeUDSMessage mem raw)).2.map requestWeight).sum + 1 ≤
      responseWeight raw := by
  have hnone : (([] : List QByteArray).map requestWeight).sum + 1 ≤ responseWeight raw :=
    one_le_responseWeight raw
  rw [Client.onUdsMessageReceived]
  split_ifs with hzero hneg hseed hkey
  · exact hnone
  · exact hnone
  · rcases fields_of_positive hraw hneg with ⟨hsid, hsub⟩
    rw [responseWeight_seed (hsid ▸ hseed.1) (hsub ▸ hseed.2)]
    exact Nat.le_refl 5
  · rcases fields_of_positive hraw hneg with ⟨hsid, hsub⟩
    rw [responseWeight_key (hsid ▸ hkey.1) (hsub ▸ hkey.2)]
    exact Nat.succ_le_succ (weight_startPending _ rfl)
  · exact hnone

end

/-! ## Whole runs -/

/-- The message that an action takes from its queue. -/
def taken (st : SystemState) : Action → Option QByteArray
  | .click _ => none
  | .serverStep .. => st.toServer.head?
  | .clientStep _ => st.toClient.head?

/-- The messages that are taken from `st` on. -/
def deliveries (st : SystemState) (run : List Action) : List QByteArray :=
  system.watch taken st run

/-- The messages that those in flight can still lead to, themselves included. -/
def owed (st : SystemState) : Nat :=
  (st.toServer.map requestWeight).sum + (st.toClient.map responseWeight).sum

def clickGain : Action → Nat
  | .click _ => 6
  | .serverStep .. | .clientStep _ => 0

/-- Every message in flight has its two first bytes. -/
structure Messages (st : SystemState) : Prop where
  requests : ∀ raw ∈ st.toServer, 2 ≤ raw.length
  responses : ∀ raw ∈ st.toClient, 2 ≤ raw.length

theorem weight_onClicked (client : ClientState) (button : SessionButton) :
    ((onClicked client button).2.map requestWeight).sum ≤ 6 := by
  have henter : ∀ sub op, ((enterSession client sub op).2.map requestWeight).sum ≤ 6 := by
    intro sub op
    rw [enterSession]
    split_ifs
    · exact Nat.le_refl 6
    · exact (by decide : 2 ≤ 6)
    · exact (by decide : 2 ≤ 6)
  cases button <;> exact henter _ _

theorem Messages.next {st : SystemState} (h : Messages st) (a : Action) :
    Messages (next st a) ∧
      (taken st a).toList.length + owed (System.next st a) ≤ owed st + clickGain a := by
  rcases st with ⟨client, server, toServer, toClient⟩
  -- each step is paid by what it takes: a click adds its six, a message taken weighs more than its answers
  cases a with
  | click button =>
      refine ⟨⟨fun raw hraw => ?_, h.responses⟩, ?_⟩
      · rcases List.mem_append.1 hraw with hold | hnew
        · exact h.requests raw hold
        · exact onClicked_length hnew
      · have hweight := weight_onClicked client button
        simp only [taken, owed, clickGain, System.next, Option.toList_none, List.length_nil,
          List.map_append, List.sum_append]
        omega
  | serverStep mem env now latencyUs =>
      cases toServer with
      | nil => exact ⟨h, Nat.le_of_eq (Nat.zero_add _)⟩
      | cons raw rest =>
          rcases serve_weight server (h.requests raw List.mem_cons_self) mem env now latencyUs with
            ⟨out, hout, hlen, hweight⟩
          simp only [System.next, hout]
          refine ⟨⟨fun m hm => h.requests m (List.mem_cons_of_mem _ hm), fun m hm => ?_⟩, ?_⟩
          · rcases List.mem_append.1 hm with hold | hnew
            · exact h.responses m hold
            · rw [List.mem_singleton.1 hnew]
              exact hlen
          · simp only [taken, owed, clickGain, List.head?_cons, Option.toList_some, List.length_singleton,
              List.map_append, List.map_cons, List.map_nil, List.sum_append, List.sum_cons, List.sum_nil]
            omega
  | clientStep mem =>
      cases toClient with
      | nil => exact ⟨h, Nat.le_of_eq (Nat.zero_add _)⟩
      | cons raw rest =>
          have hweight := reaction_weight client (h.responses raw List.mem_cons_self) mem
          refine ⟨⟨fun m hm => ?_, fun m hm => h.responses m (List.mem_cons_of_mem _ hm)⟩, ?_⟩
          · rcases List.mem_append.1 hm with hold | hnew
            · exact h.requests m hold
            · exact (onUdsMessageReceived_sends hnew).1
          · simp only [taken, owed, clickGain, System.next, List.head?_cons, Option.toList_some,
              List.length_singleton, List.map_append, List.map_cons, List.sum_append, List.sum_cons]
            omega

theorem messages_after (run : List Action) : Messages (system.after run) :=
  system.after_invariant ⟨fun _ h => (by cases h), fun _ h => (by cases h)⟩
    (fun _ a h => (h.next a).1) run

/-- However the actions of a run are ordered, what is taken in it and what is still to come is no more
than what was in flight at its beginning can lead to, and six messages for each of its clicks. -/
theorem deliveries_le {st : SystemState} (h : Messages st) (run : List Action) :
    (deliveries st run).length + owed (system.exec st run) ≤ owed st + (run.map clickGain).sum :=
  system.watch_add_potential_le (I := Messages) (V := owed) (f := taken)
    (fun _ a h => (h.next a).1) (fun _ a h => (h.next a).2) h run

/-- The seed is in flight: five more messages without another click. -/
theorem deliveries_le_seedSent :
    let st := system.after (unlockRun.take 2)
    let run := unlockRun.drop 2
    (deliveries st run).length + owed (system.exec st run) ≤ 5 := by
  intro st run
  have howed : owed st + (run.map clickGain).sum = 5 := by decide
  exact (deliveries_le (messages_after (unlockRun.take 2)) run).trans (Nat.le_of_eq howed)

/-! ## One click -/

def subFunctionOf : SessionButton → UInt8
  | .exBtn => 0x03
  | .defaultBtn => 0x01
  | .codeBtn => 0x02

def operationOf : SessionButton → PendingOperationType
  | .exBtn => .enterExtendedSession
  | .defaultBtn => .otherOperation
  | .codeBtn => .enterProgrammingSession

/-- Both parties are in the session of the button, with the access that it needs, and nothing is left to
do. -/
structure Entered (button : SessionButton) (client : ClientState) (server : SessionState) : Prop where
  session : server.currentSession = subFunctionOf button
  authenticated : server.isAuthenticated = true ↔ button ≠ .defaultBtn
  shown : client.m_currentSession = sessionTypeOf (subFunctionOf button)
  completed : client.m_securityAccessCompleted = true ↔ button ≠ .defaultBtn
  waiting : client.m_waitingForSecurityAccess = false
  pending : client.m_pendingOperation = .noOperation

/-- The client waits for its access, to switch the session then. -/
structure Asks (button : SessionButton) (client : ClientState) : Prop where
  unlocks : button ≠ .defaultBtn
  pending : client.m_pendingOperation = operationOf button

/-- The client has asked for the session, and the server has what it needs to grant it. -/
structure Switches (button : SessionButton) (client : ClientState) : Prop where
  shown : client.m_currentSession = sessionTypeOf (subFunctionOf button)
  completed : client.m_securityAccessCompleted = true ↔ button ≠ .defaultBtn
  waiting : client.m_waitingForSecurityAccess = false
  pending : client.m_pendingOperation = .noOperation

/-- The only message in flight behind a click, and how many more there will be. -/
inductive Phase (button : SessionButton) : Nat → SystemState → Prop
  | seedAsked {client : ClientState} {server : SessionState} (h : Asks button client) :
      Phase button 6 ⟨client, server, [requestSecurityAccess], []⟩
  | seedSent {client : ClientState} {server : SessionState} (h : Asks button client) :
      Phase button 5 ⟨client, server, [], [0x67 :: 0x01 :: bytes32 server.seed]⟩
  | keySent {client : ClientState} {server : SessionState} (h : Asks button client) :
      Phase button 4 ⟨client, server, [sendSecurityKey (calculateKeyFromSeed (bytes32 server.seed))], []⟩
  | keyTaken {client : ClientState} {server : SessionState} {raw : QByteArray} (h : Asks button client)
      (hauth : server.isAuthenticated = true) (hlen : 2 ≤ raw.length) (hkey : IsKeyResponse raw) :
      Phase button 3 ⟨client, server, [], [raw]⟩
  | sessionAsked {client : ClientState} {server : SessionState} (h : Switches button client)
      (hauth : button ≠ .defaultBtn → server.isAuthenticated = true) :
      Phase button 2
        ⟨client, server, [request UdsSid.diagnosticSessionControl (subFunctionOf button) []], []⟩
  | sessionSent {client : ClientState} {server : SessionState} {raw : QByteArray}
      (h : Entered button client server) (hlen : 2 ≤ raw.length) (hother : raw.byteAt 0 = 0x50) :
      Phase button 1 ⟨client, server, [], [raw]⟩
  | entered {client : ClientState} {server : SessionState} (h : Entered button client server) :
      Phase button 0 ⟨client, server, [], []⟩

section

variable {button : SessionButton} {client : ClientState} {server : SessionState}

theorem onClicked_eq (client : ClientState) (button : SessionButton) :
    onClicked client button = enterSession client (subFunctionOf button) (operationOf button) := by
  cases button <;> rfl

/-- Without the access a session that needs it is not asked for. -/
theorem enterSession_locked (hbutton : button ≠ .defaultBtn)
    (hlocked : client.m_securityAccessCompleted ≠ true) (op : PendingOperationType) :
    enterSession client (subFunctionOf button) op =
      ({ client with m_pendingOperation := op, m_waitingForSecurityAccess := true },
        [requestSecurityAccess]) := by
  have hsub : subFunctionOf button = 0x03 ∨ subFunctionOf button = 0x02 := by
    cases button with
    | exBtn => exact .inl rfl
    | codeBtn => exact .inr rfl
    | defaultBtn => exact absurd rfl hbutton
  simp only [enterSession, if_pos (And.intro hsub hlocked)]

/-- With it the session is. -/
theorem enterSession_unlocked
    (hopen : button ≠ .defaultBtn → client.m_securityAccessCompleted = true)
    (hwaiting : button ≠ .defaultBtn → client.m_waitingForSecurityAccess = false)
    (op : PendingOperationType) :
    Switches button (enterSession client (subFunctionOf button) op).1 ∧
      (enterSession client (subFunctionOf button) op).2 =
        [request UdsSid.diagnosticSessionControl (subFunctionOf button) []] := by
  have hneed : ¬ ((subFunctionOf button = 0x03 ∨ subFunctionOf button = 0x02) ∧
      ¬ client.m_securityAccessCompleted = true) := by
    rintro ⟨hsub, hlocked⟩
    cases button with
    | exBtn | codeBtn => exact hlocked (hopen (by decide))
    | defaultBtn => exact absurd hsub (by decide)
  simp only [enterSession, if_neg hneed]
  cases button with
  | exBtn | codeBtn =>
      exact ⟨⟨rfl, iff_of_true (hopen (by decide)) (by decide), hwaiting (by decide), rfl⟩, trivial⟩
  | defaultBtn => exact ⟨⟨rfl, iff_of_false Bool.false_ne_true (not_not.2 rfl), rfl, rfl⟩, trivial⟩

/-- The click. -/
theorem phase_click (hauth : client.m_securityAccessCompleted = true → server.isAuthenticated = true)
    (hwaiting : client.m_securityAccessCompleted = true → client.m_waitingForSecurityAccess = false) :
    ∃ k ≤ 6, Phase button k (System.next ⟨client, server, [], []⟩ (.click button)) := by
  simp only [System.next, onClicked_eq, List.nil_append]
  by_cases hlocked : button ≠ .defaultBtn ∧ client.m_securityAccessCompleted ≠ true
  · rw [enterSession_locked hlocked.1 hlocked.2]
    exact ⟨6, Nat.le_refl 6, .seedAsked ⟨hlocked.1, rfl⟩⟩
  · have hopen : button ≠ .defaultBtn → client.m_securityAccessCompleted = true := fun hbutton =>
      not_not.1 fun hclosed => hlocked ⟨hbutton, hclosed⟩
    rcases enterSession_unlocked hopen (fun hbutton => hwaiting (hopen hbutton)) (operationOf button) with
      ⟨hswitches, hsends⟩
    rw [hsends]
    exact ⟨2, by decide, .sessionAsked hswitches fun hbutton => hauth (hopen hbutton)⟩

/-- The server draws a seed and sends it. -/
theorem serve_seed (server : SessionState) (mem : UDSMessage.Memory) (env : HandlerEnv)
    (now latencyUs : Int64) :
    let r := serve server requestSecurityAccess mem env now latencyUs
    r.2.toList.map (fun reply => serializeUDSMessage reply.response) =
      [0x67 :: 0x01 :: bytes32 r.1.seed] := by
  have hlen : 2 ≤ requestSecurityAccess.length := two_le_length_request _ _ _
  rcases Server.deserialize_fields mem hlen with ⟨hsid, hsub, -⟩
  let i : WorkerInput :=
    { source := .tcp clientId, env, now, latencyUs
      msg := Server.deserializeUDSMessage mem requestSecurityAccess }
  rcases @worker_seed server i hsid hsub with ⟨hseed, reply, hreply, hbytes⟩
  intro r
  have hr : r = worker.step server i := rfl
  rw [hr, hreply, hseed]
  exact congrArg (fun raw => [raw]) hbytes

/-- It takes the key of its seed. -/
theorem serve_key (server : SessionState) (mem : UDSMessage.Memory) (env : HandlerEnv)
    (now latencyUs : Int64) :
    let r := serve server (sendSecurityKey (calculateKeyFromSeed (bytes32 server.seed))) mem env now
      latencyUs
    r.1.isAuthenticated = true ∧ ∃ raw, r.2.toList.map (fun reply => serializeUDSMessage reply.response) =
      [raw] ∧ 2 ≤ raw.length ∧ IsKeyResponse raw := by
  have hlen : 2 ≤ (sendSecurityKey (calculateKeyFromSeed (bytes32 server.seed))).length :=
    two_le_length_request _ _ _
  rcases Server.deserialize_fields mem hlen with ⟨-, hsub, -⟩
  have htaken := @keyTaken_of_carriesKey server
    { source := .tcp clientId, env, now, latencyUs
      msg := Server.deserializeUDSMessage mem
        (sendSecurityKey (calculateKeyFromSeed (bytes32 server.seed))) }
    (carriesKey_sendSecurityKey mem server.seed) hsub
  rcases htaken.answer with ⟨reply, hreply, hkey⟩
  intro r
  refine ⟨htaken.authenticated, serializeUDSMessage reply.response, ?_, two_le_length_serialize _, hkey⟩
  change (worker.step server _).2.toList.map _ = _
  rw [hreply]
  rfl

/-- It switches the session, with the authentication that the session needs. -/
theorem serve_session (server : SessionState) (mem : UDSMessage.Memory) (env : HandlerEnv)
    (now latencyUs : Int64) (hauth : button ≠ .defaultBtn → server.isAuthenticated = true) :
    let r := serve server (request UdsSid.diagnosticSessionControl (subFunctionOf button) []) mem env now
      latencyUs
    r.1.currentSession = subFunctionOf button ∧ (r.1.isAuthenticated = true ↔ button ≠ .defaultBtn) ∧
      ∃ raw, r.2.toList.map (fun reply => serializeUDSMessage reply.response) = [raw] ∧
        2 ≤ raw.length ∧ raw.byteAt 0 = 0x50 := by
  have hlen : 2 ≤ (request UdsSid.diagnosticSessionControl (subFunctionOf button) []).length :=
    two_le_length_request _ _ _
  rcases Server.deserialize_fields mem hlen with ⟨hsid, hsub, -⟩
  let i : WorkerInput :=
    { source := .tcp clientId, env, now, latencyUs
      msg := Server.deserializeUDSMessage mem
        (request UdsSid.diagnosticSessionControl (subFunctionOf button) []) }
  -- a session control is never refused in a session, so its handler answers
  have hprocess : processRequest i.env server i.msg =
      handleDiagnosticSessionControl i.env server i.msg := by
    have hsid' : i.msg.serviceId = UdsSid.diagnosticSessionControl := hsid
    simp [processRequest, refusedInSession, hsid']
  have hsub' : i.msg.subFunction = subFunctionOf button := hsub
  rcases worker_replies server i with ⟨reply, hreply, hresp⟩
  have hbytes : (serializeUDSMessage reply.response).byteAt 0 =
      (handleDiagnosticSessionControl i.env server i.msg).2.serviceId := by
    rw [hresp, processUdsRequest, hprocess]
    rfl
  have hstate : (worker.step server i).1 = (handleDiagnosticSessionControl i.env server i.msg).1 := by
    rw [worker_step_fst, hprocess]
  intro r
  have hr : r = worker.step server i := rfl
  have hout : r.2.toList.map (fun reply => serializeUDSMessage reply.response) =
      [serializeUDSMessage reply.response] := by
    rw [hr, hreply]
    rfl
  rw [hout, hr, hstate]
  -- the default session takes the authentication away, the two others need it
  cases button with
  | defaultBtn =>
      have hdefault : i.msg.subFunction = DiagnosticSession.defaultSession := hsub'
      rw [handleDiagnosticSessionControl, if_pos hdefault] at hbytes ⊢
      exact ⟨rfl, iff_of_false Bool.false_ne_true (not_not.2 rfl), _, rfl, two_le_length_serialize _,
        hbytes⟩
  | codeBtn | exBtn =>
      have hopen : server.isAuthenticated = true := hauth (by decide)
      simp only [handleDiagnosticSessionControl, hsub', subFunctionOf, hopen] at hbytes ⊢
      exact ⟨rfl, iff_of_true rfl (by decide), _, rfl, two_le_length_serialize _, hbytes⟩

/-- The client answers the seed with its key. -/
theorem onUdsMessageReceived_seed (client : ClientState) (mem : UDSMessage.Memory) (seed : UInt32) :
    Client.onUdsMessageReceived client
        (Client.deserializeUDSMessage mem (0x67 :: 0x01 :: bytes32 seed)) =
      (client, [sendSecurityKey (calculateKeyFromSeed (bytes32 seed))]) := by
  have hlen : 2 ≤ (0x67 :: 0x01 :: bytes32 seed : QByteArray).length := Nat.le_add_left 2 4
  have hpos : (0x67 : UInt8) ≠ UdsSid.negativeResponse := by decide
  rcases Client.deserialize_fields mem hlen hpos with ⟨hsid, hsub, hpay, hneg⟩
  change _ = (0x67 : UInt8) at hsid
  rw [Client.onUdsMessageReceived, if_neg (by rw [hsid]; decide), if_neg (by rw [hneg]; decide),
    if_pos ⟨hsid, hsub⟩, hpay]
  rfl

/-- With its access the client goes on to the session. -/
theorem onUdsMessageReceived_key (h : Asks button client) {raw : QByteArray} (hlen : 2 ≤ raw.length)
    (hkey : IsKeyResponse raw) (mem : UDSMessage.Memory) :
    Switches button (Client.onUdsMessageReceived client (Client.deserializeUDSMessage mem raw)).1 ∧
      (Client.onUdsMessageReceived client (Client.deserializeUDSMessage mem raw)).2 =
        [request UdsSid.diagnosticSessionControl (subFunctionOf button) []] := by
  have hpos : raw.byteAt 0 ≠ UdsSid.negativeResponse := by
    rw [hkey.1]
    decide
  rcases Client.deserialize_fields mem hlen hpos with ⟨hsid, hsub, -, hneg⟩
  rw [hkey.1] at hsid
  rw [hkey.2] at hsub
  let opened : ClientState :=
    { client with m_securityAccessCompleted := true, m_waitingForSecurityAccess := false }
  have hstart : Client.onUdsMessageReceived client (Client.deserializeUDSMessage mem raw) =
      startPending opened := by
    rw [Client.onUdsMessageReceived, if_neg (by rw [hsid]; decide), if_neg (by rw [hneg]; decide),
      if_neg (by rw [hsub]; exact fun hboth => absurd hboth.2 (by decide)), if_pos ⟨hsid, hsub⟩]
  rw [hstart]
  have hpending : opened.m_pendingOperation = operationOf button := h.pending
  have hentered := @enterSession_unlocked button opened (fun _ => rfl) (fun _ => rfl)
  have hunlocks := h.unlocks
  cases button with
  | exBtn =>
      rcases hentered .enterExtendedSession with ⟨hswitches, hsends⟩
      rw [startPending, hpending]
      exact ⟨{ hswitches with pending := rfl }, hsends⟩
  | codeBtn =>
      rcases hentered .enterProgrammingSession with ⟨hswitches, hsends⟩
      rw [startPending, hpending]
      exact ⟨{ hswitches with pending := rfl }, hsends⟩
  | defaultBtn => exact absurd rfl hunlocks

/-- The response to a session is only shown. -/
theorem onUdsMessageReceived_session (client : ClientState) {raw : QByteArray} (hlen : 2 ≤ raw.length)
    (hother : raw.byteAt 0 = 0x50) (mem : UDSMessage.Memory) :
    Client.onUdsMessageReceived client (Client.deserializeUDSMessage mem raw) = (client, []) := by
  have hpos : raw.byteAt 0 ≠ UdsSid.negativeResponse := by
    rw [hother]
    decide
  rcases Client.deserialize_fields mem hlen hpos with ⟨hsid, -, -, hneg⟩
  rw [hother] at hsid
  rw [Client.onUdsMessageReceived, if_neg (by rw [hsid]; decide), if_neg (by rw [hneg]; decide),
    if_neg (by rw [hsid]; exact fun hboth => absurd hboth.1 (by decide)),
    if_neg (by rw [hsid]; exact fun hboth => absurd hboth.1 (by decide))]

def IsClick : Action → Prop
  | .click _ => True
  | .serverStep .. | .clientStep _ => False

/-- Every message that is taken leads one phase on; the party whose turn it is not does nothing. -/
theorem Phase.next {k : Nat} {st : SystemState} (h : Phase button k st) {a : Action} (ha : ¬ IsClick a) :
    ∃ k', Phase button k' (System.next st a) ∧ k = k' + (taken st a).toList.length := by
  cases a with
  | click => exact absurd trivial ha
  | serverStep mem env now latencyUs =>
      -- the server has a turn while a request is in flight
      cases h with
      | @seedAsked client server hasks =>
          simp only [System.next, serve_seed, List.nil_append]
          exact ⟨5, .seedSent hasks, rfl⟩
      | @keySent client server hasks =>
          rcases serve_key server mem env now latencyUs with ⟨hauth, raw, hraw, hlen, hkey⟩
          simp only [System.next, hraw, List.nil_append]
          exact ⟨3, .keyTaken hasks hauth hlen hkey, rfl⟩
      | @sessionAsked client server hswitches hauth =>
          rcases serve_session server mem env now latencyUs hauth with
            ⟨hsession, hauth', raw, hraw, hlen, hother⟩
          simp only [System.next, hraw, List.nil_append]
          refine ⟨1, .sessionSent ?_ hlen hother, rfl⟩
          exact {
            session := hsession
            authenticated := hauth'
            shown := hswitches.shown
            completed := hswitches.completed
            waiting := hswitches.waiting
            pending := hswitches.pending }
      | seedSent hasks => exact ⟨5, .seedSent hasks, rfl⟩
      | keyTaken hasks hauth hlen hkey => exact ⟨3, .keyTaken hasks hauth hlen hkey, rfl⟩
      | sessionSent hentered hlen hother => exact ⟨1, .sessionSent hentered hlen hother, rfl⟩
      | entered hentered => exact ⟨0, .entered hentered, rfl⟩
  | clientStep mem =>
      -- and the client while a response is
      cases h with
      | @seedSent client server hasks =>
          simp only [System.next, onUdsMessageReceived_seed, List.nil_append]
          exact ⟨4, .keySent hasks, rfl⟩
      | @keyTaken client server raw hasks hauth hlen hkey =>
          rcases onUdsMessageReceived_key hasks hlen hkey mem with ⟨hswitches, hsends⟩
          simp only [System.next, hsends, List.nil_append]
          exact ⟨2, .sessionAsked hswitches fun _ => hauth, rfl⟩
      | @sessionSent client server raw hentered hlen hother =>
          simp only [System.next, onUdsMessageReceived_session client hlen hother mem, List.nil_append]
          exact ⟨0, .entered hentered, rfl⟩
      | seedAsked hasks => exact ⟨6, .seedAsked hasks, rfl⟩
      | keySent hasks => exact ⟨4, .keySent hasks, rfl⟩
      | sessionAsked hswitches hauth => exact ⟨2, .sessionAsked hswitches hauth, rfl⟩
      | entered hentered => exact ⟨0, .entered hentered, rfl⟩

theorem Phase.run {k : Nat} {st : SystemState} (h : Phase button k st) {run : List Action}
    (hrun : ∀ a ∈ run, ¬ IsClick a) :
    ∃ k', Phase button k' (system.exec st run) ∧ k = k' + (deliveries st run).length := by
  induction run generalizing k st with
  | nil => exact ⟨k, h, rfl⟩
  | cons a run ih =>
      rcases h.next (hrun a List.mem_cons_self) with ⟨j, hj, hk⟩
      rcases ih hj fun b hb => hrun b (List.mem_cons_of_mem a hb) with ⟨k', hk', hrest⟩
      refine ⟨k', hk', ?_⟩
      have hsplit : deliveries st (a :: run) =
          (taken st a).toList ++ deliveries (System.next st a) run := rfl
      rw [hk, hrest, hsplit, List.length_append]
      omega

end

/-! ## The client between clicks -/

/-- A client with its access does not wait for it. -/
def NotWaiting (client : ClientState) : Prop :=
  client.m_securityAccessCompleted = true → client.m_waitingForSecurityAccess = false

theorem NotWaiting.enterSession {client : ClientState} (h : NotWaiting client) (sub : UInt8)
    (op : PendingOperationType) : NotWaiting (enterSession client sub op).1 := by
  rw [Client.enterSession]
  split_ifs with hneed hdefault
  · exact fun hcompleted => absurd hcompleted hneed.2
  · exact fun _ => rfl
  · exact h

theorem NotWaiting.startPending {client : ClientState} (h : NotWaiting client) :
    NotWaiting (startPending client).1 := by
  rw [Client.startPending]
  cases client.m_pendingOperation with
  | noOperation | readData | otherOperation => exact h
  | enterExtendedSession => exact h.enterSession 0x03 .enterExtendedSession
  | enterProgrammingSession => exact h.enterSession 0x02 .enterProgrammingSession

theorem NotWaiting.onUdsMessageReceived {client : ClientState} (h : NotWaiting client) (msg : UDSMessage) :
    NotWaiting (Client.onUdsMessageReceived client msg).1 := by
  rw [Client.onUdsMessageReceived]
  split_ifs
  · exact h
  · exact h
  · exact h
  · exact NotWaiting.startPending fun _ => rfl
  · exact h

end System
end TcpCanUds
