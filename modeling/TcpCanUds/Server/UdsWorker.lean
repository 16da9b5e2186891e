import TcpCanUds.Server.SessionSecurity

/-!
# UdsWorker — one worker for all testers (`core/uds_worker.cpp`)

The worker takes the requests of every TCP client and of the CAN tester, answers them with its one
`UDS_handler` and sends each response back to where the request came from.  The machine of this
module runs over any interleaving of the sources; the session state is shared by all of them.
-/

namespace TcpCanUds
namespace Server

open Lib UdsHandler

/-! ## The worker -/

/-- Where a request came from: a TCP client or the CAN bus. -/
inductive Source
  | tcp (clientId : Int)
  | can
  deriving DecidableEq, Repr

def Source.channel : Source → String
  | .tcp _ => "TCP"
  | .can => "CAN"

def Source.loggedClientId : Source → Int
  | .tcp clientId => clientId
  | .can => -1

/-- The arguments of `DB_logger::logUdsTransaction`. -/
structure UdsTransaction where
  channel : String
  clientId : Int
  requestSid : UInt8
  requestSubFn : UInt8
  requestDid : UInt16
  requestPayload : QByteArray
  responseSid : UInt8
  nrc : UInt8
  responsePayload : QByteArray
  latencyUs : Int64
  deriving DecidableEq, Repr

namespace UdsWorker

structure WorkerInput where
  source : Source
  env : HandlerEnv := {}
  /-- `currentMSecsSinceEpoch()` in `processUdsRequest`. -/
  now : Int64 := 0
  /-- What the elapsed timer shows. -/
  latencyUs : Int64 := 0
  msg : UDSMessage
  deriving DecidableEq, Repr

/-- What the worker emits for a request: the response, to the source of the request, and the
logged transaction. -/
structure Reply where
  response : UDSMessage
  transaction : UdsTransaction
  deriving DecidableEq, Repr

/-- `processUdsRequest`; the handler is set in the constructor, and `processRequest` throws
nothing. -/
def processUdsRequest (m_handler : SessionState) (i : WorkerInput) :
    SessionState × UDSMessage :=
  let response := processRequest i.env m_handler i.msg
  (response.1,
    { response.2 with
      isResponse := true
      requestId := i.msg.requestId
      timetemp := i.now })

def loggedDid (msg : UDSMessage) : UInt16 :=
  if msg.serviceId = UdsSid.readDataByIdentifier ∧ 2 ≤ msg.payload.length then
    QByteArray.word16At msg.payload 0
  else 0

/-- The body shared by `onTcpUdsMessageReceived` and `onCanUdsMessageReceived`. -/
def onUdsMessageReceived (m_handler : SessionState) (i : WorkerInput) :
    SessionState × Option Reply :=
  let response := (processUdsRequest m_handler i).2
  ((processUdsRequest m_handler i).1,
    if response.serviceId ≠ 0x00 then
      some
        { response := response
          transaction :=
            { channel := i.source.channel
              clientId := i.source.loggedClientId
              requestSid := i.msg.serviceId
              requestSubFn := i.msg.subFunction
              requestDid := loggedDid i.msg
              requestPayload := i.msg.payload
              responseSid := response.serviceId
              nrc := response.negativeCode
              responsePayload := response.payload
              latencyUs := i.latencyUs } }
    else none)

def onTcpUdsMessageReceived (m_handler : SessionState) (env : HandlerEnv)
    (now latencyUs : Int64) (msg : UDSMessage) (clientId : Int) :
    SessionState × Option Reply :=
  onUdsMessageReceived m_handler { source := .tcp clientId, env, now, latencyUs, msg }

def onCanUdsMessageReceived (m_handler : SessionState) (env : HandlerEnv)
    (now latencyUs : Int64) (msg : UDSMessage) : SessionState × Option Reply :=
  onUdsMessageReceived m_handler { source := .can, env, now, latencyUs, msg }

/-- The worker with its handler: requests arrive in any order from any source. -/
def worker : Machine SessionState WorkerInput (Option Reply) where
  init := {}
  step s i :=
    match i.source with
    | .tcp clientId => onTcpUdsMessageReceived s i.env i.now i.latencyUs i.msg clientId
    | .can => onCanUdsMessageReceived s i.env i.now i.latencyUs i.msg

theorem worker_step (s : SessionState) (i : WorkerInput) :
    worker.step s i = onUdsMessageReceived s i := by
  rcases i with ⟨source, env, now, latencyUs, msg⟩
  cases source <;> rfl

theorem worker_step_fst (s : SessionState) (i : WorkerInput) :
    (worker.step s i).1 = (processRequest i.env s i.msg).1 := by
  rw [worker_step]
  rfl

/-! ## What one request does -/

abbrev WorkerExchange := WorkerInput × Option Reply

def WorkerInput.handlerInput (i : WorkerInput) : HandlerInput where
  env := i.env
  req := i.msg

/-- The request got a response, and the two satisfy `P`. -/
def Answered (P : Exchange → Prop) (e : WorkerExchange) : Prop :=
  ∃ reply ∈ e.2, P (e.1.handlerInput, reply.response)

def AnsweredTo (c : Source) (P : Exchange → Prop) (e : WorkerExchange) : Prop :=
  e.1.source = c ∧ Answered P e

theorem worker_answers (s : SessionState) (i : WorkerInput) :
    Answers i.env s i.msg (worker.step s i).1 (processRequest i.env s i.msg).2 := by
  rw [worker_step]
  exact processRequest_answers i.env s i.msg

/-- Every request is answered: the handler never gives the service identifier `0`. -/
theorem worker_replies (s : SessionState) (i : WorkerInput) :
    ∃ reply, (worker.step s i).2 = some reply ∧
      reply.response = (processUdsRequest s i).2 := by
  have hne : (processUdsRequest s i).2.serviceId ≠ 0x00 := by
    change (processRequest i.env s i.msg).2.serviceId ≠ 0x00
    intro hzero
    have hpos : Positive (processRequest i.env s i.msg).2 := by
      rw [Positive, hzero]
      decide
    have hle := ((processRequest_answers i.env s i.msg).serviceId_of_positive hpos).2
    rw [hzero] at hle
    exact absurd hle (by decide)
  rw [worker_step, onUdsMessageReceived]
  simp only [if_pos hne]
  exact ⟨_, rfl, rfl⟩

/-- The response to a request is what the handler answers, up to the stamps of the worker. -/
theorem answered_iff {P : Exchange → Prop} (s : SessionState) (i : WorkerInput) :
    Answered P (i, (worker.step s i).2) ↔ P (i.handlerInput, (processUdsRequest s i).2) := by
  rcases worker_replies s i with ⟨reply, hsome, hresp⟩
  simp [Answered, hsome, hresp]

/-! ## Shared access -/

theorem sessionInv_after (run : List WorkerInput) : SessionInv (worker.after run) :=
  worker.after_invariant ⟨Or.inl rfl, fun hne => absurd rfl hne⟩
    (fun s i hinv => (worker_answers s i).sessionInv hinv) run

/-- The server is authenticated exactly while a key of some source was accepted and no source was
switched to the default session after it. -/
theorem authenticated_iff_since (run : List WorkerInput) :
    (worker.after run).isAuthenticated = true ↔
      Since (Answered KeyAccepted) (Answered DefaultSwitch) (worker.history run) := by
  refine worker.history_invariant
    (I := fun s t => s.isAuthenticated = true ↔
      Since (Answered KeyAccepted) (Answered DefaultSwitch) t) ?_ ?_ run
  · exact iff_of_false (by decide) not_since_nil
  · intro s t i ih
    rw [since_snoc, ← ih, answered_iff, answered_iff]
    exact (worker_answers s i).isAuthenticated_iff

theorem authenticated_of_granted {s : SessionState} (hinv : SessionInv s) {i : WorkerInput}
    (h : Answered Granted (i, (worker.step s i).2)) : s.isAuthenticated = true := by
  rw [answered_iff] at h
  rcases h with hread | hswitch
  · exact hinv.guarded ((worker_answers s i).session_of_dataRead hread)
  · exact (worker_answers s i).authenticated_of_unlockedSwitch hswitch

/-- Access per tester: what a source is granted, a key of the same source has opened. -/
def PerTester (run : List WorkerInput) : Prop :=
  ∀ a e b, worker.history run = a ++ e :: b → Answered Granted e →
    Since (AnsweredTo e.1.source KeyAccepted) (AnsweredTo e.1.source DefaultSwitch) a

/-- Access per server: what a source is granted, a key of some source has opened, and no source
has switched back since; while one source is alone that source is meant. -/
def PerServer (run : List WorkerInput) : Prop :=
  ∀ a e b, worker.history run = a ++ e :: b → Answered Granted e →
    Since (Answered KeyAccepted) (Answered DefaultSwitch) a ∧
      ((∀ x ∈ a, x.1.source = e.1.source) →
        Since (AnsweredTo e.1.source KeyAccepted) (AnsweredTo e.1.source DefaultSwitch) a)

theorem perServer (run : List WorkerInput) : PerServer run := by
  rintro a ⟨i, o⟩ b hrun hgranted
  rcases worker.history_eq_append_cons hrun with ⟨is, js, rfl, rfl, ho, -⟩
  simp only at ho
  subst ho
  have hauth := authenticated_of_granted (sessionInv_after is) hgranted
  have hsince := (authenticated_iff_since is).1 hauth
  refine ⟨hsince, ?_⟩
  intro halone
  -- all earlier requests have one source, so the key and the missing switch are its own
  rcases hsince with ⟨x, e, y, hxy, hkey, hno⟩
  refine ⟨x, e, y, hxy, ⟨halone e (by simp [hxy]), hkey⟩, ?_⟩
  intro f hf hswitch
  exact hno f hf hswitch.2

def unlockByClient1001 : List WorkerInput :=
  [{ source := .tcp 1001, env := { digest := 1 },
      msg := deserializeUDSMessage {} [0x27, 0x01] },
    { source := .tcp 1001,
      msg := deserializeUDSMessage {} [0x27, 0x02, 0x01, 0xEF, 0xCD, 0xAB] }]

def switchByClient1002 : WorkerInput where
  source := .tcp 1002
  msg := deserializeUDSMessage {} [0x10, 0x03]

/-- The key of client 1001 opens the extended session to client 1002. -/
theorem key_opens_for_others : ¬ ∀ run, PerTester run := by
  intro h
  have hgranted : Answered Granted
      (switchByClient1002,
        (worker.step (worker.after unlockByClient1001) switchByClient1002).2) := by
    rw [answered_iff]
    exact Or.inr (by decide)
  rcases h _ _ _ [] (worker.history_snoc unlockByClient1001 switchByClient1002) hgranted
    with ⟨x, e, y, hxy, ⟨hsource, -⟩, -⟩
  have hmem : e.1 ∈ unlockByClient1001 := by
    rw [← worker.map_fst_trace worker.init unlockByClient1001]
    exact List.mem_map_of_mem (by rw [← Machine.history, hxy]; simp)
  have honly : ∀ i ∈ unlockByClient1001, i.source = .tcp 1001 := by decide
  rw [honly _ hmem] at hsource
  exact absurd hsource (by decide)

end UdsWorker
end Server
end TcpCanUds
