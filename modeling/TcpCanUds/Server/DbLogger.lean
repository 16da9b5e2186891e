import TcpCanUds.Server.UdsWorker

/-!
# DbLogger — the transaction log of the server (`server/db_logger.cpp`)

The worker hands every transaction to the logger, which queues the ones that pass its filters; a timer
flushes the queue into the database.  The column `nrc` is meant to be NULL behind a positive response.
It is bound from `negativeCode`, which the handlers set in negative responses only, so behind a positive
one it shows what the memory held (`nrcTells_iff`).
-/

namespace TcpCanUds
namespace Server

open Lib UdsHandler

inductive LogLevel
  | silent | error | warning | info | debug | trace
  deriving DecidableEq, Repr

namespace LogLevel

def toNat : LogLevel → Nat
  | silent => 0
  | error => 1
  | warning => 2
  | info => 3
  | debug => 4
  | trace => 5

end LogLevel

/-- An entry of the queue; those for the other tables are told apart no further. -/
inductive LogEntry
  | uds (e : UdsTransaction)
  | other
  deriving DecidableEq, Repr

/-- The values bound to a row of `uds_transactions`; `none` is NULL. -/
structure UdsRow where
  channel : String
  client_id : Option Int
  request_sid : UInt8
  request_subfn : UInt8
  request_did : Option UInt16
  request_payload : QByteArray
  response_sid : UInt8
  nrc : Option UInt8
  response_payload : QByteArray
  latency_us : Int64
  deriving DecidableEq, Repr

/-- The logger, with the rows it has bound so far. -/
structure DbLogger where
  m_logLevel : LogLevel
  m_categoryFilters : String → Option Bool
  m_skipTesterPresent : Bool
  m_logQueue : List LogEntry
  uds_transactions : List UdsRow

namespace DbLogger

def new : DbLogger where
  m_logLevel := .info
  m_categoryFilters _ := none
  m_skipTesterPresent := false
  m_logQueue := []
  uds_transactions := []

def shouldLogLevel (m : DbLogger) (required : LogLevel) : Bool :=
  required.toNat ≤ m.m_logLevel.toNat

def shouldLogCategory (m : DbLogger) (category : String) : Bool :=
  (m.m_categoryFilters category).getD true

def enqueueEntry (m : DbLogger) (entry : LogEntry) : DbLogger :=
  { m with m_logQueue := m.m_logQueue ++ [entry] }

def logUdsTransaction (m : DbLogger) (e : UdsTransaction) : DbLogger :=
  if m.m_skipTesterPresent ∧ e.requestSid = 0x3E then m
  -- tester present is only recorded at the level of traces
  else if e.requestSid = 0x3E ∧ ¬ m.shouldLogLevel .trace then m
  else if ¬ m.shouldLogLevel .info then m
  else if ¬ m.shouldLogCategory "uds" then m
  else m.enqueueEntry (.uds e)

/-- What `insertUdsTransaction` binds. -/
def bindUdsTransaction (e : UdsTransaction) : UdsRow where
  channel := e.channel
  client_id := if 0 ≤ e.clientId then some e.clientId else none
  request_sid := e.requestSid
  request_subfn := e.requestSubFn
  request_did := if 0 < e.requestDid then some e.requestDid else none
  request_payload := e.requestPayload
  response_sid := e.responseSid
  nrc := if e.nrc ≠ 0x00 then some e.nrc else none
  response_payload := e.responsePayload
  latency_us := e.latencyUs

def insertUdsTransaction (m : DbLogger) (e : UdsTransaction) : DbLogger :=
  { m with uds_transactions := m.uds_transactions ++ [bindUdsTransaction e] }

/-- The loop of `flushLogQueue` over the queue: the head is inserted, then taken out. -/
def flushEntries (m : DbLogger) : List LogEntry → DbLogger
  | [] => { m with m_logQueue := [] }
  | .uds e :: rest => (m.insertUdsTransaction e).flushEntries rest
  | .other :: rest => m.flushEntries rest

def flushLogQueue (m : DbLogger) : DbLogger :=
  m.flushEntries m.m_logQueue

/-! ## From the queue to the rows -/

/-- The rows of the entries of a queue. -/
def rowsOf (queue : List LogEntry) : List UdsRow :=
  queue.filterMap fun
    | .uds e => some (bindUdsTransaction e)
    | .other => none

theorem uds_transactions_flushEntries (m : DbLogger) (queue : List LogEntry) :
    (m.flushEntries queue).uds_transactions = m.uds_transactions ++ rowsOf queue := by
  induction queue generalizing m with
  | nil => exact (List.append_nil _).symm
  | cons entry queue ih =>
      cases entry with
      | uds e =>
          calc
            ((m.insertUdsTransaction e).flushEntries queue).uds_transactions
                = (m.uds_transactions ++ [bindUdsTransaction e]) ++ rowsOf queue := ih _
            _ = m.uds_transactions ++ rowsOf (.uds e :: queue) := by
                rw [List.append_assoc]
                rfl
      | other => exact ih m

/-- The transaction passes the filters. -/
def Records (m : DbLogger) (e : UdsTransaction) : Prop :=
  (e.requestSid = 0x3E → m.m_skipTesterPresent = false ∧ m.shouldLogLevel .trace = true) ∧
    m.shouldLogLevel .info = true ∧ m.shouldLogCategory "uds" = true

instance (m : DbLogger) (e : UdsTransaction) : Decidable (m.Records e) :=
  inferInstanceAs (Decidable (_ ∧ _ ∧ _))

/-- The tests of `logUdsTransaction` are the filters. -/
theorem logUdsTransaction_eq (m : DbLogger) (e : UdsTransaction) :
    m.logUdsTransaction e = if m.Records e then m.enqueueEntry (.uds e) else m := by
  by_cases hrec : m.Records e
  · rcases hrec with ⟨htester, hinfo, hcategory⟩
    have hskip : ¬ (m.m_skipTesterPresent = true ∧ e.requestSid = 0x3E) := by
      intro h
      rw [(htester h.2).1] at h
      cases h.1
    have hlevel : ¬ (e.requestSid = 0x3E ∧ ¬ m.shouldLogLevel .trace = true) := by
      intro h
      exact h.2 (htester h.1).2
    rw [logUdsTransaction, if_neg hskip, if_neg hlevel, if_neg (not_not.2 hinfo),
      if_neg (not_not.2 hcategory), if_pos ⟨htester, hinfo, hcategory⟩]
  · rw [if_neg hrec, logUdsTransaction]
    split_ifs with hskip hlevel hinfo hcategory
    · rfl
    · rfl
    · -- what passes every test is recorded
      exfalso
      apply hrec
      refine ⟨?_, hinfo, hcategory⟩
      intro htester
      exact ⟨by simpa [htester] using hskip, by simpa [htester] using hlevel⟩
    · rfl
    · rfl

/-- A recorded transaction becomes the last of the rows that the next flush binds. -/
theorem row_of_recorded {m : DbLogger} {e : UdsTransaction} (h : m.Records e) :
    (m.logUdsTransaction e).flushLogQueue.uds_transactions =
      m.flushLogQueue.uds_transactions ++ [bindUdsTransaction e] := by
  rw [logUdsTransaction_eq, if_pos h, flushLogQueue, flushLogQueue, uds_transactions_flushEntries,
    uds_transactions_flushEntries]
  simp [enqueueEntry, rowsOf]

end DbLogger

/-! ## The column `nrc` -/

open UdsWorker DbLogger

/-- NULL tells a positive response; behind a negative one stands its code. -/
def NrcTells (response : UDSMessage) (row : UdsRow) : Prop :=
  (row.nrc = none ↔ Positive response) ∧
    (¬ Positive response → row.nrc = some response.negativeCode)

theorem nrc_bindUdsTransaction (e : UdsTransaction) :
    (bindUdsTransaction e).nrc = if e.nrc ≠ 0x00 then some e.nrc else none := rfl

theorem negativeCode_positive {env : HandlerEnv} {s s' : SessionState} {req r : UDSMessage}
    (h : Answers env s req s' r) (hpos : Positive r) : r.negativeCode = env.mem.negativeCode := by
  cases h with
  | refused hr => exact absurd hpos (not_positive_makeNegativeResponse _ _ _)
  | defaultSession | unlockedSession | read | tester | seed | key | reset => rfl

/-- What the row of a transaction tells depends on the response alone: a negative one always has a
code, a positive one should have none. -/
theorem nrcTells_bind {e : UdsTransaction} {response : UDSMessage}
    (hnrc : e.nrc = response.negativeCode) (hneg : ¬ Positive response → response.negativeCode ≠ 0) :
    NrcTells response (bindUdsTransaction e) ↔
      (Positive response → response.negativeCode = 0) := by
  rw [NrcTells, nrc_bindUdsTransaction, hnrc]
  by_cases hzero : response.negativeCode = 0
  · have hpos : Positive response := by
      by_contra hno
      exact hneg hno hzero
    simp [hzero, hpos]
  · by_cases hpos : Positive response
    · simp [hzero, hpos]
    · simp [hzero, hpos]

/-- The worker logs the response it sends. -/
theorem logged_response {s : SessionState} {i : WorkerInput} {reply : Reply}
    (h : (worker.step s i).2 = some reply) :
    reply.transaction.nrc = reply.response.negativeCode ∧
      reply.response.serviceId = (processRequest i.env s i.msg).2.serviceId ∧
      reply.response.negativeCode = (processRequest i.env s i.msg).2.negativeCode := by
  rw [worker_step, onUdsMessageReceived] at h
  simp only at h
  split_ifs at h with hanswered
  rcases Option.some.inj h with rfl
  exact ⟨rfl, rfl, rfl⟩

/-- In every session state, the row of a recorded transaction tells a positive response from a negative
one exactly when the request is refused or the memory under the response held a zero there. -/
theorem nrcTells_iff {m : DbLogger} {s : SessionState} {i : WorkerInput} {reply : Reply}
    (hreply : (worker.step s i).2 = some reply) (hrec : m.Records reply.transaction) :
    ∃ row, (m.logUdsTransaction reply.transaction).flushLogQueue.uds_transactions =
        m.flushLogQueue.uds_transactions ++ [row] ∧
      (NrcTells reply.response row ↔ ¬ Accepts s i.msg ∨ i.env.mem.negativeCode = 0) := by
  refine ⟨_, row_of_recorded hrec, ?_⟩
  rcases logged_response hreply with ⟨hnrc, hsid, hcode⟩
  have hanswer := processRequest_answers i.env s i.msg
  have hpositive : Positive reply.response ↔ Accepts s i.msg := by
    rw [← hanswer.positive_iff, Positive, Positive, hsid]
  have hneg : ¬ Positive reply.response → reply.response.negativeCode ≠ 0 := by
    intro hno
    rw [hcode]
    apply (hanswer.of_not_positive _).2
    rwa [hanswer.positive_iff, ← hpositive]
  rw [nrcTells_bind hnrc hneg, hpositive]
  -- on the accepted requests the code is what the memory held
  constructor
  · intro h
    by_cases hacc : Accepts s i.msg
    · right
      rw [← negativeCode_positive hanswer (hanswer.positive_iff.2 hacc), ← hcode]
      exact h hacc
    · exact .inl hacc
  · intro h hacc
    rw [hcode, negativeCode_positive hanswer (hanswer.positive_iff.2 hacc)]
    exact h.resolve_left (not_not.2 hacc)

/-- A switch to the default session; the memory under the response holds `code` where the negative
code stands. -/
def switchOnMemory (code : UInt8) : WorkerInput where
  source := .tcp 1001
  env := { mem := { negativeCode := code } }
  msg := deserializeUDSMessage {} [0x10, 0x01]

def switchReply (code : UInt8) : Reply :=
  (worker.step {} (switchOnMemory code)).2.get
    (by rcases worker_replies {} (switchOnMemory code) with ⟨reply, h, -⟩; rw [h]; rfl)

theorem nrcTells_cleanMemory :
    ∃ row, (DbLogger.new.logUdsTransaction (switchReply 0).transaction).flushLogQueue.uds_transactions =
        DbLogger.new.flushLogQueue.uds_transactions ++ [row] ∧
      NrcTells (switchReply 0).response row := by
  have hreply : (worker.step {} (switchOnMemory 0)).2 = some (switchReply 0) :=
    (Option.some_get _).symm
  rcases nrcTells_iff (m := DbLogger.new) hreply (by decide) with ⟨row, hrow, htells⟩
  exact ⟨row, hrow, htells.2 (.inr rfl)⟩

/-- The row of a positive response shows a code that the memory held. -/
theorem positive_logged_with_code :
    ¬ ∀ (m : DbLogger) (s : SessionState) (i : WorkerInput) (reply : Reply),
      (worker.step s i).2 = some reply → m.Records reply.transaction →
        NrcTells reply.response (bindUdsTransaction reply.transaction) := by
  intro h
  have htells := h DbLogger.new {} (switchOnMemory 0x7F) (switchReply 0x7F) (Option.some_get _).symm
    (by decide)
  have hnull := htells.1.2 (by decide)
  exact absurd hnull (by decide)

end Server
end TcpCanUds
