import Mathlib.Data.List.Forall2
import TcpCanUds.Server.DbLogger

/-!
# LogTables — the logger with all of its tables (`server/db_logger.cpp`)

Five kinds of entries pass their filters into one queue, and a timer writes the queue into the tables.
`DbLogger` follows the transactions alone; here are the other entries, the filters they pass, the
sampling of CAN frames, and the inserts that fail.
-/

namespace TcpCanUds
namespace Server

open Lib

inductive LogType where
  | info
  | warning
  | error
  | debug
  | canFrame
  | crcError
  | clientEvent
  deriving DecidableEq, Repr

structure SystemMetric where
  cpuTemp : Float
  cpuLoad1m : Float
  cpuLoad5m : Float
  memTotalKb : Int64
  memAvailKb : Int64
  memUsedPct : Float
  uptimeSec : Int64
  canState : String
  canBerrors : Int32

structure CanFrameEntry where
  direction : String
  canId : UInt32
  dlc : UInt8
  data : QByteArray
  deriving DecidableEq, Repr

structure SecurityAudit where
  channel : String
  clientId : Int32
  event : String
  seed : UInt32
  keyValue : UInt32
  securityLvl : UInt8
  deriving DecidableEq, Repr

/-- `LogEntry`, by its `entryType`. -/
inductive TableEntry where
  | log (type : LogType) (message details : String)
  | uds (e : UdsTransaction)
  | can (e : CanFrameEntry)
  | metric (e : SystemMetric)
  | security (e : SecurityAudit)

/-! ## The tables -/

structure LogRow where
  type : LogType
  message : String
  details : String
  deriving DecidableEq, Repr

/-- A row of `security_audit`; `none` is NULL. -/
structure SecurityRow where
  channel : String
  client_id : Option Int32
  event : String
  seed : Option UInt32
  key_value : Option UInt32
  security_lvl : UInt8
  deriving DecidableEq, Repr

structure Tables where
  logs : List LogRow := []
  uds_transactions : List UdsRow := []
  can_frames : List CanFrameEntry := []
  system_metrics : List SystemMetric := []
  security_audit : List SecurityRow := []

/-- What `insertSecurityAudit` binds. -/
def bindSecurityAudit (e : SecurityAudit) : SecurityRow where
  channel := e.channel
  client_id := if 0 ≤ e.clientId then some e.clientId else none
  event := e.event
  seed := if 0 < e.seed then some e.seed else none
  key_value := if 0 < e.keyValue then some e.keyValue else none
  security_lvl := e.securityLvl

namespace Tables

def insertLog (t : Tables) (type : LogType) (message details : String) : Tables :=
  { t with logs := t.logs ++ [⟨type, message, details⟩] }

def insertUdsTransaction (t : Tables) (e : UdsTransaction) : Tables :=
  { t with uds_transactions := t.uds_transactions ++ [DbLogger.bindUdsTransaction e] }

def insertCanFrame (t : Tables) (e : CanFrameEntry) : Tables :=
  { t with can_frames := t.can_frames ++ [e] }

def insertSystemMetric (t : Tables) (e : SystemMetric) : Tables :=
  { t with system_metrics := t.system_metrics ++ [e] }

def insertSecurityAudit (t : Tables) (e : SecurityAudit) : Tables :=
  { t with security_audit := t.security_audit ++ [bindSecurityAudit e] }

/-- The `switch` in `flushLogQueue`. -/
def insert (t : Tables) : TableEntry → Tables
  | .log type message details => t.insertLog type message details
  | .uds e => t.insertUdsTransaction e
  | .can e => t.insertCanFrame e
  | .metric e => t.insertSystemMetric e
  | .security e => t.insertSecurityAudit e

/-- The rows of some entries, in their order. -/
def ofEntries (entries : List TableEntry) : Tables :=
  entries.foldl insert {}

end Tables

/-! ## The logger -/

/-- `DB_logger`.  The sample rate is never below one, so nothing is divided by zero. -/
structure Logger where
  m_logLevel : LogLevel
  m_categoryFilters : String → Option Bool
  m_canSampleRate : Nat
  one_le_rate : 1 ≤ m_canSampleRate
  m_canFrameCounter : Nat
  m_skipTesterPresent : Bool
  m_logQueue : List TableEntry
  tables : Tables

namespace Logger

def new : Logger where
  m_logLevel := .info
  m_categoryFilters _ := none
  m_canSampleRate := 1
  one_le_rate := Nat.le_refl 1
  m_canFrameCounter := 0
  m_skipTesterPresent := false
  m_logQueue := []
  tables := {}

def setLogLevel (m : Logger) (level : LogLevel) : Logger :=
  { m with m_logLevel := level }

def setCategoryEnabled (m : Logger) (category : String) (enabled : Bool) : Logger :=
  { m with
    m_categoryFilters := fun c => if c = category then some enabled else m.m_categoryFilters c }

def isCategoryEnabled (m : Logger) (category : String) : Bool :=
  (m.m_categoryFilters category).getD true

/-- `qMax(1, rate)` -/
def setCanFrameSampleRate (m : Logger) (rate : Int) : Logger :=
  { m with
    m_canSampleRate := max 1 rate.toNat
    one_le_rate := Nat.le_max_left 1 _ }

def setSkipTesterPresent (m : Logger) (skip : Bool) : Logger :=
  { m with m_skipTesterPresent := skip }

def shouldLogLevel (m : Logger) (required : LogLevel) : Bool :=
  required.toNat ≤ m.m_logLevel.toNat

def shouldLogCategory (m : Logger) (category : String) : Bool :=
  (m.m_categoryFilters category).getD true

def enqueueEntry (m : Logger) (entry : TableEntry) : Logger :=
  { m with m_logQueue := m.m_logQueue ++ [entry] }

/-- The level that a type of entry needs. -/
def required : LogType → LogLevel
  | .error | .crcError => .error
  | .warning => .warning
  | .info | .clientEvent => .info
  | .debug => .debug
  | .canFrame => .trace

def log (m : Logger) (type : LogType) (message details : String) : Logger :=
  if ¬ m.shouldLogLevel (required type) then m
  else m.enqueueEntry (.log type message details)

def logClientEvent (m : Logger) (event clientInfo : String) : Logger :=
  m.log .clientEvent ("Client Event: " ++ event) clientInfo

def logUdsTransaction (m : Logger) (e : UdsTransaction) : Logger :=
  if m.m_skipTesterPresent ∧ e.requestSid = 0x3E then m
  else if e.requestSid = 0x3E ∧ ¬ m.shouldLogLevel .trace then m
  else if ¬ m.shouldLogLevel .info then m
  else if ¬ m.shouldLogCategory "uds" then m
  else m.enqueueEntry (.uds e)

/-- The counter counts the frames that pass the filters; it is an `int`, for fewer than `2 ^ 31`. -/
def logCanFrame (m : Logger) (e : CanFrameEntry) : Logger :=
  if ¬ m.shouldLogLevel .trace then m
  else if ¬ m.shouldLogCategory "can" then m
  else
    let m := { m with m_canFrameCounter := m.m_canFrameCounter + 1 }
    if m.m_canFrameCounter % m.m_canSampleRate ≠ 0 then m
    else m.enqueueEntry (.can e)

def logSystemMetric (m : Logger) (e : SystemMetric) : Logger :=
  if ¬ m.shouldLogLevel .info then m
  else if ¬ m.shouldLogCategory "metric" then m
  else m.enqueueEntry (.metric e)

def logSecurityAudit (m : Logger) (e : SecurityAudit) : Logger :=
  if ¬ m.shouldLogLevel .info then m
  else if ¬ m.shouldLogCategory "security" then m
  else m.enqueueEntry (.security e)

/-- The loop of `flushLogQueue`; `outcomes` tells whether each `query.exec` succeeds, those beyond its
end do.  A failed insert is only warned about. -/
def flushEntries (m : Logger) : List TableEntry → List Bool → Logger
  | [], _ => { m with m_logQueue := [] }
  | entry :: rest, outcomes =>
      let m := if outcomes.headD true then { m with tables := m.tables.insert entry } else m
      m.flushEntries rest outcomes.tail

def flushLogQueue (m : Logger) (outcomes : List Bool) : Logger :=
  m.flushEntries m.m_logQueue outcomes

end Logger

/-- The calls of the logger, and the timer of the flush. -/
inductive LoggerCall where
  | setLogLevel (level : LogLevel)
  | setCategoryEnabled (category : String) (enabled : Bool)
  | setCanFrameSampleRate (rate : Int)
  | setSkipTesterPresent (skip : Bool)
  | log (type : LogType) (message details : String)
  | logClientEvent (event clientInfo : String)
  | logUdsTransaction (e : UdsTransaction)
  | logCanFrame (e : CanFrameEntry)
  | logSystemMetric (e : SystemMetric)
  | logSecurityAudit (e : SecurityAudit)
  | flushLogQueue (outcomes : List Bool)

namespace Logger

def call (m : Logger) : LoggerCall → Logger
  | .setLogLevel level => m.setLogLevel level
  | .setCategoryEnabled category enabled => m.setCategoryEnabled category enabled
  | .setCanFrameSampleRate rate => m.setCanFrameSampleRate rate
  | .setSkipTesterPresent skip => m.setSkipTesterPresent skip
  | .log type message details => m.log type message details
  | .logClientEvent event clientInfo => m.logClientEvent event clientInfo
  | .logUdsTransaction e => m.logUdsTransaction e
  | .logCanFrame e => m.logCanFrame e
  | .logSystemMetric e => m.logSystemMetric e
  | .logSecurityAudit e => m.logSecurityAudit e
  | .flushLogQueue outcomes => m.flushLogQueue outcomes

def logger : Machine Logger LoggerCall Unit where
  init := new
  step := fun m c => (m.call c, ())

/-! ## What passes the filters -/

/-- CAN frames are counted. -/
def CountsFrames (m : Logger) : Prop :=
  m.shouldLogLevel .trace = true ∧ m.shouldLogCategory "can" = true

instance (m : Logger) : Decidable m.CountsFrames :=
  inferInstanceAs (Decidable (_ ∧ _))

/-- A frame that passes the filters is counted. -/
def counted (m : Logger) : Logger :=
  { m with m_canFrameCounter := m.m_canFrameCounter + 1 }

/-- The frame that is counted next is recorded. -/
def Sampled (m : Logger) : Prop :=
  (m.m_canFrameCounter + 1) % m.m_canSampleRate = 0

instance (m : Logger) : Decidable m.Sampled :=
  inferInstanceAs (Decidable (_ = _))

/-- The logger as far as transactions go. -/
def toDbLogger (m : Logger) : DbLogger where
  m_logLevel := m.m_logLevel
  m_categoryFilters := m.m_categoryFilters
  m_skipTesterPresent := m.m_skipTesterPresent
  m_logQueue := m.m_logQueue.map fun
    | .uds e => .uds e
    | .log _ _ _ | .can _ | .metric _ | .security _ => .other
  uds_transactions := m.tables.uds_transactions

/-- The entry that a call puts into the queue. -/
def admitted (m : Logger) : LoggerCall → Option TableEntry
  | .log type message details =>
      if m.shouldLogLevel (required type) then some (.log type message details) else none
  | .logClientEvent event clientInfo =>
      if m.shouldLogLevel .info then
        some (.log .clientEvent ("Client Event: " ++ event) clientInfo)
      else none
  | .logUdsTransaction e => if m.toDbLogger.Records e then some (.uds e) else none
  | .logCanFrame e =>
      if m.CountsFrames ∧ m.Sampled then some (.can e) else none
  | .logSystemMetric e =>
      if m.shouldLogLevel .info ∧ m.shouldLogCategory "metric" then some (.metric e) else none
  | .logSecurityAudit e =>
      if m.shouldLogLevel .info ∧ m.shouldLogCategory "security" then some (.security e) else none
  | .setLogLevel _ | .setCategoryEnabled _ _ | .setCanFrameSampleRate _ | .setSkipTesterPresent _
  | .flushLogQueue _ => none

section

variable (m : Logger)

theorem toDbLogger_enqueueEntry (e : UdsTransaction) :
    (m.enqueueEntry (.uds e)).toDbLogger = m.toDbLogger.enqueueEntry (.uds e) := by
  simp only [toDbLogger, enqueueEntry, DbLogger.enqueueEntry, List.map_append]
  rfl

/-- On transactions the logger does what `DbLogger` does. -/
theorem toDbLogger_logUdsTransaction (e : UdsTransaction) :
    (m.logUdsTransaction e).toDbLogger = m.toDbLogger.logUdsTransaction e := by
  have hlevel : ∀ l, m.toDbLogger.shouldLogLevel l = m.shouldLogLevel l := fun _ => rfl
  have hcategory : ∀ c, m.toDbLogger.shouldLogCategory c = m.shouldLogCategory c := fun _ => rfl
  simp only [logUdsTransaction, DbLogger.logUdsTransaction, apply_ite toDbLogger,
    toDbLogger_enqueueEntry, hlevel, hcategory]
  rfl

/-- The tests one after the other are the filters, whatever is done behind them. -/
theorem tests_eq_records {α : Type*} (d : DbLogger) (e : UdsTransaction) (skipped recorded : α) :
    (if d.m_skipTesterPresent ∧ e.requestSid = 0x3E then skipped
      else if e.requestSid = 0x3E ∧ ¬ d.shouldLogLevel .trace then skipped
      else if ¬ d.shouldLogLevel .info then skipped
      else if ¬ d.shouldLogCategory "uds" then skipped
      else recorded) = if d.Records e then recorded else skipped := by
  by_cases htester : e.requestSid = 0x3E
  · cases hskip : d.m_skipTesterPresent <;> cases htrace : d.shouldLogLevel .trace <;>
      cases hinfo : d.shouldLogLevel .info <;> cases hcategory : d.shouldLogCategory "uds" <;>
      simp [DbLogger.Records, htester, hskip, htrace, hinfo, hcategory]
  · cases hinfo : d.shouldLogLevel .info <;> cases hcategory : d.shouldLogCategory "uds" <;>
      simp [DbLogger.Records, htester, hinfo, hcategory]

theorem logUdsTransaction_eq (e : UdsTransaction) :
    m.logUdsTransaction e = if m.toDbLogger.Records e then m.enqueueEntry (.uds e) else m :=
  tests_eq_records m.toDbLogger e m (m.enqueueEntry (.uds e))

theorem logCanFrame_eq (e : CanFrameEntry) :
    m.logCanFrame e =
      if m.CountsFrames then if m.Sampled then m.counted.enqueueEntry (.can e) else m.counted
      else m := by
  simp only [logCanFrame, CountsFrames, Sampled, counted]
  split_ifs <;> simp_all

/-- A call that is no flush only queues what passes the filters. -/
theorem queue_call {c : LoggerCall} (hc : ∀ outcomes, c ≠ .flushLogQueue outcomes) :
    (m.call c).m_logQueue = m.m_logQueue ++ (m.admitted c).toList ∧
      (m.call c).tables = m.tables := by
  have hsame : ∀ {m' : Logger}, m'.m_logQueue = m.m_logQueue ∧ m'.tables = m.tables →
      m'.m_logQueue = m.m_logQueue ++ (none : Option TableEntry).toList ∧ m'.tables = m.tables :=
    fun h => ⟨h.1.trans (List.append_nil _).symm, h.2⟩
  have hlog : ∀ type message details,
      (m.log type message details).m_logQueue = m.m_logQueue ++
          (if m.shouldLogLevel (required type) then
            some (TableEntry.log type message details) else none).toList ∧
        (m.log type message details).tables = m.tables := by
    intro type message details
    rw [log]
    cases m.shouldLogLevel (required type) with
    | true => exact ⟨rfl, rfl⟩
    | false => exact hsame ⟨rfl, rfl⟩
  have hcategory : ∀ category entry,
      (if ¬ m.shouldLogLevel .info then m
          else if ¬ m.shouldLogCategory category then m
          else m.enqueueEntry entry).m_logQueue = m.m_logQueue ++
          (if m.shouldLogLevel .info ∧ m.shouldLogCategory category then some entry
            else none).toList ∧
        (if ¬ m.shouldLogLevel .info then m
          else if ¬ m.shouldLogCategory category then m
          else m.enqueueEntry entry).tables = m.tables := by
    intro category entry
    cases m.shouldLogLevel .info <;> cases m.shouldLogCategory category <;>
      first
      | exact ⟨rfl, rfl⟩
      | exact hsame ⟨rfl, rfl⟩
  -- every log function is one of three: by its level, by level and category, or the frame counter
  cases c with
  | setLogLevel | setCategoryEnabled | setCanFrameSampleRate | setSkipTesterPresent =>
      exact hsame ⟨rfl, rfl⟩
  | log type message details => exact hlog type message details
  | logClientEvent event clientInfo =>
      exact hlog .clientEvent ("Client Event: " ++ event) clientInfo
  | logUdsTransaction e =>
      simp only [call, logUdsTransaction_eq, admitted]
      split_ifs with hrecords
      · exact ⟨rfl, rfl⟩
      · exact hsame ⟨rfl, rfl⟩
  | logCanFrame e =>
      rw [call, logCanFrame_eq, admitted]
      by_cases hcounts : m.CountsFrames
      · rw [if_pos hcounts]
        by_cases hturn : m.Sampled
        · rw [if_pos hturn, if_pos ⟨hcounts, hturn⟩]
          exact ⟨rfl, rfl⟩
        · rw [if_neg hturn, if_neg fun h => hturn h.2]
          exact hsame ⟨rfl, rfl⟩
      · rw [if_neg hcounts, if_neg fun h => hcounts h.1]
        exact hsame ⟨rfl, rfl⟩
  | logSystemMetric e => exact hcategory "metric" (.metric e)
  | logSecurityAudit e => exact hcategory "security" (.security e)
  | flushLogQueue outcomes => exact absurd rfl (hc outcomes)

end

/-! ## What a flush writes -/

/-- The inserts of a flush, with their outcomes. -/
def attempts : List TableEntry → List Bool → List (TableEntry × Bool)
  | [], _ => []
  | entry :: rest, outcomes => (entry, outcomes.headD true) :: attempts rest outcomes.tail

def succeeded (inserts : List (TableEntry × Bool)) : List TableEntry :=
  (inserts.filter Prod.snd).map Prod.fst

theorem map_fst_attempts (queue : List TableEntry) (outcomes : List Bool) :
    (attempts queue outcomes).map Prod.fst = queue := by
  induction queue generalizing outcomes with
  | nil => rfl
  | cons entry queue ih => rw [attempts, List.map_cons, ih]

theorem flushEntries_spec (m : Logger) (queue : List TableEntry) (outcomes : List Bool) :
    (m.flushEntries queue outcomes).m_logQueue = [] ∧
      (m.flushEntries queue outcomes).tables =
        (succeeded (attempts queue outcomes)).foldl Tables.insert m.tables := by
  induction queue generalizing m outcomes with
  | nil => exact ⟨rfl, rfl⟩
  | cons entry queue ih =>
      rw [flushEntries, attempts, succeeded, List.filter_cons]
      cases outcomes.headD true with
      | true => exact ih _ _
      | false => exact ih _ _

/-- The inserts of a call. -/
def insertsOf (m : Logger) : LoggerCall → Option (List (TableEntry × Bool))
  | .flushLogQueue outcomes => some (attempts m.m_logQueue outcomes)
  | _ => none

/-- The entries that passed the filters in a run, oldest first. -/
def accepted (calls : List LoggerCall) : List TableEntry :=
  logger.watch admitted new calls

/-- The inserts of all flushes of a run, oldest first. -/
def inserted (calls : List LoggerCall) : List (TableEntry × Bool) :=
  (logger.watch insertsOf new calls).flatten

/-- What was accepted was tried or waits, and the tables hold what succeeded. -/
theorem inserted_invariant (calls : List LoggerCall) :
    (inserted calls).map Prod.fst ++ (logger.after calls).m_logQueue = accepted calls ∧
      (logger.after calls).tables = Tables.ofEntries (succeeded (inserted calls)) := by
  induction calls using List.reverseRecOn with
  | nil => exact ⟨rfl, rfl⟩
  | append_singleton calls c ih =>
      rcases ih with ⟨hqueue, htables⟩
      have hmem : ∀ (f : Logger → LoggerCall → Option (List (TableEntry × Bool))),
          logger.watch f new (calls ++ [c]) =
            logger.watch f new calls ++ (f (logger.after calls) c).toList := fun f =>
        logger.watch_snoc f new calls c
      have haccepted : accepted (calls ++ [c]) =
          accepted calls ++ ((logger.after calls).admitted c).toList :=
        logger.watch_snoc admitted new calls c
      have hstep : logger.after (calls ++ [c]) = (logger.after calls).call c :=
        logger.after_snoc calls c
      rw [inserted, hmem, List.flatten_append, haccepted, hstep]
      change (inserted calls ++ _).map _ ++ _ = _ ∧ _ = Tables.ofEntries (succeeded (inserted calls ++ _))
      -- a flush tries the whole queue, in its order; every other call only lengthens it
      by_cases hflush : ∃ outcomes, c = .flushLogQueue outcomes
      · rcases hflush with ⟨outcomes, rfl⟩
        rcases (logger.after calls).flushEntries_spec (logger.after calls).m_logQueue outcomes with
          ⟨hempty, hwritten⟩
        have hinserts : ((insertsOf (logger.after calls) (.flushLogQueue outcomes)).toList).flatten =
            attempts (logger.after calls).m_logQueue outcomes := List.append_nil _
        rw [hinserts, List.map_append, map_fst_attempts]
        refine ⟨?_, ?_⟩
        · change _ ++ (flushEntries _ _ _).m_logQueue = _
          rw [hempty, List.append_nil, hqueue]
          exact (List.append_nil _).symm
        · change (flushEntries _ _ _).tables = _
          rw [hwritten, htables, Tables.ofEntries, ← List.foldl_append, succeeded, succeeded, succeeded,
            ← List.map_append, ← List.filter_append]
          rfl
      · have hnone : insertsOf (logger.after calls) c = none := by
          cases c with
          | flushLogQueue outcomes => exact absurd ⟨outcomes, rfl⟩ hflush
          | _ => rfl
        rcases (logger.after calls).queue_call fun outcomes h => hflush ⟨outcomes, h⟩ with
          ⟨hcall, hkept⟩
        rw [hnone, hcall, hkept, Option.toList_none, List.flatten_nil, List.append_nil]
        exact ⟨by rw [← List.append_assoc, hqueue], htables⟩

/-- The tables of the entries of one kind each, in their order. -/
theorem ofEntries_eq (entries : List TableEntry) :
    Tables.ofEntries entries = {
      logs := entries.filterMap fun
        | .log type message details => some ⟨type, message, details⟩
        | _ => none
      uds_transactions := entries.filterMap fun
        | .uds e => some (DbLogger.bindUdsTransaction e)
        | _ => none
      can_frames := entries.filterMap fun
        | .can e => some e
        | _ => none
      system_metrics := entries.filterMap fun
        | .metric e => some e
        | _ => none
      security_audit := entries.filterMap fun
        | .security e => some (bindSecurityAudit e)
        | _ => none } := by
  induction entries using List.reverseRecOn with
  | nil => rfl
  | append_singleton entries entry ih =>
      rw [Tables.ofEntries] at ih
      rw [Tables.ofEntries, List.foldl_append, ih]
      simp only [List.filterMap_append]
      cases entry <;> simp [Tables.insert, Tables.insertLog, Tables.insertUdsTransaction,
        Tables.insertCanFrame, Tables.insertSystemMetric, Tables.insertSecurityAudit]

/-- No insert of the run fails. -/
def NoneFails (calls : List LoggerCall) : Prop :=
  ∀ outcomes, .flushLogQueue outcomes ∈ calls → ∀ ok ∈ outcomes, ok = true

theorem snd_attempts {queue : List TableEntry} {outcomes : List Bool}
    (h : ∀ ok ∈ outcomes, ok = true) : ∀ x ∈ attempts queue outcomes, x.2 = true := by
  induction queue generalizing outcomes with
  | nil => exact fun _ hx => by cases hx
  | cons entry queue ih =>
      intro x hx
      rcases List.mem_cons.1 hx with rfl | hx
      · cases outcomes with
        | nil => rfl
        | cons ok outcomes => exact h ok List.mem_cons_self
      · exact ih (fun ok hok => h ok (List.mem_of_mem_tail hok)) x hx

theorem succeeded_inserted {calls : List LoggerCall} (h : NoneFails calls) :
    succeeded (inserted calls) = (inserted calls).map Prod.fst := by
  have hall : ∀ x ∈ inserted calls, x.2 = true := by
    intro x hx
    rcases List.mem_flatten.1 hx with ⟨inserts, hinserts, hx⟩
    rcases logger.mem_watch hinserts with ⟨before, c, later, hcalls, hc⟩
    cases c with
    | flushLogQueue outcomes =>
        rcases Option.some.inj hc with rfl
        refine snd_attempts (h outcomes ?_) x hx
        rw [hcalls]
        exact List.mem_append_right _ List.mem_cons_self
    | _ => cases hc
  rw [succeeded, List.filter_eq_self.2 hall]

/-- What a flush leaves behind a run. -/
theorem flushed_run (calls : List LoggerCall) (outcomes : List Bool) :
    (logger.after (calls ++ [.flushLogQueue outcomes])).m_logQueue = [] ∧
      (inserted (calls ++ [.flushLogQueue outcomes])).map Prod.fst = accepted calls := by
  have hempty : (logger.after (calls ++ [.flushLogQueue outcomes])).m_logQueue = [] := by
    rw [logger.after_snoc]
    exact (flushEntries_spec _ _ _).1
  have haccepted : accepted (calls ++ [.flushLogQueue outcomes]) = accepted calls :=
    (logger.watch_snoc admitted new calls _).trans (List.append_nil _)
  have hqueue := (inserted_invariant (calls ++ [.flushLogQueue outcomes])).1
  rw [hempty, List.append_nil, haccepted] at hqueue
  exact ⟨hempty, hqueue⟩

theorem tables_of_noneFails {calls : List LoggerCall} {outcomes : List Bool}
    (hnone : NoneFails (calls ++ [.flushLogQueue outcomes])) :
    (logger.after (calls ++ [.flushLogQueue outcomes])).tables = Tables.ofEntries (accepted calls) := by
  calc
    (logger.after (calls ++ [.flushLogQueue outcomes])).tables =
        Tables.ofEntries (succeeded (inserted (calls ++ [.flushLogQueue outcomes]))) :=
      (inserted_invariant _).2
    _ = Tables.ofEntries ((inserted (calls ++ [.flushLogQueue outcomes])).map Prod.fst) := by
      rw [succeeded_inserted hnone]
    _ = Tables.ofEntries (accepted calls) := by
      rw [(flushed_run calls outcomes).2]

/-- After every run that ends with a flush, each entry that passed the filters was inserted once, in the
order of the calls, and nothing waits; the tables hold the inserts that succeeded, which are all of them
when none fails. -/
theorem logged_once (calls : List LoggerCall) (outcomes : List Bool) :
    let run := calls ++ [.flushLogQueue outcomes]
    (logger.after run).m_logQueue = [] ∧ (inserted run).map Prod.fst = accepted calls ∧
      (logger.after run).tables = Tables.ofEntries (succeeded (inserted run)) ∧
      (NoneFails run → (logger.after run).tables = Tables.ofEntries (accepted calls)) := by
  rcases flushed_run calls outcomes with ⟨hempty, hqueue⟩
  exact ⟨hempty, hqueue, (inserted_invariant _).2, tables_of_noneFails⟩

/-- Two entries and two flushes; none fails. -/
def twoFlushes : List LoggerCall :=
  [.log .error "a" "", .flushLogQueue [true], .log .debug "b" "", .logClientEvent "c" "d"]

theorem logged_once_twoFlushes :
    (logger.after (twoFlushes ++ [.flushLogQueue []])).tables =
      Tables.ofEntries (accepted twoFlushes) := by
  refine (logged_once twoFlushes []).2.2.2 fun outcomes hmem ok hok => ?_
  simp only [twoFlushes, List.cons_append, List.nil_append, List.mem_cons, reduceCtorEq, false_or,
    LoggerCall.flushLogQueue.injEq, List.not_mem_nil, or_false] at hmem
  rcases hmem with rfl | rfl
  · exact List.mem_singleton.1 hok
  · cases hok

/-! ## Sampling -/

/-- What is left of a list when one element in `rate` is taken, with `counter` elements before it. -/
def everyNth {α : Type*} (rate : Nat) : Nat → List α → List α
  | _, [] => []
  | counter, x :: xs =>
      if (counter + 1) % rate = 0 then x :: everyNth rate (counter + 1) xs
      else everyNth rate (counter + 1) xs

theorem length_everyNth {α : Type*} (rate counter : Nat) (xs : List α) :
    (everyNth rate counter xs).length + counter / rate = (counter + xs.length) / rate := by
  induction xs generalizing counter with
  | nil => exact Nat.zero_add _
  | cons x xs ih =>
      have hsucc : (counter + 1) / rate =
          counter / rate + if (counter + 1) % rate = 0 then 1 else 0 := by
        rw [Nat.succ_div]
        congr 1
        exact if_congr Nat.dvd_iff_mod_eq_zero rfl rfl
      have hrest := ih (counter + 1)
      have hlength : counter + (x :: xs).length = counter + 1 + xs.length := by
        rw [List.length_cons]
        omega
      rw [hlength, ← hrest, everyNth, hsucc]
      split_ifs
      · rw [List.length_cons]
        omega
      · omega

/-- What the setters set. -/
def settings (m : Logger) : LogLevel × (String → Option Bool) × Nat × Bool :=
  (m.m_logLevel, m.m_categoryFilters, m.m_canSampleRate, m.m_skipTesterPresent)

theorem settings_flushEntries (m : Logger) (queue : List TableEntry) (outcomes : List Bool) :
    (m.flushEntries queue outcomes).settings = m.settings := by
  induction queue generalizing m outcomes with
  | nil => rfl
  | cons entry queue ih =>
      rw [flushEntries]
      cases outcomes.headD true with
      | true => exact ih _ _
      | false => exact ih _ _

theorem counter_flushEntries (m : Logger) (queue : List TableEntry) (outcomes : List Bool) :
    (m.flushEntries queue outcomes).m_canFrameCounter = m.m_canFrameCounter := by
  induction queue generalizing m outcomes with
  | nil => rfl
  | cons entry queue ih =>
      rw [flushEntries]
      cases outcomes.headD true with
      | true => exact ih _ _
      | false => exact ih _ _

/-- The frames of a run that are counted. -/
def countedFrame (m : Logger) : LoggerCall → Option CanFrameEntry
  | .logCanFrame e => if m.CountsFrames then some e else none
  | _ => none

def recordedFrame (m : Logger) (c : LoggerCall) : Option CanFrameEntry :=
  match m.admitted c with
  | some (.can e) => some e
  | _ => none

/-- A call that does not set the rate leaves it, and counts the frame that it counts. -/
theorem rate_call (m : Logger) {c : LoggerCall} (hc : ∀ rate, c ≠ .setCanFrameSampleRate rate) :
    (m.call c).m_canSampleRate = m.m_canSampleRate ∧
      (m.call c).m_canFrameCounter = m.m_canFrameCounter + (m.countedFrame c).toList.length := by
  cases c with
  | setCanFrameSampleRate rate => exact absurd rfl (hc rate)
  | setLogLevel | setCategoryEnabled | setSkipTesterPresent => exact ⟨rfl, rfl⟩
  | log | logClientEvent =>
      simp only [call, logClientEvent, log]
      split_ifs <;> exact ⟨rfl, rfl⟩
  | logUdsTransaction e =>
      simp only [call, logUdsTransaction]
      split_ifs <;> exact ⟨rfl, rfl⟩
  | logCanFrame e =>
      rw [call, logCanFrame_eq, countedFrame]
      split_ifs <;> exact ⟨rfl, rfl⟩
  | logSystemMetric e =>
      simp only [call, logSystemMetric]
      split_ifs <;> exact ⟨rfl, rfl⟩
  | logSecurityAudit e =>
      simp only [call, logSecurityAudit]
      split_ifs <;> exact ⟨rfl, rfl⟩
  | flushLogQueue outcomes =>
      refine ⟨?_, m.counter_flushEntries _ outcomes⟩
      exact congrArg (fun settings => settings.2.2.1) (m.settings_flushEntries _ outcomes)

theorem recordedFrame_eq (m : Logger) (c : LoggerCall) :
    m.recordedFrame c = if m.Sampled then m.countedFrame c else none := by
  cases c with
  | logCanFrame e =>
      simp only [recordedFrame, admitted, countedFrame]
      by_cases hcounts : m.CountsFrames <;> by_cases hsampled : m.Sampled <;>
        simp [hcounts, hsampled]
  | log type message details =>
      simp only [recordedFrame, admitted, countedFrame]
      split_ifs <;> rfl
  | logClientEvent event clientInfo =>
      simp only [recordedFrame, admitted, countedFrame]
      split_ifs <;> rfl
  | logUdsTransaction | logSystemMetric | logSecurityAudit =>
      simp only [recordedFrame, admitted, countedFrame]
      split_ifs <;> rfl
  | setLogLevel | setCategoryEnabled | setCanFrameSampleRate | setSkipTesterPresent
  | flushLogQueue => exact (ite_self none).symm

/-- While the rate is not set anew, of the CAN frames that pass the filters every `rate`-th one is
recorded, counted over all levels and from the first frame on; the others leave no trace. -/
theorem recorded_frames (m : Logger) {calls : List LoggerCall}
    (hrate : ∀ rate, .setCanFrameSampleRate rate ∉ calls) :
    let counted := logger.watch countedFrame m calls
    let recorded := logger.watch recordedFrame m calls
    recorded = everyNth m.m_canSampleRate m.m_canFrameCounter counted ∧
      recorded.length + m.m_canFrameCounter / m.m_canSampleRate =
        (m.m_canFrameCounter + counted.length) / m.m_canSampleRate := by
  have hsample : logger.watch recordedFrame m calls =
      everyNth m.m_canSampleRate m.m_canFrameCounter (logger.watch countedFrame m calls) := by
    induction calls generalizing m with
    | nil => rfl
    | cons c calls ih =>
        have hc : ∀ rate, c ≠ .setCanFrameSampleRate rate := fun rate h =>
          hrate rate (h ▸ List.mem_cons_self)
        rcases m.rate_call hc with ⟨hkept, hcounter⟩
        have hrest := ih (m.call c) fun rate h => hrate rate (List.mem_cons_of_mem c h)
        rw [hkept, hcounter] at hrest
        rw [Machine.watch, Machine.watch, recordedFrame_eq]
        change _ ++ logger.watch recordedFrame (m.call c) calls =
          everyNth _ _ (_ ++ logger.watch countedFrame (m.call c) calls)
        rw [hrest]
        -- a frame that is counted is recorded when the counter comes to a multiple of the rate
        cases m.countedFrame c with
        | none =>
            rw [ite_self]
            rfl
        | some e =>
            by_cases hsampled : m.Sampled
            · rw [if_pos hsampled]
              exact (if_pos hsampled).symm
            · rw [if_neg hsampled]
              exact (if_neg hsampled).symm
  refine ⟨hsample, ?_⟩
  rw [hsample]
  exact length_everyNth _ _ _

/-- One frame in three. -/
def oneInThree : Logger :=
  (new.setLogLevel .trace).setCanFrameSampleRate 3

theorem recorded_frames_oneInThree :
    (logger.watch recordedFrame oneInThree
        (List.replicate 7 (.logCanFrame ⟨"RX", 0x7E1, 8, []⟩))).length + 0 / 3 =
      (0 + (logger.watch countedFrame oneInThree
        (List.replicate 7 (.logCanFrame ⟨"RX", 0x7E1, 8, []⟩))).length) / 3 :=
  (recorded_frames oneInThree fun _ hmem =>
    LoggerCall.noConfusion (List.eq_of_mem_replicate hmem)).2

/-! ## Levels -/

/-- Two loggers that differ in their levels, and in what they have written and counted. -/
structure Wordier (m m' : Logger) : Prop where
  level : m.m_logLevel.toNat ≤ m'.m_logLevel.toNat
  filters : m'.m_categoryFilters = m.m_categoryFilters
  skip : m'.m_skipTesterPresent = m.m_skipTesterPresent
  rate : m'.m_canSampleRate = m.m_canSampleRate

/-- The same call, or a level set that is not lower. -/
inductive WordierCall : LoggerCall → LoggerCall → Prop
  | same (c : LoggerCall) : WordierCall c c
  | level {level level' : LogLevel} (h : level.toNat ≤ level'.toNat) :
      WordierCall (.setLogLevel level) (.setLogLevel level')

def IsFrame : TableEntry → Prop
  | .can _ => True
  | _ => False

instance : DecidablePred IsFrame
  | .can _ => isTrue trivial
  | .log _ _ _ | .uds _ | .metric _ | .security _ => isFalse not_false

section

variable {m m' : Logger} {c c' : LoggerCall}

theorem Wordier.shouldLogLevel (h : Wordier m m') {required : LogLevel}
    (hm : m.shouldLogLevel required = true) : m'.shouldLogLevel required = true :=
  decide_eq_true ((of_decide_eq_true hm).trans h.level)

theorem Wordier.shouldLogCategory (h : Wordier m m') (category : String) :
    m'.shouldLogCategory category = m.shouldLogCategory category := by
  rw [Logger.shouldLogCategory, Logger.shouldLogCategory, h.filters]

theorem Wordier.records (h : Wordier m m') {e : UdsTransaction} (hm : m.toDbLogger.Records e) :
    m'.toDbLogger.Records e := by
  rcases hm with ⟨htester, hinfo, hcategory⟩
  refine ⟨fun hsid => ?_, h.shouldLogLevel hinfo, (h.shouldLogCategory "uds").trans hcategory⟩
  exact ⟨h.skip.trans (htester hsid).1, h.shouldLogLevel (htester hsid).2⟩

theorem Wordier.countsFrames (h : Wordier m m') (hm : m.CountsFrames) : m'.CountsFrames :=
  ⟨h.shouldLogLevel hm.1, (h.shouldLogCategory "can").trans hm.2⟩

/-- With a rate of one every frame is recorded. -/
theorem sampled_of_rate_one (h : m.m_canSampleRate = 1) : m.Sampled := by
  rw [Sampled, h]
  exact Nat.mod_one _

/-- What one logger records the wordier one does too, the sampled frames apart. -/
theorem Wordier.admitted (h : Wordier m m') (hc : WordierCall c c') {entry : TableEntry}
    (hentry : m.admitted c = some entry) (hframe : IsFrame entry → m'.m_canSampleRate = 1) :
    m'.admitted c' = some entry := by
  cases hc with
  | level => exact hentry
  | same =>
      -- each filter that lets the call through here does so there; the sampling is off there
      cases c with
      | log type message details =>
          simp only [Logger.admitted] at hentry ⊢
          split_ifs at hentry with hlevel
          rw [if_pos (h.shouldLogLevel hlevel)]
          exact hentry
      | logClientEvent event clientInfo =>
          simp only [Logger.admitted] at hentry ⊢
          split_ifs at hentry with hlevel
          rw [if_pos (h.shouldLogLevel hlevel)]
          exact hentry
      | logUdsTransaction e =>
          simp only [Logger.admitted] at hentry ⊢
          split_ifs at hentry with hrecords
          rw [if_pos (h.records hrecords)]
          exact hentry
      | logCanFrame e =>
          simp only [Logger.admitted] at hentry ⊢
          split_ifs at hentry with hcounts
          rcases Option.some.inj hentry with rfl
          rw [if_pos ⟨h.countsFrames hcounts.1, sampled_of_rate_one (hframe trivial)⟩]
      | logSystemMetric e =>
          simp only [Logger.admitted] at hentry ⊢
          split_ifs at hentry with hlevel
          rw [if_pos ⟨h.shouldLogLevel hlevel.1, (h.shouldLogCategory _).trans hlevel.2⟩]
          exact hentry
      | logSecurityAudit e =>
          simp only [Logger.admitted] at hentry ⊢
          split_ifs at hentry with hlevel
          rw [if_pos ⟨h.shouldLogLevel hlevel.1, (h.shouldLogCategory _).trans hlevel.2⟩]
          exact hentry
      | setLogLevel | setCategoryEnabled | setCanFrameSampleRate | setSkipTesterPresent
      | flushLogQueue => cases hentry

end

inductive IsSetter : LoggerCall → Prop
  | setLogLevel (level : LogLevel) : IsSetter (.setLogLevel level)
  | setCategoryEnabled (category : String) (enabled : Bool) :
      IsSetter (.setCategoryEnabled category enabled)
  | setCanFrameSampleRate (rate : Int) : IsSetter (.setCanFrameSampleRate rate)
  | setSkipTesterPresent (skip : Bool) : IsSetter (.setSkipTesterPresent skip)

theorem settings_call (m : Logger) {c : LoggerCall} (hc : ¬ IsSetter c) :
    (m.call c).settings = m.settings := by
  cases c with
  | setLogLevel | setCategoryEnabled | setCanFrameSampleRate | setSkipTesterPresent =>
      exact absurd (by constructor) hc
  | log | logClientEvent =>
      simp only [call, logClientEvent, log]
      split_ifs <;> rfl
  | logUdsTransaction e =>
      simp only [call, logUdsTransaction]
      split_ifs <;> rfl
  | logCanFrame e =>
      rw [call, logCanFrame_eq]
      split_ifs <;> rfl
  | logSystemMetric e =>
      simp only [call, logSystemMetric]
      split_ifs <;> rfl
  | logSecurityAudit e =>
      simp only [call, logSecurityAudit]
      split_ifs <;> rfl
  | flushLogQueue outcomes => exact m.settings_flushEntries m.m_logQueue outcomes

theorem Wordier.congr {m m' n n' : Logger} (h : Wordier m m') (hn : n.settings = m.settings)
    (hn' : n'.settings = m'.settings) : Wordier n n' := by
  simp only [settings, Prod.mk.injEq] at hn hn'
  rcases hn with ⟨hlevel, hfilters, hrate, hskip⟩
  rcases hn' with ⟨hlevel', hfilters', hrate', hskip'⟩
  refine ⟨?_, ?_, ?_, ?_⟩
  · rw [hlevel, hlevel']
    exact h.level
  · rw [hfilters, hfilters', h.filters]
  · rw [hskip, hskip', h.skip]
  · rw [hrate, hrate', h.rate]

theorem Wordier.call {m m' : Logger} (h : Wordier m m') {c c' : LoggerCall} (hc : WordierCall c c') :
    Wordier (m.call c) (m'.call c') := by
  cases hc with
  | level hlevel => exact ⟨hlevel, h.filters, h.skip, h.rate⟩
  | same =>
      by_cases hset : IsSetter c
      · cases hset with
        | setLogLevel level => exact ⟨Nat.le_refl _, h.filters, h.skip, h.rate⟩
        | setCategoryEnabled category enabled =>
            refine ⟨h.level, ?_, h.skip, h.rate⟩
            funext other
            exact congrArg (fun filters : String → Option Bool =>
              if other = category then some enabled else filters other) h.filters
        | setCanFrameSampleRate rate => exact ⟨h.level, h.filters, h.skip, rfl⟩
        | setSkipTesterPresent skip => exact ⟨h.level, h.filters, rfl, h.rate⟩
      · exact h.congr (m.settings_call hset) (m'.settings_call hset)

/-- No frame is left out by sampling. -/
def Unsampled (m : Logger) (calls : List LoggerCall) : Prop :=
  m.m_canSampleRate = 1 ∧ ∀ rate, .setCanFrameSampleRate rate ∈ calls → rate ≤ 1

theorem Unsampled.tail {m : Logger} {c : LoggerCall} {calls : List LoggerCall}
    (h : Unsampled m (c :: calls)) : Unsampled (m.call c) calls := by
  refine ⟨?_, fun rate hrate => h.2 rate (List.mem_cons_of_mem c hrate)⟩
  by_cases hset : ∃ rate, c = .setCanFrameSampleRate rate
  · rcases hset with ⟨rate, rfl⟩
    have hle := h.2 rate List.mem_cons_self
    change max 1 rate.toNat = 1
    omega
  · rw [(m.rate_call fun rate heq => hset ⟨rate, heq⟩).1]
    exact h.1

/-- What the one accepts in a run, the other accepts too. -/
theorem Wordier.accepts_run {m m' : Logger} (h : Wordier m m') {keep : TableEntry → Bool}
    {calls calls' : List LoggerCall} (hcalls : List.Forall₂ WordierCall calls calls')
    (hkeep : (∀ entry, keep entry = true → ¬ IsFrame entry) ∨ Unsampled m' calls') :
    ((logger.watch Logger.admitted m calls).filter keep).Sublist
      ((logger.watch Logger.admitted m' calls').filter keep) := by
  induction hcalls generalizing m m' with
  | nil => exact List.Sublist.refl []
  | @cons c c' calls calls' hc hcalls ih =>
      have hrest := ih (h.call hc) (hkeep.imp_right Unsampled.tail)
      rw [Machine.watch, Machine.watch, List.filter_append, List.filter_append]
      refine List.Sublist.append ?_ hrest
      cases hentry : m.admitted c with
      | none => exact List.nil_sublist _
      | some entry =>
          by_cases hkept : keep entry = true
          · have hone : IsFrame entry → m'.m_canSampleRate = 1 := fun hframe =>
              hkeep.elim (fun hnone => absurd hframe (hnone entry hkept)) fun hall => hall.1
            rw [h.admitted hc hentry hone]
          · simp only [Option.toList_some, List.filter_cons, hkept, List.filter_nil]
            exact List.nil_sublist _

/-- A higher level never loses an entry: in two runs of the same calls, one of which sets its levels no
lower, what the other accepts is accepted, in the same order.  CAN frames are only compared when no
rate samples them. -/
theorem accepted_mono {calls calls' : List LoggerCall} (h : List.Forall₂ WordierCall calls calls') :
    ((accepted calls).filter (¬ IsFrame ·)).Sublist ((accepted calls').filter (¬ IsFrame ·)) ∧
      ((∀ rate, .setCanFrameSampleRate rate ∈ calls' → rate ≤ 1) →
        (accepted calls).Sublist (accepted calls')) := by
  have hsame : Wordier new new := ⟨Nat.le_refl _, rfl, rfl, rfl⟩
  refine ⟨hsame.accepts_run h (.inl fun entry hentry => by simpa using hentry), fun hrate => ?_⟩
  have hall := @Wordier.accepts_run _ _ hsame (fun _ => true) _ _ h (.inr ⟨rfl, hrate⟩)
  rwa [List.filter_true, List.filter_true] at hall

theorem accepted_mono_trace :
    (accepted [.setLogLevel .warning, .log .debug "a" "", .log .error "b" ""]).Sublist
      (accepted [.setLogLevel .trace, .log .debug "a" "", .log .error "b" ""]) := by
  refine (accepted_mono ?_).2 fun rate hrate => ?_
  · exact .cons (.level (by decide)) (.cons (.same _) (.cons (.same _) .nil))
  · simp only [List.mem_cons, reduceCtorEq, List.not_mem_nil, or_self] at hrate

end Logger
end Server
end TcpCanUds
