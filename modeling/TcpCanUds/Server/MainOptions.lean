import TcpCanUds.Server.LogTables

/-!
# MainOptions — the command line of the server (`main.cpp`), and what it makes of the log

The options are read from left to right, a later one over an earlier one, and configure the logger
before the server starts.  Nothing sets it afterwards, so the options alone decide which transactions of
the UDS worker stand in the database.
-/

namespace TcpCanUds
namespace Server

open Lib

/-! ## Numbers -/

def digitValue (c : Char) : Option Nat :=
  if '0' ≤ c ∧ c ≤ '9' then some (c.toNat - '0'.toNat) else none

/-- The value of a text of decimal digits behind the digits with the value `acc`. -/
def digitsFrom (acc : Nat) : List Char → Option Nat
  | [] => some acc
  | c :: cs => (digitValue c).bind fun d => digitsFrom (acc * 10 + d) cs

def digits : List Char → Option Nat
  | [] => none
  | c :: cs => digitsFrom 0 (c :: cs)

/-- `QChar::isSpace`: the control characters from tab to carriage return, next line, and the separators of
Unicode. -/
def isSpace (c : Char) : Bool :=
  let n := c.toNat
  decide ((0x09 ≤ n ∧ n ≤ 0x0D) ∨ n = 0x20 ∨ n = 0x85 ∨ n = 0xA0 ∨ n = 0x1680 ∨
    (0x2000 ≤ n ∧ n ≤ 0x200A) ∨ n = 0x2028 ∨ n = 0x2029 ∨ n = 0x202F ∨ n = 0x205F ∨ n = 0x3000)

/-- `QString::trimmed` -/
def trimmed (s : List Char) : List Char :=
  ((s.dropWhile isSpace).reverse.dropWhile isSpace).reverse

/-- `QString::toUShort`: `0` for what is no number of sixteen bits. -/
def toUShort (s : String) : UInt16 :=
  let value :=
    match trimmed s.toList with
    | '+' :: cs => digits cs
    | cs => digits cs
  match value with
  | some n => if n < 65536 then UInt16.ofNat n else 0
  | none => 0

/-- `QString::toInt`: `0` for what is no number of 32 bits. -/
def toInt (s : String) : Int :=
  let value : Option Int :=
    match trimmed s.toList with
    | '+' :: cs => (digits cs).map Int.ofNat
    | '-' :: cs => (digits cs).map fun n : Nat => -(Int.ofNat n)
    | cs => (digits cs).map Int.ofNat
  match value with
  | some n => if -2147483648 ≤ n ∧ n < 2147483648 then n else 0
  | none => 0

/-! ## The options -/

structure Options where
  canIface : String := "can0"
  port : UInt16 := 8888
  logLevel : LogLevel := .info
  canSampleRate : Int := 1
  skipTesterPresent : Bool := false
  deriving DecidableEq, Repr

namespace Options

/-- The arguments that take no value; nothing, when the usage is printed and the program ends. -/
def flag (o : Options) (arg : String) : Option Options :=
  if arg = "-q" ∨ arg = "--quiet" then some { o with logLevel := .warning }
  else if arg = "-v" ∨ arg = "--verbose" then some { o with logLevel := .debug }
  else if arg = "--trace" then some { o with logLevel := .trace }
  else if arg = "--skip-tester-present" then some { o with skipTesterPresent := true }
  else if arg = "--stress-mode" then
    some { o with logLevel := .error, skipTesterPresent := true, canSampleRate := 100 }
  else if arg = "-h" ∨ arg = "--help" then none
  -- whatever else is given is passed over, `-p` without a value too
  else some o

/-- The loop over `argv`, from the second argument on. -/
def parseArgs (o : Options) : List String → Option Options
  | [] => some o
  | [arg] => o.flag arg
  | arg :: value :: rest =>
      if arg = "-p" then parseArgs { o with port := toUShort value } rest
      else if arg = "-c" then parseArgs { o with canIface := value } rest
      else if arg = "--can-sample" then parseArgs { o with canSampleRate := toInt value } rest
      else
        match o.flag arg with
        | none => none
        | some o => parseArgs o (value :: rest)

/-- What the options do to the logger before the server starts. -/
def configure (o : Options) : List LoggerCall :=
  [.setLogLevel o.logLevel, .setCanFrameSampleRate o.canSampleRate,
    .setSkipTesterPresent o.skipTesterPresent]

end Options

/-! ## Written and read again -/

/-- An option as it is meant. -/
inductive ServerOption where
  | port (p : UInt16)
  | canIface (name : String)
  | quiet
  | verbose
  | trace
  | canSample (rate : Int32)
  | skipTesterPresent
  | stressMode
  deriving DecidableEq, Repr

namespace ServerOption

def args : ServerOption → List String
  | .port p => ["-p", toString p.toNat]
  | .canIface name => ["-c", name]
  | .quiet => ["--quiet"]
  | .verbose => ["--verbose"]
  | .trace => ["--trace"]
  | .canSample rate => ["--can-sample", toString rate.toInt]
  | .skipTesterPresent => ["--skip-tester-present"]
  | .stressMode => ["--stress-mode"]

def apply (o : Options) : ServerOption → Options
  | .port p => { o with port := p }
  | .canIface name => { o with canIface := name }
  | .quiet => { o with logLevel := .warning }
  | .verbose => { o with logLevel := .debug }
  | .trace => { o with logLevel := .trace }
  | .canSample rate => { o with canSampleRate := rate.toInt }
  | .skipTesterPresent => { o with skipTesterPresent := true }
  | .stressMode => { o with logLevel := .error, skipTesterPresent := true, canSampleRate := 100 }

end ServerOption

/-! ## Decimal texts -/

theorem digitValue_digitChar {d : Nat} (h : d < 10) : digitValue d.digitChar = some d := by
  have all : ∀ k : Fin 10, digitValue k.val.digitChar = some k.val := by decide
  exact all ⟨d, h⟩

theorem digitsFrom_append (acc : Nat) (cs : List Char) (c : Char) :
    digitsFrom acc (cs ++ [c]) =
      (digitsFrom acc cs).bind fun n => (digitValue c).map fun d => n * 10 + d := by
  induction cs generalizing acc with
  | nil => cases h : digitValue c <;> simp [digitsFrom, h]
  | cons x cs ih =>
      rw [List.cons_append, digitsFrom, digitsFrom]
      cases digitValue x with
      | none => rfl
      | some d => exact ih _

/-- The decimal text of a number is read as that number. -/
theorem digitsFrom_toDigits (n : Nat) : digitsFrom 0 (Nat.toDigits 10 n) = some n := by
  induction n using Nat.strongRecOn with
  | ind n ih =>
      rcases Nat.lt_or_ge n 10 with hlt | hge
      · rw [Nat.toDigits_of_lt_base hlt, digitsFrom, digitValue_digitChar hlt]
        simp [digitsFrom]
      · rw [Nat.toDigits_of_base_le (by decide) hge, digitsFrom_append, ih (n / 10) (by omega),
          digitValue_digitChar (Nat.mod_lt n (by decide))]
        simp only [Option.bind_some, Option.map_some, Option.some.injEq]
        omega

theorem digit_of_digitsFrom {acc n : Nat} {cs : List Char} (h : digitsFrom acc cs = some n) {c : Char}
    (hc : c ∈ cs) : '0' ≤ c ∧ c ≤ '9' := by
  induction cs generalizing acc with
  | nil => cases hc
  | cons x cs ih =>
      rw [digitsFrom, Option.bind_eq_some_iff] at h
      rcases h with ⟨d, hd, hrest⟩
      rcases List.mem_cons.1 hc with rfl | hc
      · rw [digitValue] at hd
        split_ifs at hd with hrange
        exact hrange
      · exact ih hrest hc

theorem not_isSpace_of_digit {c : Char} (h : '0' ≤ c ∧ c ≤ '9') : isSpace c = false := by
  have hlow : 48 ≤ c.toNat := h.1
  have hhigh : c.toNat ≤ 57 := h.2
  exact decide_eq_false (by omega)

theorem dropWhile_of_none {p : Char → Bool} {cs : List Char} (h : ∀ c ∈ cs, p c = false) :
    cs.dropWhile p = cs := by
  cases cs with
  | nil => rfl
  | cons c cs => rw [List.dropWhile_cons, h c List.mem_cons_self, if_neg Bool.false_ne_true]

theorem trimmed_of_none {cs : List Char} (h : ∀ c ∈ cs, isSpace c = false) : trimmed cs = cs := by
  have hreverse : ∀ c ∈ cs.reverse, isSpace c = false := fun c hc => h c (List.mem_reverse.1 hc)
  rw [trimmed, dropWhile_of_none h, dropWhile_of_none hreverse, List.reverse_reverse]

/-- The text of a number: digits, and nothing that is taken off or read as a sign. -/
theorem toDigits_text (n : Nat) :
    ∃ c cs, Nat.toDigits 10 n = c :: cs ∧ digits (c :: cs) = some n ∧
      (∀ x ∈ c :: cs, isSpace x = false) ∧ c ≠ '+' ∧ c ≠ '-' := by
  have hvalue := digitsFrom_toDigits n
  cases htext : Nat.toDigits 10 n with
  | nil => exact absurd htext Nat.toDigits_ne_nil
  | cons c cs =>
      rw [htext] at hvalue
      have hdigit : ∀ x ∈ c :: cs, '0' ≤ x ∧ x ≤ '9' := fun x hx => digit_of_digitsFrom hvalue hx
      refine ⟨c, cs, rfl, hvalue, fun x hx => not_isSpace_of_digit (hdigit x hx), ?_, ?_⟩
      · rintro rfl
        exact absurd (hdigit _ List.mem_cons_self).1 (by decide)
      · rintro rfl
        exact absurd (hdigit _ List.mem_cons_self).1 (by decide)

theorem toList_toString (n : Nat) : (toString n).toList = Nat.toDigits 10 n := by
  change (Nat.repr n).toList = _
  rw [Nat.repr_eq_ofList_toDigits, String.toList_ofList]

theorem toUShort_toString (p : UInt16) : toUShort (toString p.toNat) = p := by
  rcases toDigits_text p.toNat with ⟨c, cs, htext, hvalue, hplain, hplus, -⟩
  have hread : (match c :: cs with
      | '+' :: cs => digits cs
      | cs => digits cs) = some p.toNat := by
    split
    · rename_i heq
      exact absurd (List.cons_eq_cons.1 heq).1 hplus
    · exact hvalue
  simp only [toUShort, toList_toString, htext, trimmed_of_none hplain]
  rw [hread]
  simp only [p.toNat_lt, if_true, UInt16.ofNat_toNat]

theorem toInt_toString {i : Int} (hlow : -2147483648 ≤ i) (hhigh : i < 2147483648) :
    toInt (toString i) = i := by
  cases i with
  | ofNat n =>
      rcases toDigits_text n with ⟨c, cs, htext, hvalue, hplain, hplus, hminus⟩
      -- the text begins with a digit, so neither sign is read
      have hread : (match c :: cs with
          | '+' :: cs => (digits cs).map Int.ofNat
          | '-' :: cs => (digits cs).map fun n : Nat => -(Int.ofNat n)
          | cs => (digits cs).map Int.ofNat) = some (Int.ofNat n) := by
        split
        · rename_i heq
          exact absurd (List.cons_eq_cons.1 heq).1 hplus
        · rename_i heq
          exact absurd (List.cons_eq_cons.1 heq).1 hminus
        · rw [hvalue]
          rfl
      have htoString : (toString (Int.ofNat n)).toList = c :: cs := htext ▸ toList_toString n
      simp only [toInt, htoString, trimmed_of_none hplain]
      rw [hread]
      simp only [hlow, hhigh, and_self, if_true]
  | negSucc n =>
      rcases toDigits_text (n + 1) with ⟨c, cs, htext, hvalue, hplain, -, -⟩
      have hplain' : ∀ x ∈ '-' :: c :: cs, isSpace x = false := by
        intro x hx
        rcases List.mem_cons.1 hx with rfl | hx
        · decide
        · exact hplain x hx
      have htoString : (toString (Int.negSucc n)).toList = '-' :: c :: cs := by
        change ("-" ++ toString (n + 1)).toList = _
        rw [String.toList_append, toList_toString, htext]
        rfl
      simp only [toInt, htoString, trimmed_of_none hplain', hvalue, Option.map_some]
      exact if_pos ⟨hlow, hhigh⟩

/-! ## Reading what was written -/

namespace Options

theorem parseArgs_flag (o : Options) {arg : String} (rest : List String) (hport : arg ≠ "-p")
    (hiface : arg ≠ "-c") (hsample : arg ≠ "--can-sample") :
    o.parseArgs (arg :: rest) = (o.flag arg).bind fun o => o.parseArgs rest := by
  cases rest with
  | nil => exact (Option.bind_fun_some _).symm
  | cons value rest =>
      rw [parseArgs, if_neg hport, if_neg hiface, if_neg hsample]
      cases o.flag arg <;> rfl

/-- One option is taken off and applied. -/
theorem parseArgs_option (o : Options) (opt : ServerOption) (rest : List String) :
    o.parseArgs (opt.args ++ rest) = (opt.apply o).parseArgs rest := by
  cases opt with
  | port p =>
      change o.parseArgs ("-p" :: toString p.toNat :: rest) = _
      rw [parseArgs, if_pos rfl, toUShort_toString]
      rfl
  | canIface name =>
      change o.parseArgs ("-c" :: name :: rest) = _
      rw [parseArgs, if_neg (by decide), if_pos rfl]
      rfl
  | canSample rate =>
      change o.parseArgs ("--can-sample" :: toString rate.toInt :: rest) = _
      rw [parseArgs, if_neg (by decide), if_neg (by decide), if_pos rfl,
        toInt_toString rate.le_toInt rate.toInt_lt]
      rfl
  | quiet | verbose | trace | skipTesterPresent | stressMode =>
      exact parseArgs_flag o rest (by decide) (by decide) (by decide)

/-- The options that were written are read again, the last one of a kind wins, and the usage is printed
wherever it is asked for between them. -/
theorem parseArgs_args (o : Options) (opts : List ServerOption) :
    o.parseArgs (opts.flatMap ServerOption.args) = some (opts.foldl ServerOption.apply o) ∧
      ∀ help ∈ ["-h", "--help"], ∀ rest,
        o.parseArgs (opts.flatMap ServerOption.args ++ help :: rest) = none := by
  induction opts generalizing o with
  | nil =>
      refine ⟨rfl, fun help hhelp rest => ?_⟩
      rcases List.mem_pair.1 hhelp with rfl | rfl
      · exact parseArgs_flag o rest (by decide) (by decide) (by decide)
      · exact parseArgs_flag o rest (by decide) (by decide) (by decide)
  | cons opt opts ih =>
      rcases ih (opt.apply o) with ⟨hread, hhelp⟩
      refine ⟨?_, fun help hmem rest => ?_⟩
      · rw [List.flatMap_cons, parseArgs_option, hread]
        rfl
      · rw [List.flatMap_cons, List.append_assoc, parseArgs_option]
        exact hhelp help hmem rest

/-! ## The log of the transactions -/

/-- The options let the transaction into the log. -/
def Records (o : Options) (e : UdsTransaction) : Prop :=
  (e.requestSid = 0x3E → o.skipTesterPresent = false ∧ o.logLevel = .trace) ∧
    LogLevel.info.toNat ≤ o.logLevel.toNat

instance (o : Options) (e : UdsTransaction) : Decidable (o.Records e) :=
  inferInstanceAs (Decidable (_ ∧ _))

def transactionOf : LoggerCall → Option UdsTransaction
  | .logUdsTransaction e => some e
  | _ => none

def recordedTransaction : TableEntry → Option UdsTransaction
  | .uds e => some e
  | _ => none

/-- The logger behind the options. -/
def configured (o : Options) : Logger :=
  Logger.logger.after o.configure

theorem records_iff (o : Options) (e : UdsTransaction) :
    o.configured.toDbLogger.Records e ↔ o.Records e := by
  have htrace : LogLevel.trace.toNat ≤ o.logLevel.toNat ↔ o.logLevel = .trace := by
    cases o.logLevel <;> decide
  have hlevel : ∀ l : LogLevel, o.configured.toDbLogger.shouldLogLevel l = true ↔
      l.toNat ≤ o.logLevel.toNat := fun l => decide_eq_true_iff
  have hcategory : o.configured.toDbLogger.shouldLogCategory "uds" = true := rfl
  rw [DbLogger.Records, Records, hlevel, hlevel, htrace]
  exact and_congr_right' (and_iff_left hcategory)

theorem records_congr {m m' : Logger} (h : m'.settings = m.settings) (e : UdsTransaction) :
    m'.toDbLogger.Records e ↔ m.toDbLogger.Records e := by
  simp only [Logger.settings, Prod.mk.injEq] at h
  rcases h with ⟨hlevel, hfilters, -, hskip⟩
  simp only [DbLogger.Records, DbLogger.shouldLogLevel, DbLogger.shouldLogCategory, Logger.toDbLogger,
    hlevel, hfilters, hskip]
  exact Iff.rfl

/-- The call queues a transaction exactly when it logs one that the filters let in. -/
theorem admitted_uds (m : Logger) (c : LoggerCall) :
    (m.admitted c).bind recordedTransaction =
      (transactionOf c).filter fun e => m.toDbLogger.Records e := by
  cases c with
  | logUdsTransaction e =>
      simp only [Logger.admitted, transactionOf, Option.filter_some]
      by_cases hrecords : m.toDbLogger.Records e
      · rw [if_pos hrecords, if_pos (decide_eq_true hrecords)]
        rfl
      · rw [if_neg hrecords, if_neg (by simpa using hrecords)]
        rfl
  | log | logClientEvent | logCanFrame | logSystemMetric | logSecurityAudit =>
      simp only [Logger.admitted, transactionOf]
      split_ifs <;> rfl
  | setLogLevel | setCategoryEnabled | setCanFrameSampleRate | setSkipTesterPresent
  | flushLogQueue => rfl

/-- While nothing is set, the filters of the beginning decide. -/
theorem recorded_run (m₀ : Logger) {m : Logger} (h : m.settings = m₀.settings) {calls : List LoggerCall}
    (hset : ∀ c ∈ calls, ¬ Logger.IsSetter c) :
    (Logger.logger.watch Logger.admitted m calls).filterMap recordedTransaction =
      (calls.filterMap transactionOf).filter fun e => m₀.toDbLogger.Records e := by
  induction calls generalizing m with
  | nil => rfl
  | cons c calls ih =>
      have hcall := (m.settings_call (hset c List.mem_cons_self)).trans h
      have hrest := ih hcall fun c' hc' => hset c' (List.mem_cons_of_mem c hc')
      have hfirst : (m.admitted c).toList.filterMap recordedTransaction =
          ((transactionOf c).filter fun e => m₀.toDbLogger.Records e).toList := by
        have hsame : (fun e => decide (m.toDbLogger.Records e)) =
            fun e => decide (m₀.toDbLogger.Records e) :=
          funext fun e => decide_eq_decide.2 (records_congr h e)
        rw [← hsame, ← admitted_uds]
        cases m.admitted c with
        | none => rfl
        | some entry => cases hentry : recordedTransaction entry <;> simp [hentry]
      rw [Machine.watch, List.filterMap_append, hfirst]
      change _ ++ (Logger.logger.watch Logger.admitted (m.call c) calls).filterMap _ = _
      rw [hrest]
      cases htransaction : transactionOf c with
      | none => simp [htransaction]
      | some e => by_cases he : m₀.toDbLogger.Records e <;> simp [htransaction, he, Option.filter_some]

/-- The transactions that the UDS worker hands to the logger, oldest first. -/
def transactions (is : List UdsWorker.WorkerInput) : List UdsTransaction :=
  (UdsWorker.worker.history is).filterMap fun e => e.2.map UdsWorker.Reply.transaction

/-- Whatever else is logged between, after a flush the table of transactions has one row for each
request that the UDS worker answered and that the options of the command line let in, in the order of
the answers, and no other. -/
theorem audit_trail (o : Options)
    (is : List UdsWorker.WorkerInput) {calls : List LoggerCall}
    (hset : ∀ c ∈ calls, ¬ Logger.IsSetter c)
    (hcalls : calls.filterMap transactionOf = transactions is) {outcomes : List Bool}
    (hnone : Logger.NoneFails (o.configure ++ calls ++ [.flushLogQueue outcomes])) :
    (Logger.logger.after (o.configure ++ calls ++ [.flushLogQueue outcomes])).tables.uds_transactions =
      ((transactions is).filter fun e => o.Records e).map DbLogger.bindUdsTransaction := by
  have htables := Logger.tables_of_noneFails hnone
  have haccepted : Logger.accepted (o.configure ++ calls) =
      Logger.logger.watch Logger.admitted o.configured calls := rfl
  have hrun := recorded_run o.configured rfl hset
  have hrecords : (fun e => decide (o.configured.toDbLogger.Records e)) =
      fun e => decide (o.Records e) :=
    funext fun e => decide_eq_decide.2 (o.records_iff e)
  rw [hrecords, hcalls] at hrun
  rw [htables, Logger.ofEntries_eq, haccepted, ← hrun, List.map_filterMap]
  refine List.filterMap_congr fun entry _ => ?_
  cases entry <;> rfl

/-- The default session, a tester present and a request for a seed, all over CAN. -/
def threeRequests : List UdsWorker.WorkerInput :=
  [{ source := .can, msg := { UDSMessage.declare {} with serviceId := 0x10, subFunction := 1 } },
    { source := .can, msg := { UDSMessage.declare {} with serviceId := 0x3E, subFunction := 0 } },
    { source := .can, msg := { UDSMessage.declare {} with serviceId := 0x27, subFunction := 1 } }]

/-- Without options the tester present is left out; the other two are recorded in their order. -/
theorem audit_trail_threeRequests :
    let o : Options := {}
    let calls := .log .info "Server" "" ::
      (transactions threeRequests).map LoggerCall.logUdsTransaction
    (Logger.logger.after (o.configure ++ calls ++
        [.flushLogQueue [true, true, true]])).tables.uds_transactions.map UdsRow.request_sid =
      [0x10, 0x27] := by
  intro o calls
  have hset : ∀ c ∈ calls, ¬ Logger.IsSetter c := by
    intro c hc hsetter
    rcases List.mem_cons.1 hc with rfl | hc
    · cases hsetter
    · rcases List.mem_map.1 hc with ⟨e, -, rfl⟩
      cases hsetter
  have hnone : Logger.NoneFails (o.configure ++ calls ++ [.flushLogQueue [true, true, true]]) := by
    intro outcomes hmem ok hok
    rcases List.mem_append.1 hmem with hearlier | hlast
    · rcases List.mem_append.1 hearlier with hconfigure | hcall
      · simp [configure] at hconfigure
      · rcases List.mem_cons.1 hcall with heq | hmapped
        · cases heq
        · rcases List.mem_map.1 hmapped with ⟨e, -, heq⟩
          cases heq
    · cases List.mem_singleton.1 hlast
      exact List.eq_of_mem_replicate (show ok ∈ List.replicate 3 true from hok)
  rw [audit_trail o threeRequests hset rfl hnone]
  decide

end Options
end Server
end TcpCanUds
