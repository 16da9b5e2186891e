import TcpCanUds.Client.DidReading
import TcpCanUds.Lib.Decimal
import TcpCanUds.System.ResponseCodec
import Mathlib.Tactic.IntervalCases

/-!
# DidValues — dynamic values from the server's reader to the client's display

The server encodes a value by the type of its `QVariant`, the client decodes it by the identifier.
Temperature, load and memory usage survive.  The uptime is a `UInt`, which `convertVariantToBytes`
sends as decimal text, and the CAN status is sent as text where the client expects a number.
-/

namespace TcpCanUds
namespace System

open Lib Server UdsHandler Client QByteArray

/-- A read request for one of the dynamic identifiers. -/
structure DynamicRead where
  req : UDSMessage
  long : 2 ≤ req.payload.length
  dynamic : requestedDid req ∈ DidDatabase.dynamicDIDs

/-! ## What the server read -/

/-- The text the client has for a status of `readCanStatus`. -/
def statusText (status : String) : String :=
  if status = "ACTIVE" then canStatusText 0x01
  else if status = "PASSIVE" then canStatusText 0x02
  else if status = "BUS_OFF" then canStatusText 0x03
  else if status = "STOPPED" then canStatusText 0x04
  else canStatusText 0x00

/-- The value of a reader as a reading. -/
def readingOf (did : UInt16) : QVariant → Option DidReading
  | .int v =>
      if did = DidDatabase.didCpuTemperature then some (.cpuTemperature v)
      else if did = DidDatabase.didMemoryUsage then some (.memoryUsage v)
      else if did = DidDatabase.didSystemUptime then some (.systemUptime v.toUInt32)
      else none
  | .uint v => if did = DidDatabase.didSystemUptime then some (.systemUptime v) else none
  | .float bits => if did = DidDatabase.didCpuLoad then some (.cpuLoad bits) else none
  | .string s =>
      if did = DidDatabase.didCanStatus then some (.canStatus (statusText s)) else none
  | .byteArray _ | .invalid => none

/-- The value the server read for the request. -/
def serverReading (src : DidSources) (q : DynamicRead) : Option DidReading :=
  readingOf (requestedDid q.req) (DidDatabase.getValue src (requestedDid q.req))

/-- The value the client shows for the response. -/
def clientReading (env : HandlerEnv) (s : SessionState) (q : DynamicRead)
    (mem : UDSMessage.Memory) : Option DidReading :=
  shownReading (clientView mem (handleReadDataByIdentifier env s q.req).2)

/-! ## From the response to the display -/

/-- The identifier as the client reads it: the two bytes the other way round. -/
def swappedDid (did : UInt16) : UInt16 :=
  word16 (did >>> 8).toUInt8 did.toUInt8

/-- The client decodes the bytes of the value under the swapped identifier. -/
theorem clientReading_eq (env : HandlerEnv) (s : SessionState) (q : DynamicRead)
    (mem : UDSMessage.Memory) :
    clientReading env s q mem =
      decodeDid (swappedDid (requestedDid q.req))
        (convertVariantToBytes (DidDatabase.getValue env.sources (requestedDid q.req))) := by
  have hcontains : DidDatabase.contains (requestedDid q.req) = true := by
    simp [DidDatabase.contains, q.dynamic]
  have hbelow : ¬ (0xF1A0 ≤ requestedDid q.req ∧ ¬ s.isAuthenticated = true) := by
    rintro ⟨hle, -⟩
    have hall : (DidDatabase.dynamicDIDs.all fun did => ¬ 0xF1A0 ≤ did) = true := by decide
    exact of_decide_eq_true (List.all_eq_true.1 hall _ q.dynamic) hle
  have hresp : (handleReadDataByIdentifier env s q.req).2 =
      positiveResponse env UdsSid.readDataByIdentifier 0x00
        (bytes16 (requestedDid q.req) ++
          convertVariantToBytes (DidDatabase.getValue env.sources (requestedDid q.req))) := by
    simp only [handleReadDataByIdentifier, if_neg (Nat.not_lt.2 q.long), hcontains,
      not_true_eq_false, if_false, if_neg hbelow]
  rw [clientReading, hresp]
  generalize requestedDid q.req = did
  generalize convertVariantToBytes _ = data
  have hpos : Positive (positiveResponse env UdsSid.readDataByIdentifier 0x00
      (bytes16 did ++ data)) := by
    simp [Positive]
  rcases (sameMeaning_of_positive mem _ hpos).positive hpos with ⟨hsid, -, hpay, hneg⟩
  rw [shownReading, hsid, hpay, hneg]
  rw [if_neg (by simp), if_pos (by rfl)]
  have hlen : ¬ (positiveResponse env UdsSid.readDataByIdentifier 0x00
      (bytes16 did ++ data)).payload.length < 2 := by
    simp [positiveResponse, bytes16]
  rw [if_neg hlen, swappedDid, word16, UInt16.or_comm]
  rfl

/-! ## Uptime -/

/-- The seconds whose first four decimal digits, as bytes, happen to be their own little-endian
bytes. -/
def selfDecoding : List UInt32 :=
  [809054264, 859387192, 942814265]

theorem word32At_decimalBytes {n : Nat} (h : 100000000 ≤ n) (h' : n < 1000000000) :
    4 ≤ (decimalBytes n).length ∧
      (word32At (decimalBytes n) 0).toNat =
        808464432 + n / 100000 / 1000 + 256 * (n / 100000 / 100 % 10) +
          65536 * (n / 100000 / 10 % 10) + 16777216 * (n / 100000 % 10) := by
  rcases decimalBytes_prefix (n := n) (k := 5) (Nat.le_trans (by decide) h)
    with ⟨tail, htail, -⟩
  rw [show (10 : Nat) ^ 5 = 100000 from rfl] at htail
  rw [htail, decimalBytes_four (n := n / 100000) (by omega) (by omega)]
  refine ⟨by simp, ?_⟩
  simp only [word32At, List.cons_append, Nat.zero_add, byteAt, List.getD_cons_zero,
    List.getD_cons_succ, toNat_word32]
  rw [toNat_digitByte (by omega), toNat_digitByte (by omega), toNat_digitByte (by omega),
    toNat_digitByte (by omega)]
  omega

/-- The first four bytes of a decimal text, read as a word, lie between `0000` and `9999`. -/
theorem word32At_decimalBytes_bounds {n : Nat} (h : 4 ≤ (decimalBytes n).length) :
    808464432 ≤ (word32At (decimalBytes n) 0).toNat ∧
      (word32At (decimalBytes n) 0).toNat ≤ 960051513 := by
  have digit : ∀ i < 4, 48 ≤ (byteAt (decimalBytes n) i).toNat ∧
      (byteAt (decimalBytes n) i).toNat ≤ 57 := by
    intro i hi
    have hi' : i < (decimalBytes n).length := by omega
    refine digit_of_mem_decimalBytes (n := n) ?_
    rw [byteAt, List.getD_eq_getElem _ _ hi']
    exact List.getElem_mem hi'
  have h₀ := digit 0 (by decide)
  have h₁ := digit 1 (by decide)
  have h₂ := digit 2 (by decide)
  have h₃ := digit 3 (by decide)
  rw [word32At, toNat_word32]
  simp only [Nat.zero_add]
  omega

/-- The nine-digit numbers whose first four digits, as ASCII bytes, make up the number. -/
theorem selfDecoding_digits {v r d₀ d₁ d₂ d₃ : Nat} (h₁ : d₁ ≤ 9) (h₂ : d₂ ≤ 9) (hr : r < 100000)
    (h₀ : d₀ ≤ 9) (h₃ : d₃ ≤ 9) (hv : v = 100000 * (1000 * d₀ + 100 * d₁ + 10 * d₂ + d₃) + r)
    (hword : v = 808464432 + d₀ + 256 * d₁ + 65536 * d₂ + 16777216 * d₃) :
    v = 809054264 ∨ v = 859387192 ∨ v = 942814265 := by
  -- the last of the four digits fixes the first, and both leave few values for the second
  interval_cases d₃ <;> interval_cases d₀ <;>
    first
    | omega
    | interval_cases d₁ <;> omega

/-- Decoding the decimal text of the seconds as a word gives them back for three values only. -/
theorem uptime_decodes_iff (v : UInt32) :
    (4 ≤ (decimalBytes v.toNat).length ∧ word32At (decimalBytes v.toNat) 0 = v) ↔
      v ∈ selfDecoding := by
  constructor
  · rintro ⟨hlen, hword⟩
    have hbounds := word32At_decimalBytes_bounds hlen
    rw [hword] at hbounds
    have hvalue := (word32At_decimalBytes (n := v.toNat) (by omega) (by omega)).2
    rw [hword] at hvalue
    -- the bytes are the first four of the nine digits: one equation in these digits
    have hsplit : v.toNat = 100000 * (v.toNat / 100000) + v.toNat % 100000 := by omega
    have hfour : v.toNat / 100000 < 10000 := by omega
    generalize v.toNat / 100000 = m at hsplit hfour hvalue
    have hdigits : m = 1000 * (m / 1000) + 100 * (m / 100 % 10) + 10 * (m / 10 % 10) + m % 10 := by
      have h₁ : m / 100 / 10 = m / 1000 := Nat.div_div_eq_div_mul m 100 10
      have h₂ : m / 10 / 10 = m / 100 := Nat.div_div_eq_div_mul m 10 10
      omega
    rw [hdigits] at hsplit
    have hv := selfDecoding_digits (by omega) (by omega) (Nat.mod_lt _ (by decide)) (by omega)
      (by omega) hsplit hvalue
    simp only [selfDecoding, List.mem_cons, List.not_mem_nil, or_false, ← UInt32.toNat_inj]
    exact hv
  · -- the three values are checked one by one
    intro hmem
    have hrange : 100000000 ≤ v.toNat ∧ v.toNat < 1000000000 ∧
        808464432 + v.toNat / 100000 / 1000 + 256 * (v.toNat / 100000 / 100 % 10) +
          65536 * (v.toNat / 100000 / 10 % 10) + 16777216 * (v.toNat / 100000 % 10) =
            v.toNat := by
      have hall : (selfDecoding.all fun w => 100000000 ≤ w.toNat ∧ w.toNat < 1000000000 ∧
          808464432 + w.toNat / 100000 / 1000 + 256 * (w.toNat / 100000 / 100 % 10) +
            65536 * (w.toNat / 100000 / 10 % 10) + 16777216 * (w.toNat / 100000 % 10) =
              w.toNat) = true := by decide
      exact of_decide_eq_true (List.all_eq_true.1 hall v hmem)
    rcases hrange with ⟨hlow, hhigh, hvalue⟩
    rcases word32At_decimalBytes hlow hhigh with ⟨hlen, hword⟩
    exact ⟨hlen, UInt32.toNat_inj.1 (hword.trans hvalue)⟩

/-! ## All five values -/

/-- No status text is found in the output of `ip`, and the server reads `UNKNOWN`. -/
def StatusUnknown (src : DidSources) : Prop :=
  ∀ text ∈ ["ERROR-ACTIVE", "ERROR-PASSIVE", "BUS-OFF", "STOPPED"],
    DidDatabase.outputContains src text = false

/-- The client shows the value the server read. -/
def Survives (env : HandlerEnv) (s : SessionState) (q : DynamicRead)
    (mem : UDSMessage.Memory) : Prop :=
  ∃ v, serverReading env.sources q = some v ∧ clientReading env s q mem = some v

/-- The values that client and server write down the same way. -/
def SameEncoding (src : DidSources) (did : UInt16) : Prop :=
  (did = DidDatabase.didSystemUptime → ∀ v ∈ src.uptime, v ∈ selfDecoding) ∧
    (did = DidDatabase.didCanStatus → StatusUnknown src)

/-- What both sides make of the value a reader returns for `did`. -/
def DecodesTo (did : UInt16) (value : QVariant) : Prop :=
  ∃ v, readingOf did value = some v ∧
    decodeDid (swappedDid did) (convertVariantToBytes value) = some v

theorem decodesTo_iff {did : UInt16} {value : QVariant} :
    DecodesTo did value ↔ (readingOf did value).isSome ∧
      decodeDid (swappedDid did) (convertVariantToBytes value) = readingOf did value := by
  constructor
  · rintro ⟨v, hserver, hclient⟩
    exact ⟨by rw [hserver]; rfl, hclient.trans hserver.symm⟩
  · rintro ⟨hsome, hclient⟩
    rcases Option.isSome_iff_exists.1 hsome with ⟨v, hserver⟩
    exact ⟨v, hserver, hclient.trans hserver⟩

instance (did : UInt16) (value : QVariant) : Decidable (DecodesTo did value) :=
  decidable_of_iff _ decodesTo_iff.symm

theorem word32At_bytes32_toInt32 (v : Int32) : (word32At (bytes32 v.toUInt32) 0).toInt32 = v := by
  rw [word32At_bytes32, Int32.toInt32_toUInt32]

theorem decodes_cpuTemperature (src : DidSources) :
    DecodesTo DidDatabase.didCpuTemperature (DidDatabase.readCpuTemperature src) := by
  rw [DidDatabase.readCpuTemperature]
  cases src.thermalZone with
  | none => exact ⟨_, rfl, by decide⟩
  | some t =>
      refine ⟨.cpuTemperature (t / 1000), rfl, ?_⟩
      exact congrArg (fun v => some (DidReading.cpuTemperature v)) (word32At_bytes32_toInt32 _)

theorem decodes_cpuLoad (src : DidSources) :
    DecodesTo DidDatabase.didCpuLoad (DidDatabase.readCpuLoad src) := by
  rw [DidDatabase.readCpuLoad]
  cases src.loadAvg with
  | none => exact ⟨_, rfl, by decide⟩
  | some bits =>
      refine ⟨.cpuLoad bits, rfl, ?_⟩
      exact congrArg (fun v => some (DidReading.cpuLoad v)) (word32At_bytes32 bits)

theorem decodes_int_memoryUsage (v : Int32) :
    DecodesTo DidDatabase.didMemoryUsage (.int v) :=
  ⟨.memoryUsage v, rfl,
    congrArg (fun v => some (DidReading.memoryUsage v)) (word32At_bytes32_toInt32 v)⟩

theorem decodes_memoryUsage (src : DidSources) :
    DecodesTo DidDatabase.didMemoryUsage (DidDatabase.readMemoryUsage src) := by
  rw [DidDatabase.readMemoryUsage]
  split
  · split <;> exact decodes_int_memoryUsage _
  · exact decodes_int_memoryUsage 0

/-- The uptime goes out as text and survives where text and word agree. -/
theorem decodes_systemUptime_iff (src : DidSources) :
    DecodesTo DidDatabase.didSystemUptime (DidDatabase.readSystemUptime src) ↔
      ∀ v ∈ src.uptime, v ∈ selfDecoding := by
  rw [DidDatabase.readSystemUptime]
  cases src.uptime with
  | none => exact iff_of_true ⟨_, rfl, by decide⟩ (by simp)
  | some seconds =>
      have hdecode : decodeDid (swappedDid DidDatabase.didSystemUptime)
          (convertVariantToBytes (.uint seconds)) =
            if 4 ≤ (decimalBytes seconds.toNat).length then
              some (.systemUptime (word32At (decimalBytes seconds.toNat) 0)) else none := rfl
      simp only [Option.mem_some_iff, forall_eq', ← uptime_decodes_iff, DecodesTo, hdecode]
      constructor
      · rintro ⟨v, hv, hsome⟩
        obtain rfl : DidReading.systemUptime seconds = v := Option.some.inj hv
        split_ifs at hsome with hlen
        exact ⟨hlen, by simpa using hsome⟩
      · rintro ⟨hlen, hword⟩
        exact ⟨.systemUptime seconds, rfl, by rw [if_pos hlen, hword]⟩

/-- The first letter of a status is none of the client's numbers. -/
theorem decodes_canStatus_iff (src : DidSources) :
    DecodesTo DidDatabase.didCanStatus (DidDatabase.readCanStatus src) ↔ StatusUnknown src := by
  rw [DidDatabase.readCanStatus]
  split_ifs with h₁ h₂ h₃ h₄
  · exact iff_of_false (by decide) fun h => by simp [h "ERROR-ACTIVE"] at h₁
  · exact iff_of_false (by decide) fun h => by simp [h "ERROR-PASSIVE"] at h₂
  · exact iff_of_false (by decide) fun h => by simp [h "BUS-OFF"] at h₃
  · exact iff_of_false (by decide) fun h => by simp [h "STOPPED"] at h₄
  · refine iff_of_true (by decide) ?_
    simp [StatusUnknown, h₁, h₂, h₃, h₄]

/-- A dynamic value survives the way exactly where the two encodings agree: always for
temperature, load and memory usage, for three values of the uptime, for the unknown CAN status. -/
theorem survives_iff (env : HandlerEnv) (s : SessionState) (q : DynamicRead)
    (mem : UDSMessage.Memory) :
    Survives env s q mem ↔ SameEncoding env.sources (requestedDid q.req) := by
  have hmem := q.dynamic
  simp only [Survives, clientReading_eq, serverReading, DidDatabase.getValue, hmem, if_true]
  change DecodesTo _ _ ↔ _
  simp only [DidDatabase.dynamicDIDs, List.mem_cons, List.not_mem_nil, or_false] at hmem
  rcases hmem with hdid | hdid | hdid | hdid | hdid <;> rw [hdid]
  · refine iff_of_true (decodes_cpuTemperature env.sources) ?_
    exact ⟨fun h => absurd h (by decide), fun h => absurd h (by decide)⟩
  · refine iff_of_true (decodes_cpuLoad env.sources) ?_
    exact ⟨fun h => absurd h (by decide), fun h => absurd h (by decide)⟩
  · refine iff_of_true (decodes_memoryUsage env.sources) ?_
    exact ⟨fun h => absurd h (by decide), fun h => absurd h (by decide)⟩
  · refine (decodes_systemUptime_iff env.sources).trans ⟨fun h => ?_, fun h => h.1 rfl⟩
    exact ⟨fun _ => h, fun heq => absurd heq (by decide)⟩
  · refine (decodes_canStatus_iff env.sources).trans ⟨fun h => ?_, fun h => h.2 rfl⟩
    exact ⟨fun heq => absurd heq (by decide), fun _ => h⟩

def uptimeRead : DynamicRead where
  req := Server.deserializeUDSMessage {} [0x22, 0x00, 0x93, 0xCC]
  long := by decide
  dynamic := by decide

/-- After an hour of uptime the client shows the word of the text `3600`. -/
theorem uptime_garbled :
    ¬ ∀ (env : HandlerEnv) (s : SessionState) (q : DynamicRead) (mem : UDSMessage.Memory),
      Survives env s q mem := by
  intro h
  rcases h { sources := { uptime := some 3600 } } {} uptimeRead {} with ⟨v, hserver, hclient⟩
  have hreading : serverReading { uptime := some 3600 } uptimeRead =
      some (.systemUptime 3600) := by decide
  rw [hreading] at hserver
  rw [clientReading_eq, ← hserver] at hclient
  exact absurd hclient (by decide)

end System
end TcpCanUds
