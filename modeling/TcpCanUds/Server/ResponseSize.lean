import TcpCanUds.Lib.Decimal
import TcpCanUds.Server.UdsWorker

/-!
# ResponseSize — no response has more than 24 bytes

The longest one reads the list of the supported services: twenty characters behind the two bytes of the
identifier.  Everything else that the handlers put into a response has a fixed size.
-/

namespace TcpCanUds
namespace Server

open Lib

namespace DidDatabase

open UdsHandler (convertVariantToBytes)

/-! ## What the identifiers hold -/

theorem length_database {entry : UInt16 × QVariant} (h : entry ∈ database) :
    (convertVariantToBytes entry.2).length ≤ 20 := by
  have hall : ∀ entry ∈ database, (convertVariantToBytes entry.2).length ≤ 20 := by decide +kernel
  exact hall entry h

theorem length_databaseValue (did : UInt16) :
    (convertVariantToBytes (databaseValue did)).length ≤ 20 := by
  rw [databaseValue]
  cases hfind : database.find? (fun entry => entry.1 = did) with
  | none => exact Nat.zero_le 20
  | some entry => exact length_database (List.mem_of_find?_eq_some hfind)

theorem length_readCanStatus (src : DidSources) :
    (convertVariantToBytes (readCanStatus src)).length ≤ 20 := by
  have htext : ∀ text ∈ ["ACTIVE", "PASSIVE", "BUS_OFF", "STOPPED", "UNKNOWN"],
      (QVariant.toUtf8 text).length ≤ 20 := by decide +kernel
  refine htext _ ?_
  split_ifs <;> simp only [List.mem_cons, true_or, or_true]

theorem length_readSystemUptime (src : DidSources) :
    (convertVariantToBytes (readSystemUptime src)).length ≤ 20 := by
  rw [readSystemUptime]
  cases src.uptime with
  | none => exact Nat.le_of_ble_eq_true rfl
  | some seconds =>
      have hlt : seconds.toNat < 10 ^ (9 + 1) := Nat.lt_trans seconds.toNat_lt (by decide)
      exact (length_decimalBytes_le hlt).trans (by decide)

theorem length_readDynamicValue (src : DidSources) (did : UInt16) :
    (convertVariantToBytes (readDynamicValue src did)).length ≤ 20 := by
  rw [readDynamicValue]
  split_ifs
  · rw [readCpuTemperature]
    cases src.thermalZone <;> exact Nat.le_of_ble_eq_true rfl
  · rw [readCpuLoad]
    cases src.loadAvg <;> exact Nat.le_of_ble_eq_true rfl
  · rw [readMemoryUsage]
    cases src.memInfo with
    | none => exact Nat.le_of_ble_eq_true rfl
    | some sizes =>
        -- both branches hold an `Int`
        dsimp only
        split_ifs <;> exact Nat.le_of_ble_eq_true rfl
  · exact length_readSystemUptime src
  · exact length_readCanStatus src
  · exact Nat.zero_le 20

theorem length_getValue (src : DidSources) (did : UInt16) :
    (convertVariantToBytes (getValue src did)).length ≤ 20 := by
  rw [getValue]
  split_ifs
  · exact length_readDynamicValue src did
  · exact length_databaseValue did

end DidDatabase

/-! ## The responses -/

theorem UdsHandler.Answers.length_payload {env : HandlerEnv} {s s' : SessionState}
    {req r : UDSMessage} (h : Answers env s req s' r) : r.payload.length ≤ 22 := by
  cases h with
  | read =>
      change (bytes16 _ ++ _).length ≤ 22
      rw [List.length_append]
      exact Nat.add_le_add_left (DidDatabase.length_getValue env.sources (requestedDid req)) 2
  | defaultSession | unlockedSession | tester | seed | key | reset => exact Nat.le_of_ble_eq_true rfl
  | refused => exact Nat.zero_le 22

/-- Serialized, the response to any request has at most 24 bytes. -/
theorem UdsWorker.length_response (s : SessionState) (i : WorkerInput) {reply : Reply}
    (h : reply ∈ (worker.step s i).2) : (serializeUDSMessage reply.response).length ≤ 24 := by
  rcases worker_replies s i with ⟨reply', hreply, hresponse⟩
  obtain rfl : reply' = reply := Option.mem_unique hreply h
  rw [hresponse, length_serializeUDSMessage]
  exact Nat.add_le_add_right (worker_answers s i).length_payload 2

end Server
end TcpCanUds
