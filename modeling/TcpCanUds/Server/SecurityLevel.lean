import TcpCanUds.Server.SeedUse

/-!
# SecurityLevel — what the recorded level stands for

A requestSeed records a level computed from its sub-function, a switch to the default session takes it
back, and no function reads it.  So keys are bound to seeds and not to levels, and the level on record
is the one asked for last, whether or not a key came.
-/

namespace TcpCanUds
namespace Server
namespace UdsHandler

open Lib

/-! ## Binding levels to keys -/

/-- The latest requestSeed among the requests. -/
def lastRequestSeed (run : List HandlerInput) : Option HandlerInput :=
  (run.filter fun i => IsRequestSeed i.req).getLast?

/-- An accepted key has the sub-function behind the one its seed was asked with. -/
def KeysBoundToLevel (run : List HandlerInput) : Prop :=
  ∀ a i b, run = a ++ i :: b → KeyAccepted (i, (handler.step (handler.after a) i).2) →
    ∃ j ∈ lastRequestSeed a, j.req.subFunction + 1 = i.req.subFunction

/-- A level is on record only for an authenticated tester. -/
def LevelNeedsKey (run : List HandlerInput) : Prop :=
  ∀ a b, run = a ++ b → (handler.after a).securityLevel ≠ 0 →
    (handler.after a).isAuthenticated = true

/-! ## The level on record -/

def nextLevel (level : UInt8) (i : HandlerInput) : UInt8 :=
  if IsRequestSeed i.req then i.req.subFunction / 2 + 1
  else if IsDefaultSwitch i.req then 0
  else level

/-- The level a run leaves on record: the one of the last requestSeed, `0` behind a switch to the
default session. -/
def levelOnRecord (run : List HandlerInput) : UInt8 :=
  run.foldl nextLevel 0

/-- A key opens by the seed in force, whatever the sub-functions; the level on record is the one asked
for last. -/
structure SeedDecides (run : List HandlerInput) : Prop where
  keys : ∀ a i b, run = a ++ i :: b →
    (KeyAccepted (i, (handler.step (handler.after a) i).2) ↔ CarriesKey (seedInForce a) i.req)
  level : ∀ a b, run = a ++ b → (handler.after a).securityLevel = levelOnRecord a
  asked : ∀ a b, run = a ++ b →
    ((handler.after a).securityLevel ≠ 0 ↔ Since SeedAnswered DefaultSwitch (handler.history a))

section

variable {env : HandlerEnv} {s s' : SessionState} {req r : UDSMessage}

/-- One request moves the level as `nextLevel` says. -/
theorem Answers.securityLevel_eq (h : Answers env s req s' r) :
    s'.securityLevel = nextLevel s.securityLevel ⟨env, req⟩ := by
  rw [nextLevel]
  cases h with
  | defaultSession hsid hsub => simp [IsRequestSeed, IsDefaultSwitch, hsid, hsub]
  | unlockedSession hsid hsub =>
      rcases hsub with hsub | hsub
      · simp [IsRequestSeed, IsDefaultSwitch, hsid, hsub]
      · simp [IsRequestSeed, IsDefaultSwitch, hsid, hsub]
  | read hsid | tester hsid | reset hsid => simp [IsRequestSeed, IsDefaultSwitch, hsid]
  | seed hsid hsub => simp [IsRequestSeed, hsid, hsub]
  | key hsid hsub => simp [IsRequestSeed, IsDefaultSwitch, hsid, hsub]
  | refused hr =>
      -- neither of the two is ever refused
      have hseed : ¬ IsRequestSeed req := by
        rintro ⟨hsid, hsub⟩
        exact hr.not_accepts (by simp [Accepts, hsid, hsub])
      have hswitch : ¬ IsDefaultSwitch req := by
        rintro ⟨hsid, hsub⟩
        exact hr.not_accepts (by simp [Accepts, hsid, hsub])
      rw [if_neg hseed, if_neg hswitch]

end

/-- A level computed from a sub-function is never `0`. -/
theorem askedLevel_ne_zero (sub : UInt8) : sub / 2 + 1 ≠ 0 := by
  intro h
  have hnat := congrArg UInt8.toNat h
  have hlt := sub.toNat_lt
  rw [UInt8.toNat_add, UInt8.toNat_div] at hnat
  change (sub.toNat / 2 + 1) % 256 = 0 at hnat
  omega

theorem nextLevel_ne_zero_iff (level : UInt8) (i : HandlerInput) :
    nextLevel level i ≠ 0 ↔ IsRequestSeed i.req ∨ level ≠ 0 ∧ ¬ IsDefaultSwitch i.req := by
  rw [nextLevel]
  by_cases hseed : IsRequestSeed i.req
  · rw [if_pos hseed]
    exact iff_of_true (askedLevel_ne_zero _) (Or.inl hseed)
  · rw [if_neg hseed, or_iff_right hseed]
    by_cases hswitch : IsDefaultSwitch i.req
    · rw [if_pos hswitch]
      exact iff_of_false (fun h => h rfl) fun h => h.2 hswitch
    · rw [if_neg hswitch, and_iff_left hswitch]

/-! ## Runs -/

theorem securityLevel_after (run : List HandlerInput) :
    (handler.after run).securityLevel = levelOnRecord run := by
  induction run using List.reverseRecOn with
  | nil => rfl
  | append_singleton run i ih =>
      rw [handler.after_snoc, (handler_answers _ i).securityLevel_eq, ih, levelOnRecord,
        levelOnRecord, List.foldl_append]
      rfl

/-- A level is on record exactly while a seed was answered and no switch to the default session came
after it. -/
theorem securityLevel_ne_zero_iff_since (run : List HandlerInput) :
    (handler.after run).securityLevel ≠ 0 ↔
      Since SeedAnswered DefaultSwitch (handler.history run) := by
  refine handler.history_invariant
    (I := fun s t => s.securityLevel ≠ 0 ↔ Since SeedAnswered DefaultSwitch t) ?_ ?_ run
  · exact iff_of_false (fun h => h rfl) not_since_nil
  · intro s t i ih
    have h := handler_answers s i
    rw [h.securityLevel_eq, nextLevel_ne_zero_iff, since_snoc, ← ih, h.seedAnswered_iff,
      h.defaultSwitch_iff]

/-- In every run keys are bound to seeds, and levels to requests for a seed. -/
theorem seedDecides (run : List HandlerInput) : SeedDecides run where
  keys a i _ _ := keyAccepted_iff a i
  level a _ _ := securityLevel_after a
  asked a _ _ := securityLevel_ne_zero_iff_since a

/-- The seed `1` for the sub-function `01`, its key with the sub-function `04`. -/
def crossLevelRun : List HandlerInput :=
  [{ env := { digest := 1 }, req := deserializeUDSMessage {} [0x27, 0x01] },
    { req := deserializeUDSMessage {} [0x27, 0x04, 0x01, 0xEF, 0xCD, 0xAB] }]

/-- The key is accepted, and the level is on record before it comes. -/
theorem level_not_bound : ¬ KeysBoundToLevel crossLevelRun ∧ ¬ LevelNeedsKey crossLevelRun := by
  constructor
  · intro h
    rcases h [_] _ [] rfl (by decide) with ⟨j, hj, hsub⟩
    revert hsub
    rw [← Option.some.inj hj]
    decide
  · intro h
    have hauth := h [_] [_] rfl (by decide)
    exact absurd hauth (by decide)

end UdsHandler
end Server
end TcpCanUds
