import TcpCanUds.Server.SessionSecurity

/-!
# SeedUse — challenges and keys over whole runs

Which seed a run leaves in force, whether a key can be accepted before any seed was answered, and
whether one seed can serve for two keys.  The stored seed starts as `0` and is never taken back, so
both questions have a condition on the requests as their answer.
-/

namespace TcpCanUds
namespace Server
namespace UdsHandler

open Lib

/-! ## The seed in force -/

def nextSeed (seed : UInt32) (i : HandlerInput) : UInt32 :=
  if IsRequestSeed i.req then generateSecuritySeed i.env else seed

/-- The seed a run leaves in force: the last one drawn, the initial `0` before any was. -/
def seedInForce (run : List HandlerInput) : UInt32 :=
  run.foldl nextSeed 0

theorem seed_exec (s : SessionState) (is : List HandlerInput) :
    (handler.exec s is).seed = is.foldl nextSeed s.seed := by
  induction is generalizing s with
  | nil => rfl
  | cons i is ih =>
      rw [List.foldl_cons, Machine.exec, ih, (handler_answers s i).seed_eq]
      rfl

theorem seed_after (run : List HandlerInput) : (handler.after run).seed = seedInForce run :=
  seed_exec {} run

theorem foldl_nextSeed_eq {seed : UInt32} {is : List HandlerInput}
    (h : ∀ i ∈ is, ¬ IsRequestSeed i.req) : is.foldl nextSeed seed = seed := by
  induction is with
  | nil => rfl
  | cons i is ih =>
      rw [List.foldl_cons, nextSeed, if_neg (h i (by simp))]
      exact ih fun j hj => h j (by simp [hj])

theorem once_seedAnswered_trace (s : SessionState) (is : List HandlerInput) :
    Once SeedAnswered (handler.trace s is) ↔ ∃ i ∈ is, IsRequestSeed i.req := by
  induction is generalizing s with
  | nil => simp [Machine.trace, Once]
  | cons i is ih =>
      have hi := (handler_answers s i).seedAnswered_iff
      rw [List.exists_mem_cons_iff, ← ih (handler.step s i).1, ← hi]
      exact List.exists_mem_cons_iff _ _ _

theorem keyAccepted_iff (run : List HandlerInput) (i : HandlerInput) :
    KeyAccepted (i, (handler.step (handler.after run) i).2) ↔
      CarriesKey (seedInForce run) i.req := by
  rw [← seed_after]
  exact (handler_answers _ i).keyAccepted_iff

/-! ## Challenge before key -/

/-- No key is accepted, and the tester is never authenticated, before a seed was answered. -/
def ChallengeBeforeKey (run : List HandlerInput) : Prop :=
  (∀ a e b, handler.history run = a ++ e :: b → KeyAccepted e → Once SeedAnswered a) ∧
    ∀ a b, run = a ++ b → (handler.after a).isAuthenticated = true →
      Once SeedAnswered (handler.history a)

/-- The key of the initial seed `0` is not sent before the first requestSeed. -/
def NoBlindKey (run : List HandlerInput) : Prop :=
  ∀ a i b, run = a ++ i :: b → (∀ j ∈ a, ¬ IsRequestSeed j.req) → ¬ CarriesKey 0 i.req

theorem NoBlindKey.once_seedAnswered {run : List HandlerInput} (h : NoBlindKey run)
    {a b : List Exchange} {e : Exchange} (hrun : handler.history run = a ++ e :: b)
    (hkey : KeyAccepted e) : Once SeedAnswered a := by
  rcases handler.history_eq_append_cons hrun with ⟨is, js, rfl, rfl, he, -⟩
  rw [Machine.history, once_seedAnswered_trace]
  by_contra hno
  have hfree : ∀ j ∈ is, ¬ IsRequestSeed j.req := fun j hj hseed => hno ⟨j, hj, hseed⟩
  refine h is e.1 js rfl hfree ?_
  have hcarries : CarriesKey (seedInForce is) e.1.req := by
    rw [← keyAccepted_iff is e.1, ← he]
    exact hkey
  rwa [seedInForce, foldl_nextSeed_eq hfree] at hcarries

/-- A challenge comes before every key exactly in the runs that do not send the key of the initial
seed before the first requestSeed. -/
theorem challengeBeforeKey_iff_noBlindKey (run : List HandlerInput) :
    ChallengeBeforeKey run ↔ NoBlindKey run := by
  constructor
  · rintro ⟨hkeys, -⟩ a i b rfl hfree hcarries
    have hkey : KeyAccepted (i, (handler.step (handler.after a) i).2) := by
      rwa [keyAccepted_iff, seedInForce, foldl_nextSeed_eq hfree]
    have honce := hkeys _ _ _ (handler.trace_append_cons {} a i b) hkey
    rcases (once_seedAnswered_trace _ _).1 honce with ⟨j, hj, hseed⟩
    exact hfree j hj hseed
  · intro h
    refine ⟨fun a e b hrun hkey => h.once_seedAnswered hrun hkey, ?_⟩
    rintro a b rfl hauth
    -- authentication goes back to an accepted key of the same prefix
    rcases (authenticated_iff_since a).1 hauth with ⟨x, e, y, hxy, hkey, -⟩
    have hprefix : NoBlindKey a := fun c i d hcd => h c i (d ++ b) (by simp [hcd])
    rcases hprefix.once_seedAnswered hxy hkey with ⟨f, hf, hseed⟩
    exact ⟨f, by simp [hxy, hf], hseed⟩

/-- The sendKey `27 02` with the key of the seed `0`. -/
def blindKeyRun : List HandlerInput :=
  [{ req := deserializeUDSMessage {} [0x27, 0x02, 0x00, 0xEF, 0xCD, 0xAB] }]

theorem blindKey_accepted : ¬ ∀ run, ChallengeBeforeKey run := by
  intro h
  rcases h blindKeyRun with ⟨hkeys, -⟩
  exact not_once_nil (hkeys [] _ [] rfl (by decide))

/-! ## One seed, one key -/

/-- Between two accepted keys there is a requestSeed. -/
def SeedSingleUse (run : List HandlerInput) : Prop :=
  ∀ a e b e' c, handler.history run = a ++ e :: (b ++ e' :: c) → KeyAccepted e →
    KeyAccepted e' → Once SeedAnswered b

/-- The key of the seed in force is not sent twice without a requestSeed between. -/
def NoReplay (run : List HandlerInput) : Prop :=
  ∀ a i b j c, run = a ++ i :: (b ++ j :: c) → (∀ k ∈ b, ¬ IsRequestSeed k.req) →
    CarriesKey (seedInForce a) i.req → ¬ CarriesKey (seedInForce a) j.req

/-- A sendKey leaves the seed in force, and so does everything up to the next requestSeed. -/
theorem seedInForce_after_key {a b : List HandlerInput} {i : HandlerInput}
    (hkey : IsSendKey i.req) (hfree : ∀ k ∈ b, ¬ IsRequestSeed k.req) :
    seedInForce (a ++ [i] ++ b) = seedInForce a := by
  rw [seedInForce, List.append_assoc, List.foldl_append]
  refine foldl_nextSeed_eq ?_
  intro k hk
  rcases List.mem_cons.1 hk with rfl | hk
  · exact fun hseed => hkey.2 hseed.2
  · exact hfree k hk

/-- Seeds are used once exactly in the runs that do not send the key of a seed a second time. -/
theorem seedSingleUse_iff_noReplay (run : List HandlerInput) :
    SeedSingleUse run ↔ NoReplay run := by
  constructor
  · rintro hsingle a i b j c rfl hfree hi hj
    have hsecond : CarriesKey (seedInForce (a ++ [i] ++ b)) j.req := by
      rwa [seedInForce_after_key hi.1 hfree]
    rw [← keyAccepted_iff] at hi hsecond
    -- the exchange of `i`, those of `b`, and the exchange of `j`, in the order of the run
    have hrun : handler.history (a ++ i :: (b ++ j :: c)) =
        handler.history a ++ (i, (handler.step (handler.after a) i).2) ::
          (handler.trace (handler.after (a ++ [i])) b ++
            (j, (handler.step (handler.after (a ++ [i] ++ b)) j).2) ::
              handler.trace (handler.after (a ++ [i] ++ (b ++ [j]))) c) := by
      rw [Machine.history, handler.trace_append_cons, handler.trace_append_cons,
        ← Machine.after, ← Machine.after, handler.exec_after, handler.exec_after]
      rfl
    have honce := hsingle _ _ _ _ _ hrun hi hsecond
    rcases (once_seedAnswered_trace _ _).1 honce with ⟨k, hk, hseed⟩
    exact hfree k hk hseed
  · rintro hno x e y e' z hrun he he'
    rcases handler.history_eq_append_cons hrun with ⟨a, js, rfl, -, hr, htail⟩
    rcases handler.trace_eq_append_cons htail with ⟨b, c, rfl, rfl, hr', -⟩
    rw [handler.exec_after] at hr'
    rw [once_seedAnswered_trace]
    -- without a requestSeed between, both keys are measured against the same seed
    by_contra hnone
    have hfree : ∀ k ∈ b, ¬ IsRequestSeed k.req := fun k hk hseed => hnone ⟨k, hk, hseed⟩
    have hi : CarriesKey (seedInForce a) e.1.req := by
      rw [← keyAccepted_iff a e.1, ← hr]
      exact he
    have hj : CarriesKey (seedInForce (a ++ [e.1] ++ b)) e'.1.req := by
      rw [← keyAccepted_iff, ← hr']
      exact he'
    rw [seedInForce_after_key hi.1 hfree] at hj
    exact hno a e.1 b e'.1 c rfl hfree hi hj

/-- Seed `1`, its key, back to the default session, the same key again. -/
def replayRun : List HandlerInput :=
  [{ env := { digest := 1 }, req := deserializeUDSMessage {} [0x27, 0x01] },
    { req := deserializeUDSMessage {} [0x27, 0x02, 0x01, 0xEF, 0xCD, 0xAB] },
    { req := deserializeUDSMessage {} [0x10, 0x01] },
    { req := deserializeUDSMessage {} [0x27, 0x02, 0x01, 0xEF, 0xCD, 0xAB] }]

theorem replayed_key_accepted : ¬ ∀ run, SeedSingleUse run := by
  intro h
  have honce := h replayRun [_] _ [_] _ [] rfl (by decide) (by decide)
  exact absurd honce (by decide)

end UdsHandler
end Server
end TcpCanUds
