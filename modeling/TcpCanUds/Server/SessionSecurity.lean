import TcpCanUds.Lib.PastTime
import TcpCanUds.Server.HandlerSteps

/-!
# SessionSecurity — what holds over whole runs of the request handler

The handler as a machine over its session state, the events its runs are made of (a seed answered,
a key accepted, a switch of the session, a data read), the invariant that guards the session, and when
access is granted.
-/

namespace TcpCanUds
namespace Server
namespace UdsHandler

open Lib

/-! ## The handler as a machine -/

/-- One call of `processRequest`, with what it reads from outside. -/
structure HandlerInput where
  env : HandlerEnv := {}
  req : UDSMessage
  deriving DecidableEq, Repr

/-- `UDS_handler`: from the initial session state, one request after another. -/
def handler : Machine SessionState HandlerInput UDSMessage where
  init := {}
  step s i := processRequest i.env s i.req

abbrev Exchange := HandlerInput × UDSMessage

theorem handler_answers (s : SessionState) (i : HandlerInput) :
    Answers i.env s i.req (handler.step s i).1 (handler.step s i).2 :=
  processRequest_answers i.env s i.req

/-! ## Events -/

def IsRequestSeed (req : UDSMessage) : Prop :=
  req.serviceId = UdsSid.securityAccess ∧ req.subFunction % 2 = 1

instance (req : UDSMessage) : Decidable (IsRequestSeed req) :=
  inferInstanceAs (Decidable (_ ∧ _))

def IsSendKey (req : UDSMessage) : Prop :=
  req.serviceId = UdsSid.securityAccess ∧ req.subFunction % 2 ≠ 1

instance (req : UDSMessage) : Decidable (IsSendKey req) :=
  inferInstanceAs (Decidable (_ ∧ _))

def IsDefaultSwitch (req : UDSMessage) : Prop :=
  req.serviceId = UdsSid.diagnosticSessionControl ∧
    req.subFunction = DiagnosticSession.defaultSession

instance (req : UDSMessage) : Decidable (IsDefaultSwitch req) :=
  inferInstanceAs (Decidable (_ ∧ _))

/-- A sendKey request whose four key bytes are the key of `seed`. -/
def CarriesKey (seed : UInt32) (req : UDSMessage) : Prop :=
  IsSendKey req ∧ 4 ≤ req.payload.length ∧ validateSecurityKey seed (providedKey req) = true

instance (seed : UInt32) (req : UDSMessage) : Decidable (CarriesKey seed req) :=
  inferInstanceAs (Decidable (_ ∧ _ ∧ _))

def SeedAnswered (e : Exchange) : Prop :=
  IsRequestSeed e.1.req ∧ Positive e.2

instance : DecidablePred SeedAnswered :=
  fun _ => inferInstanceAs (Decidable (_ ∧ _))

def KeyAccepted (e : Exchange) : Prop :=
  IsSendKey e.1.req ∧ Positive e.2

instance : DecidablePred KeyAccepted :=
  fun _ => inferInstanceAs (Decidable (_ ∧ _))

/-- A switch to the default session that was accepted. -/
def DefaultSwitch (e : Exchange) : Prop :=
  IsDefaultSwitch e.1.req ∧ Positive e.2

instance : DecidablePred DefaultSwitch :=
  fun _ => inferInstanceAs (Decidable (_ ∧ _))

/-- A switch to the programming or the extended session that was accepted. -/
def UnlockedSwitch (e : Exchange) : Prop :=
  e.1.req.serviceId = UdsSid.diagnosticSessionControl ∧
    (e.1.req.subFunction = DiagnosticSession.programmingSession ∨
      e.1.req.subFunction = DiagnosticSession.extendedDiagnostic) ∧ Positive e.2

instance : DecidablePred UnlockedSwitch :=
  fun _ => inferInstanceAs (Decidable (_ ∧ _))

def DataRead (e : Exchange) : Prop :=
  e.2.serviceId = UdsSid.readDataByIdentifier + UdsSid.positiveResponseMask

instance : DecidablePred DataRead :=
  fun _ => inferInstanceAs (Decidable (_ = _))

/-- A positive answer that needs authentication: a data read, or a switch to the programming or the
extended session. -/
def Granted (e : Exchange) : Prop :=
  DataRead e ∨ UnlockedSwitch e

/-! ## What one exchange tells and does -/

section

variable {env : HandlerEnv} {s s' : SessionState} {req r : UDSMessage}

theorem Answers.seedAnswered_iff (h : Answers env s req s' r) :
    SeedAnswered (⟨env, req⟩, r) ↔ IsRequestSeed req := by
  simp only [SeedAnswered, h.positive_iff, and_iff_left_iff_imp]
  rintro ⟨hsid, hsub⟩
  simp [Accepts, hsid, hsub]

theorem Answers.keyAccepted_iff (h : Answers env s req s' r) :
    KeyAccepted (⟨env, req⟩, r) ↔ CarriesKey s.seed req := by
  simp only [KeyAccepted, CarriesKey, h.positive_iff, and_congr_right_iff]
  rintro ⟨hsid, hsub⟩
  simp [Accepts, hsid, hsub]

/-- The switch to the default session is never refused. -/
theorem Answers.defaultSwitch_iff (h : Answers env s req s' r) :
    DefaultSwitch (⟨env, req⟩, r) ↔ IsDefaultSwitch req := by
  simp only [DefaultSwitch, h.positive_iff, and_iff_left_iff_imp]
  rintro ⟨hsid, hsub⟩
  simp [Accepts, hsid, hsub]

theorem Answers.authenticated_of_unlockedSwitch (h : Answers env s req s' r)
    (hev : UnlockedSwitch (⟨env, req⟩, r)) : s.isAuthenticated = true := by
  simp only [UnlockedSwitch, h.positive_iff] at hev
  rcases hev with ⟨hsid, hsub, hacc⟩
  rcases hsub with hsub | hsub <;> simpa [Accepts, hsid, hsub] using hacc

theorem Answers.session_of_dataRead (h : Answers env s req s' r)
    (hev : DataRead (⟨env, req⟩, r)) :
    s.currentSession ≠ DiagnosticSession.defaultSession := by
  cases h with
  | read hsid hcur hlen hdid hauth => exact hcur
  | defaultSession | unlockedSession | tester | seed | key | reset => simp [DataRead] at hev
  | refused hr => simp [DataRead] at hev

/-- An authenticated tester is not refused by a read for lack of authentication. -/
theorem Answers.not_denied (h : Answers env s req s' r) (hauth : s.isAuthenticated = true) :
    r ≠ makeNegativeResponse env UdsSid.readDataByIdentifier
      NegativeResponseCode.securityAccessDenied := by
  intro hr
  cases h with
  | defaultSession | unlockedSession | read | tester | seed | key | reset =>
      have := congrArg UDSMessage.serviceId hr
      simp at this
  | refused h =>
      have hsid := congrArg UDSMessage.subFunction hr
      have hcode := congrArg UDSMessage.negativeCode hr
      simp only [makeNegativeResponse] at hsid hcode
      subst hcode
      cases h with
      -- of the exits with this code only the two locks are left, and they need `false`
      | sessionLocked _ _ hlocked => simp [hauth] at hlocked
      | readLocked _ _ _ hlocked => simp [hauth] at hlocked

/-- Authentication comes from an accepted key and goes with a switch to the default session. -/
theorem Answers.isAuthenticated_iff (h : Answers env s req s' r) :
    s'.isAuthenticated = true ↔
      KeyAccepted (⟨env, req⟩, r) ∨
        (s.isAuthenticated = true ∧ ¬ DefaultSwitch (⟨env, req⟩, r)) := by
  rw [h.keyAccepted_iff, h.defaultSwitch_iff]
  cases h with
  | defaultSession hsid hsub => simp [CarriesKey, IsSendKey, IsDefaultSwitch, hsid, hsub]
  | unlockedSession hsid hsub hauth =>
      rcases hsub with hsub | hsub <;> simp [CarriesKey, IsSendKey, IsDefaultSwitch, hsid, hsub]
  | read hsid | tester hsid | reset hsid => simp [CarriesKey, IsSendKey, IsDefaultSwitch, hsid]
  | seed hsid hsub => simp [CarriesKey, IsSendKey, IsDefaultSwitch, hsid, hsub]
  | key hsid hsub hlen hkey =>
      simp [CarriesKey, IsSendKey, IsDefaultSwitch, hsid, hsub, hlen, hkey]
  | refused hr =>
      -- a refused request brings no accepted key and is no switch to the default session
      have hacc := hr.not_accepts
      have hkey : ¬ CarriesKey s.seed req := by
        rintro ⟨⟨hsid, hsub⟩, hlen, hkey⟩
        exact hacc (by simp [Accepts, hsid, hlen, hkey])
      have hdef : ¬ IsDefaultSwitch req := by
        rintro ⟨hsid, hsub⟩
        exact hacc (by simp [Accepts, hsid, hsub])
      simp only [hkey, hdef, not_false_eq_true, and_true, false_or]

theorem Answers.seed_eq (h : Answers env s req s' r) :
    s'.seed = if IsRequestSeed req then generateSecuritySeed env else s.seed := by
  cases h with
  | defaultSession hsid | unlockedSession hsid | read hsid | tester hsid | reset hsid =>
      simp [IsRequestSeed, hsid]
  | seed hsid hsub => simp [IsRequestSeed, hsid, hsub]
  | key hsid hsub => simp [IsRequestSeed, hsid, hsub]
  | refused hr =>
      have hno : ¬ IsRequestSeed req := by
        rintro ⟨hsid, hsub⟩
        exact hr.not_accepts (by simp [Accepts, hsid, hsub])
      simp [hno]

end

/-! ## The session invariant -/

/-- The session is a known one, and leaving the default session needs authentication. -/
structure SessionInv (s : SessionState) : Prop where
  known : s.currentSession = DiagnosticSession.defaultSession ∨
    s.currentSession = DiagnosticSession.programmingSession ∨
    s.currentSession = DiagnosticSession.extendedDiagnostic
  guarded : s.currentSession ≠ DiagnosticSession.defaultSession → s.isAuthenticated = true

theorem Answers.sessionInv {env : HandlerEnv} {s s' : SessionState} {req r : UDSMessage}
    (h : Answers env s req s' r) (hinv : SessionInv s) : SessionInv s' := by
  cases h with
  | defaultSession => exact ⟨Or.inl rfl, fun hne => absurd rfl hne⟩
  | unlockedSession hsid hsub hauth => exact ⟨Or.inr hsub, fun _ => hauth⟩
  | key => exact ⟨hinv.known, fun _ => rfl⟩
  | read | tester | seed | reset | refused => exact ⟨hinv.known, hinv.guarded⟩

/-- A session state together with its invariant. -/
structure SafeSession where
  state : SessionState
  inv : SessionInv state

def reached (run : List HandlerInput) : SafeSession where
  state := handler.after run
  inv := handler.after_invariant ⟨Or.inl rfl, fun hne => absurd rfl hne⟩
    (fun s i hinv => (handler_answers s i).sessionInv hinv) run

theorem SafeSession.authenticated_of_dataRead (s : SafeSession) (i : HandlerInput)
    (h : DataRead (i, (handler.step s.state i).2)) : s.state.isAuthenticated = true :=
  s.inv.guarded ((handler_answers s.state i).session_of_dataRead h)

/-- In a safe session the read handler, once entered, never meets its own lock. -/
theorem SafeSession.read_not_locked (s : SafeSession)
    (hgate : refusedInSession s.state UdsSid.readDataByIdentifier = false) :
    s.state.isAuthenticated = true := by
  refine s.inv.guarded ?_
  intro hcur
  simp [refusedInSession, needsSession, hcur] at hgate

/-! ## Access over runs -/

/-- The server is authenticated exactly while a key was accepted and no switch to the default
session was accepted after it. -/
theorem authenticated_iff_since (run : List HandlerInput) :
    (handler.after run).isAuthenticated = true ↔
      Since KeyAccepted DefaultSwitch (handler.history run) := by
  refine handler.history_invariant
    (I := fun s t => s.isAuthenticated = true ↔ Since KeyAccepted DefaultSwitch t) ?_ ?_ run
  · exact iff_of_false (by decide) not_since_nil
  · intro s t i ih
    rw [(handler_answers s i).isAuthenticated_iff, since_snoc, ih]

/-- In every run: the session stays known and guarded, data is only given to an authenticated
tester whose key was accepted after the last switch to the default session, and the read handler
never refuses for lack of authentication. -/
theorem read_only_after_key (run : List HandlerInput) :
    SessionInv (handler.after run) ∧
      (∀ i, DataRead (i, (handler.step (handler.after run) i).2) →
        (handler.after run).isAuthenticated = true ∧
          Since KeyAccepted DefaultSwitch (handler.history run)) ∧
      (∀ i : HandlerInput, i.req.serviceId = UdsSid.readDataByIdentifier →
        refusedInSession (handler.after run) i.req.serviceId = false →
        ¬ (0xF1A0 ≤ requestedDid i.req ∧ (handler.after run).isAuthenticated = false) ∧
          (handler.step (handler.after run) i).2 ≠
            makeNegativeResponse i.env UdsSid.readDataByIdentifier
              NegativeResponseCode.securityAccessDenied) := by
  refine ⟨(reached run).inv, ?_, ?_⟩
  · intro i hread
    have hauth := (reached run).authenticated_of_dataRead i hread
    exact ⟨hauth, (authenticated_iff_since run).1 hauth⟩
  · intro i hsid hgate
    rw [hsid] at hgate
    have hauth : (handler.after run).isAuthenticated = true := (reached run).read_not_locked hgate
    refine ⟨?_, ?_⟩
    · rintro ⟨-, hlocked⟩
      rw [hauth] at hlocked
      cases hlocked
    · intro hdenied
      exact (handler_answers _ i).not_denied hauth hdenied

end UdsHandler
end Server
end TcpCanUds
