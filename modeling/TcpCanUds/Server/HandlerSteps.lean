import TcpCanUds.Server.UdsHandler
import TcpCanUds.Lib.Machine
import Mathlib.Tactic.SplitIfs

/-!
# HandlerSteps — every exit of the request handler

`Refuses` lists the exits of `processRequest` that give a negative response and `Answers` adds the
ones that give a positive response, each with its guards and its effect on the session state.
`processRequest_answers` proves that one of them describes every call, so later invariants are case
analyses over `Answers` and never unfold the handlers.
-/

namespace TcpCanUds
namespace Server
namespace UdsHandler

/-! ## The exits -/

/-- The exits with a negative response, with the code each one sends. -/
inductive Refuses (s : SessionState) (req : UDSMessage) : UInt8 → Prop
  -- the session test at the head of `processRequest`
  | wrongSession (hsid : needsSession req.serviceId)
      (hcur : s.currentSession = DiagnosticSession.defaultSession) :
      Refuses s req NegativeResponseCode.subFunctionNotSupportedInActiveSession
  -- `10 02` and `10 03` without authentication, and any session that is none of the three
  | sessionLocked (hsid : req.serviceId = UdsSid.diagnosticSessionControl)
      (hsub : req.subFunction = DiagnosticSession.programmingSession ∨
        req.subFunction = DiagnosticSession.extendedDiagnostic)
      (hauth : s.isAuthenticated = false) :
      Refuses s req NegativeResponseCode.securityAccessDenied
  | sessionUnknown (hsid : req.serviceId = UdsSid.diagnosticSessionControl)
      (h₁ : req.subFunction ≠ DiagnosticSession.defaultSession)
      (h₂ : req.subFunction ≠ DiagnosticSession.programmingSession)
      (h₃ : req.subFunction ≠ DiagnosticSession.extendedDiagnostic) :
      Refuses s req NegativeResponseCode.subFunctionNotSupported
  -- the read handler, its tests in the order it makes them
  | readTooShort (hsid : req.serviceId = UdsSid.readDataByIdentifier)
      (hlen : req.payload.length < 2) :
      Refuses s req NegativeResponseCode.incorrectMessageLength
  | readUnknown (hsid : req.serviceId = UdsSid.readDataByIdentifier)
      (hdid : DidDatabase.contains (requestedDid req) = false) :
      Refuses s req NegativeResponseCode.requestOutOfRange
  | readLocked (hsid : req.serviceId = UdsSid.readDataByIdentifier)
      (hcur : s.currentSession ≠ DiagnosticSession.defaultSession)
      (hdid : 0xF1A0 ≤ requestedDid req) (hauth : s.isAuthenticated = false) :
      Refuses s req NegativeResponseCode.securityAccessDenied
  | testerUnknown (hsid : req.serviceId = UdsSid.testerPresent) (hsub : req.subFunction ≠ 0x00) :
      Refuses s req NegativeResponseCode.subFunctionNotSupported
  -- a key that is cut short, and one that does not fit the stored seed
  | keyTooShort (hsid : req.serviceId = UdsSid.securityAccess)
      (hsub : req.subFunction % 2 ≠ 1) (hlen : req.payload.length < 4) :
      Refuses s req NegativeResponseCode.incorrectMessageLength
  | keyInvalid (hsid : req.serviceId = UdsSid.securityAccess) (hsub : req.subFunction % 2 ≠ 1)
      (hkey : validateSecurityKey s.seed (providedKey req) = false) :
      Refuses s req NegativeResponseCode.invalidKey
  | resetUnknown (hsid : req.serviceId = UdsSid.ecuReset) (h₁ : req.subFunction ≠ 0x01)
      (h₂ : req.subFunction ≠ 0x02) (h₃ : req.subFunction ≠ 0x03) :
      Refuses s req NegativeResponseCode.subFunctionNotSupported
  | notSupported (h₁ : req.serviceId ≠ UdsSid.diagnosticSessionControl)
      (h₂ : req.serviceId ≠ UdsSid.readDataByIdentifier)
      (h₃ : req.serviceId ≠ UdsSid.testerPresent) (h₄ : req.serviceId ≠ UdsSid.securityAccess)
      (h₅ : req.serviceId ≠ UdsSid.ecuReset) :
      Refuses s req NegativeResponseCode.serviceNotSupported

/-- All exits: from a session state and a request to the next state and the response. -/
inductive Answers (env : HandlerEnv) (s : SessionState) (req : UDSMessage) :
    SessionState → UDSMessage → Prop
  | defaultSession (hsid : req.serviceId = UdsSid.diagnosticSessionControl)
      (hsub : req.subFunction = DiagnosticSession.defaultSession) :
      Answers env s req
        { s with
          currentSession := DiagnosticSession.defaultSession
          isAuthenticated := false
          securityLevel := 0 }
        (positiveResponse env UdsSid.diagnosticSessionControl req.subFunction [0x00])
  | unlockedSession (hsid : req.serviceId = UdsSid.diagnosticSessionControl)
      (hsub : req.subFunction = DiagnosticSession.programmingSession ∨
        req.subFunction = DiagnosticSession.extendedDiagnostic)
      (hauth : s.isAuthenticated = true) :
      Answers env s req { s with currentSession := req.subFunction }
        (positiveResponse env UdsSid.diagnosticSessionControl req.subFunction [0x00])
  | read (hsid : req.serviceId = UdsSid.readDataByIdentifier)
      (hcur : s.currentSession ≠ DiagnosticSession.defaultSession)
      (hlen : 2 ≤ req.payload.length) (hdid : DidDatabase.contains (requestedDid req) = true)
      (hauth : requestedDid req < 0xF1A0 ∨ s.isAuthenticated = true) :
      Answers env s req s
        (positiveResponse env UdsSid.readDataByIdentifier 0x00
          (Lib.bytes16 (requestedDid req) ++
            convertVariantToBytes (DidDatabase.getValue env.sources (requestedDid req))))
  | tester (hsid : req.serviceId = UdsSid.testerPresent) (hsub : req.subFunction = 0x00) :
      Answers env s req s (positiveResponse env UdsSid.testerPresent 0x00 [])
  | seed (hsid : req.serviceId = UdsSid.securityAccess) (hsub : req.subFunction % 2 = 1) :
      Answers env s req
        { s with
          seed := generateSecuritySeed env
          securityLevel := req.subFunction / 2 + 1 }
        (positiveResponse env UdsSid.securityAccess req.subFunction
          (Lib.bytes32 (generateSecuritySeed env)))
  | key (hsid : req.serviceId = UdsSid.securityAccess) (hsub : req.subFunction % 2 ≠ 1)
      (hlen : 4 ≤ req.payload.length)
      (hkey : validateSecurityKey s.seed (providedKey req) = true) :
      Answers env s req { s with isAuthenticated := true }
        (positiveResponse env UdsSid.securityAccess req.subFunction [])
  | reset (hsid : req.serviceId = UdsSid.ecuReset)
      (hsub : req.subFunction = 0x01 ∨ req.subFunction = 0x02 ∨ req.subFunction = 0x03) :
      Answers env s req s
        (positiveResponse env UdsSid.ecuReset req.subFunction
          (Lib.bytes32 (env.startupNow.toUInt64 &&& 0xFFFFFFFF).toUInt32))
  | refused {nrc : UInt8} (h : Refuses s req nrc) :
      Answers env s req s (makeNegativeResponse env req.serviceId nrc)

/-! ## Every call takes one of the exits -/

section

variable (env : HandlerEnv) (s : SessionState) (req : UDSMessage)

theorem handleDiagnosticSessionControl_answers
    (hsid : req.serviceId = UdsSid.diagnosticSessionControl) :
    Answers env s req (handleDiagnosticSessionControl env s req).1
      (handleDiagnosticSessionControl env s req).2 := by
  unfold handleDiagnosticSessionControl
  simp only
  split_ifs with h₁ h₂ ha h₃ ha
  · exact .defaultSession hsid h₁
  · have hswitch : Answers env s req _ _ := .unlockedSession hsid (Or.inl h₂) ha
    rwa [h₂] at hswitch ⊢
  · rw [← hsid]
    exact .refused (.sessionLocked hsid (Or.inl h₂) (by simpa using ha))
  · have hswitch : Answers env s req _ _ := .unlockedSession hsid (Or.inr h₃) ha
    rwa [h₃] at hswitch ⊢
  · rw [← hsid]
    exact .refused (.sessionLocked hsid (Or.inr h₃) (by simpa using ha))
  · rw [← hsid]
    exact .refused (.sessionUnknown hsid h₁ h₂ h₃)

theorem handleReadDataByIdentifier_answers
    (hsid : req.serviceId = UdsSid.readDataByIdentifier)
    (hcur : s.currentSession ≠ DiagnosticSession.defaultSession) :
    Answers env s req (handleReadDataByIdentifier env s req).1
      (handleReadDataByIdentifier env s req).2 := by
  unfold handleReadDataByIdentifier
  simp only
  split_ifs with hlen hdid hlock
  · rw [← hsid]
    exact .refused (.readTooShort hsid hlen)
  · rw [← hsid]
    exact .refused (.readLocked hsid hcur hlock.1 (by simpa using hlock.2))
  · refine .read hsid hcur (Nat.le_of_not_lt hlen) hdid ?_
    by_cases hauth : s.isAuthenticated = true
    · exact Or.inr hauth
    · exact Or.inl (UInt16.not_le.1 fun hle => hlock ⟨hle, hauth⟩)
  · rw [← hsid]
    exact .refused (.readUnknown hsid (by simpa using hdid))

theorem handleTesterPresent_answers (hsid : req.serviceId = UdsSid.testerPresent) :
    Answers env s req (handleTesterPresent env s req).1 (handleTesterPresent env s req).2 := by
  unfold handleTesterPresent
  split_ifs with hsub
  · rw [← hsid]
    exact .refused (.testerUnknown hsid hsub)
  · exact .tester hsid (not_not.1 hsub)

theorem handleSecurityAccess_answers (hsid : req.serviceId = UdsSid.securityAccess) :
    Answers env s req (handleSecurityAccess env s req).1 (handleSecurityAccess env s req).2 := by
  unfold handleSecurityAccess
  simp only
  split_ifs with hsub hlen hkey
  · exact .seed hsid hsub
  · rw [← hsid]
    exact .refused (.keyTooShort hsid hsub hlen)
  · exact .key hsid hsub (Nat.le_of_not_lt hlen) hkey
  · rw [← hsid]
    exact .refused (.keyInvalid hsid hsub (by simpa using hkey))

theorem handleECUReset_answers (hsid : req.serviceId = UdsSid.ecuReset) :
    Answers env s req (handleECUReset env s req).1 (handleECUReset env s req).2 := by
  unfold handleECUReset
  simp only
  split_ifs with hsub
  · rw [← hsid]
    exact .refused (.resetUnknown hsid hsub.1 hsub.2.1 hsub.2.2)
  · refine .reset hsid ?_
    by_contra hno
    simp only [not_or] at hno
    exact hsub hno

/-- Every call of `processRequest` takes one of the listed exits. -/
theorem processRequest_answers :
    Answers env s req (processRequest env s req).1 (processRequest env s req).2 := by
  unfold processRequest
  simp only
  split_ifs with hgate hctl hread htest hsec hreset
  · simp only [refusedInSession, decide_eq_true_eq] at hgate
    exact .refused (.wrongSession hgate.2.2.2.2 hgate.2.2.2.1)
  · exact handleDiagnosticSessionControl_answers env s req hctl
  · refine handleReadDataByIdentifier_answers env s req hread ?_
    intro hcur
    -- in the default session the test at the head has refused the read already
    refine hgate ?_
    simp only [refusedInSession, needsSession, hread, hcur]
    decide
  · exact handleTesterPresent_answers env s req htest
  · exact handleSecurityAccess_answers env s req hsec
  · exact handleECUReset_answers env s req hreset
  · exact .refused (.notSupported hctl hread htest hsec hreset)

end

/-! ## What the response tells -/

/-- The requests the handler answers positively in session state `s`. -/
def Accepts (s : SessionState) (req : UDSMessage) : Prop :=
  (req.serviceId = UdsSid.diagnosticSessionControl ∧
      (req.subFunction = DiagnosticSession.defaultSession ∨
        (req.subFunction = DiagnosticSession.programmingSession ∨
          req.subFunction = DiagnosticSession.extendedDiagnostic) ∧ s.isAuthenticated = true)) ∨
    (req.serviceId = UdsSid.readDataByIdentifier ∧
      s.currentSession ≠ DiagnosticSession.defaultSession ∧ 2 ≤ req.payload.length ∧
      DidDatabase.contains (requestedDid req) = true ∧
      (requestedDid req < 0xF1A0 ∨ s.isAuthenticated = true)) ∨
    (req.serviceId = UdsSid.testerPresent ∧ req.subFunction = 0x00) ∨
    (req.serviceId = UdsSid.securityAccess ∧
      (req.subFunction % 2 = 1 ∨
        4 ≤ req.payload.length ∧ validateSecurityKey s.seed (providedKey req) = true)) ∨
    (req.serviceId = UdsSid.ecuReset ∧
      (req.subFunction = 0x01 ∨ req.subFunction = 0x02 ∨ req.subFunction = 0x03))

/-- A response is positive when its service identifier is not `0x7F`. -/
def Positive (r : UDSMessage) : Prop :=
  r.serviceId ≠ UdsSid.negativeResponse

instance (r : UDSMessage) : Decidable (Positive r) :=
  inferInstanceAs (Decidable (_ ≠ _))

@[simp] theorem makeNegativeResponse_serviceId (env : HandlerEnv) (sid nrc : UInt8) :
    (makeNegativeResponse env sid nrc).serviceId = UdsSid.negativeResponse := rfl

@[simp] theorem positiveResponse_serviceId (env : HandlerEnv) (sid sub : UInt8)
    (payload : QByteArray) :
    (positiveResponse env sid sub payload).serviceId = sid + UdsSid.positiveResponseMask := rfl

theorem not_positive_makeNegativeResponse (env : HandlerEnv) (sid nrc : UInt8) :
    ¬ Positive (makeNegativeResponse env sid nrc) := by
  simp [Positive]

theorem Refuses.code_ne_zero {s : SessionState} {req : UDSMessage} {nrc : UInt8}
    (h : Refuses s req nrc) : nrc ≠ 0 := by
  cases h <;> decide

/-- A refused request is none of the accepted ones: the service identifiers differ, or a guard
does. -/
theorem Refuses.not_accepts {s : SessionState} {req : UDSMessage} {nrc : UInt8}
    (h : Refuses s req nrc) : ¬ Accepts s req := by
  cases h with
  | wrongSession hsid hcur =>
      simp only [needsSession, decide_eq_true_eq] at hsid
      rcases hsid with hsid | hsid | hsid <;> simp [Accepts, hsid, hcur]
  | sessionLocked hsid hsub hauth =>
      rcases hsub with hsub | hsub <;> simp [Accepts, hsid, hsub, hauth]
  | sessionUnknown hsid h₁ h₂ h₃ => simp [Accepts, hsid, h₁, h₂, h₃]
  | readTooShort hsid hlen =>
      simp only [Accepts, hsid]
      have := Nat.not_le_of_lt hlen
      simp [this]
  | readUnknown hsid hdid => simp [Accepts, hsid, hdid]
  | readLocked hsid hcur hdid hauth =>
      have := UInt16.not_lt.2 hdid
      simp [Accepts, hsid, hauth, this]
  | testerUnknown hsid hsub => simp [Accepts, hsid, hsub]
  | keyTooShort hsid hsub hlen =>
      have := Nat.not_le_of_lt hlen
      simp [Accepts, hsid, hsub, this]
  | keyInvalid hsid hsub hkey => simp [Accepts, hsid, hsub, hkey]
  | resetUnknown hsid h₁ h₂ h₃ => simp [Accepts, hsid, h₁, h₂, h₃]
  | notSupported h₁ h₂ h₃ h₄ h₅ => simp [Accepts, h₁, h₂, h₃, h₄, h₅]

/-- The response is positive exactly on the accepted requests. -/
theorem Answers.positive_iff {env : HandlerEnv} {s s' : SessionState} {req r : UDSMessage}
    (h : Answers env s req s' r) : Positive r ↔ Accepts s req := by
  cases h with
  | defaultSession hsid hsub => simp [Positive, Accepts, hsid, hsub]
  | unlockedSession hsid hsub hauth =>
      rcases hsub with hsub | hsub <;> simp [Positive, Accepts, hsid, hsub, hauth]
  | read hsid hcur hlen hdid hauth => simp [Positive, Accepts, hsid, hcur, hlen, hdid, hauth]
  | tester hsid hsub => simp [Positive, Accepts, hsid, hsub]
  | seed hsid hsub => simp [Positive, Accepts, hsid, hsub]
  | key hsid hsub hlen hkey => simp [Positive, Accepts, hsid, hlen, hkey]
  | reset hsid hsub => simp [Positive, Accepts, hsid, hsub]
  | refused hr =>
      exact iff_of_false (not_positive_makeNegativeResponse _ _ _) hr.not_accepts

/-- A positive response carries the service identifier of the request, marked as a response. -/
theorem Answers.serviceId_of_positive {env : HandlerEnv} {s s' : SessionState}
    {req r : UDSMessage} (h : Answers env s req s' r) (hpos : Positive r) :
    r.serviceId = req.serviceId + UdsSid.positiveResponseMask ∧ 0x40 ≤ r.serviceId := by
  cases h with
  | refused hr => exact absurd hpos (not_positive_makeNegativeResponse _ _ _)
  | defaultSession hsid | unlockedSession hsid | read hsid | tester hsid | seed hsid
  | key hsid | reset hsid => exact ⟨by simp [hsid], by simp⟩

/-- A negative response is built by `makeNegativeResponse` with a nonzero code, which leaves the
payload empty. -/
theorem Answers.of_not_positive {env : HandlerEnv} {s s' : SessionState} {req r : UDSMessage}
    (h : Answers env s req s' r) (hneg : ¬ Positive r) :
    r.payload = [] ∧ r.negativeCode ≠ 0 := by
  cases h with
  | refused hr => exact ⟨rfl, hr.code_ne_zero⟩
  | defaultSession | unlockedSession | read | tester | seed | key | reset =>
      exact absurd (by simp [Positive]) hneg

/-! ## What a response says about the session -/

/-- A negative response leaves the session as it was, a positive one changes it for two services only,
and each has the shape that tells which of the two it is. -/
structure Consistent (s s' : SessionState) (req r : UDSMessage) : Prop where
  refused : r.serviceId = UdsSid.negativeResponse → s' = s
  changed : r.serviceId ≠ UdsSid.negativeResponse → s' ≠ s →
    req.serviceId = UdsSid.diagnosticSessionControl ∨ req.serviceId = UdsSid.securityAccess
  shape : r.serviceId = req.serviceId + UdsSid.positiveResponseMask ∧ Positive r ∨
    r.serviceId = UdsSid.negativeResponse ∧ r.subFunction = req.serviceId
  answered : r.serviceId ≠ 0

/-- A refused request is answered under its own service identifier. -/
theorem consistent_refused (env : HandlerEnv) (s : SessionState) (req : UDSMessage) (nrc : UInt8) :
    Consistent s s req (makeNegativeResponse env req.serviceId nrc) where
  refused _ := rfl
  changed _ hne := absurd rfl hne
  shape := Or.inr ⟨rfl, rfl⟩
  answered := by
    rw [makeNegativeResponse_serviceId]
    decide

/-- An accepted request changes the session only in one of the two services. -/
theorem Answers.consistent_of_positive {env : HandlerEnv} {s s' : SessionState}
    {req r : UDSMessage} (h : Answers env s req s' r) (hpos : Positive r)
    (hchanged : s' ≠ s → req.serviceId = UdsSid.diagnosticSessionControl ∨
      req.serviceId = UdsSid.securityAccess) : Consistent s s' req r where
  refused hneg := absurd hneg hpos
  changed _ := hchanged
  shape := Or.inl ⟨(h.serviceId_of_positive hpos).1, hpos⟩
  answered := by
    intro hzero
    have hle := (h.serviceId_of_positive hpos).2
    rw [hzero] at hle
    exact absurd hle (by decide)

theorem Answers.consistent {env : HandlerEnv} {s s' : SessionState} {req r : UDSMessage}
    (h : Answers env s req s' r) : Consistent s s' req r := by
  have hanswer := h
  cases h with
  | refused hr => exact consistent_refused env s req _
  | defaultSession hsid | unlockedSession hsid =>
      exact hanswer.consistent_of_positive (by simp [Positive]) fun _ => Or.inl hsid
  | seed hsid | key hsid =>
      exact hanswer.consistent_of_positive (by simp [Positive]) fun _ => Or.inr hsid
  -- the other services leave the session as it is
  | read | tester | reset =>
      exact hanswer.consistent_of_positive (by simp [Positive]) fun hne => absurd rfl hne

/-- Refused requests change nothing, and every response is positive or negative for the service it was
asked for. -/
theorem processRequest_consistent (env : HandlerEnv) (s : SessionState) (req : UDSMessage) :
    Consistent s (processRequest env s req).1 req (processRequest env s req).2 :=
  (processRequest_answers env s req).consistent

end UdsHandler
end Server
end TcpCanUds
