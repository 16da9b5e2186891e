import TcpCanUds.Lib.Observation
import TcpCanUds.Server.RequestBytes

/-!
# Remembered — what the server keeps of its past

The request handler between the bytes of a request and the bytes of its response.  Three things decide
every later response: the last seed, whether a key was accepted, and whether a diagnostic session is
open.  All three can be read off the responses, and each of them can be brought to light by a request, so
the security level and the kind of session leave no trace.
-/

namespace TcpCanUds
namespace Server
namespace UdsHandler

open Lib

/-- A raw request, with all that its response depends on besides the session. -/
structure RawRequest where
  raw : QByteArray
  env : HandlerEnv := {}
  mem : StackContents := ⟨{}, {}⟩
  deriving DecidableEq, Repr

/-- The handler as a tester sees it: bytes in, bytes out. -/
def rawHandler : Machine SessionState RawRequest QByteArray where
  init := {}
  step s i := respond i.env s i.raw i.mem

/-- What the responses say about the session. -/
structure Remembered where
  seed : UInt32 := 0
  unlocked : Bool := false
  diagnostic : Bool := false
  deriving DecidableEq, Repr

/-- What one more response adds. -/
def Remembered.note (m : Remembered) (response : QByteArray) : Remembered :=
  if response.byteAt 0 = UdsSid.securityAccess + UdsSid.positiveResponseMask then
    -- an odd sub-function brings a seed, an even one says that the key was right
    if response.byteAt 1 % 2 = 1 then { m with seed := response.word32At 2 }
    else { m with unlocked := true }
  else if response.byteAt 0 = UdsSid.diagnosticSessionControl + UdsSid.positiveResponseMask then
    if response.byteAt 1 = DiagnosticSession.defaultSession then
      { m with unlocked := false, diagnostic := false }
    else { m with diagnostic := true }
  else m

def remembered (responses : List QByteArray) : Remembered :=
  responses.foldl Remembered.note {}

/-- The same three things of a session state. -/
def kept (s : SessionState) : Remembered where
  seed := s.seed
  unlocked := s.isAuthenticated
  diagnostic := decide (s.currentSession ≠ DiagnosticSession.defaultSession)

/-! ## They decide the response -/

section

variable {s t : SessionState} (env : HandlerEnv) (req : UDSMessage)

theorem refusedInSession_congr
    (h : s.currentSession = DiagnosticSession.defaultSession ↔
      t.currentSession = DiagnosticSession.defaultSession) (sid : UInt8) :
    refusedInSession s sid = refusedInSession t sid := by
  simp only [refusedInSession, h]

theorem response_handleDiagnosticSessionControl (h : s.isAuthenticated = t.isAuthenticated) :
    (handleDiagnosticSessionControl env s req).2 = (handleDiagnosticSessionControl env t req).2 := by
  simp only [handleDiagnosticSessionControl, h]
  split_ifs <;> rfl

theorem response_handleReadDataByIdentifier (h : s.isAuthenticated = t.isAuthenticated) :
    (handleReadDataByIdentifier env s req).2 = (handleReadDataByIdentifier env t req).2 := by
  simp only [handleReadDataByIdentifier, h]
  split_ifs <;> rfl

theorem response_handleSecurityAccess (h : s.seed = t.seed) :
    (handleSecurityAccess env s req).2 = (handleSecurityAccess env t req).2 := by
  simp only [handleSecurityAccess, h]
  split_ifs <;> rfl

/-- The response depends on the three things alone. -/
theorem response_congr (h : kept s = kept t) :
    (processRequest env s req).2 = (processRequest env t req).2 := by
  simp only [kept, Remembered.mk.injEq, decide_eq_decide] at h
  rcases h with ⟨hseed, hauth, hsession⟩
  simp only [processRequest, refusedInSession_congr (not_iff_not.1 hsession)]
  split_ifs
  · rfl
  · exact response_handleDiagnosticSessionControl env req hauth
  · exact response_handleReadDataByIdentifier env req hauth
  · simp only [handleTesterPresent]
    split_ifs <;> rfl
  · exact response_handleSecurityAccess env req hseed
  · simp only [handleECUReset]
    split_ifs <;> rfl
  · rfl

end

/-! ## The response tells them -/

section

variable {env : HandlerEnv} {s s' : SessionState} {req r : UDSMessage}

section

variable (m : Remembered) (response : QByteArray)

theorem Remembered.note_seed
    (hsid : response.byteAt 0 = UdsSid.securityAccess + UdsSid.positiveResponseMask)
    (hsub : response.byteAt 1 % 2 = 1) : m.note response = { m with seed := response.word32At 2 } := by
  rw [Remembered.note, if_pos hsid, if_pos hsub]

theorem Remembered.note_key
    (hsid : response.byteAt 0 = UdsSid.securityAccess + UdsSid.positiveResponseMask)
    (hsub : response.byteAt 1 % 2 ≠ 1) : m.note response = { m with unlocked := true } := by
  rw [Remembered.note, if_pos hsid, if_neg hsub]

/-- A response to another service adds nothing. -/
theorem Remembered.note_other
    (hkey : response.byteAt 0 ≠ UdsSid.securityAccess + UdsSid.positiveResponseMask)
    (hsession : response.byteAt 0 ≠ UdsSid.diagnosticSessionControl + UdsSid.positiveResponseMask) :
    m.note response = m := by
  rw [Remembered.note, if_neg hkey, if_neg hsession]

end

/-- The bytes of the response say what the request has changed of the three things. -/
theorem Answers.kept_eq (h : Answers env s req s' r) :
    kept s' = (kept s).note (serializeUDSMessage r) := by
  cases h with
  | defaultSession hsid hsub =>
      rw [hsub]
      rfl
  | unlockedSession hsid hsub hauth =>
      rcases hsub with hsub | hsub
      · rw [hsub]
        rfl
      · rw [hsub]
        rfl
  | seed hsid hsub =>
      let response := serializeUDSMessage
        (positiveResponse env UdsSid.securityAccess req.subFunction (bytes32 (generateSecuritySeed env)))
      have hword : response.word32At 2 = generateSecuritySeed env := QByteArray.word32At_bytes32 _
      have hnote := Remembered.note_seed (kept s) response rfl hsub
      rw [hword] at hnote
      exact hnote.symm
  | key hsid hsub hlen hkey =>
      let response := serializeUDSMessage
        (positiveResponse env UdsSid.securityAccess req.subFunction [])
      have hnote := Remembered.note_key (kept s) response rfl hsub
      exact hnote.symm
  | read hsid | tester hsid | reset hsid | refused hr =>
      exact (Remembered.note_other _ _ (by simp) (by simp)).symm

theorem kept_step (s : SessionState) (i : RawRequest) :
    kept (rawHandler.step s i).1 = (kept s).note (rawHandler.step s i).2 :=
  (processRequest_answers _ s _).kept_eq

end

/-! ## Requests that bring them to light -/

section

variable {s t : SessionState}

/-- Alike states accept the same requests. -/
theorem accepts_iff_of_alike (h : rawHandler.Alike s t) (raw : QByteArray) :
    Accepts s (deserializeUDSMessage {} raw) ↔ Accepts t (deserializeUDSMessage {} raw) := by
  -- the first byte of a response says whether it is positive
  have hfirst := congrArg (fun response => QByteArray.byteAt response 0) (h.answer { raw := raw })
  have hpos : ∀ u : SessionState,
      (rawHandler.step u { raw := raw }).2.byteAt 0 ≠ UdsSid.negativeResponse ↔
        Accepts u (deserializeUDSMessage {} raw) :=
    fun u => (processRequest_answers _ u _).positive_iff
  rw [← hpos s, ← hpos t]
  exact not_congr (Eq.congr_left hfirst)

/-- The key of the one seed is the key of the other. -/
theorem seed_of_alike (h : rawHandler.Alike s t) : s.seed = t.seed := by
  let key := s.seed ^^^ 0xABCDEF00
  have hiff : ∀ u : SessionState,
      Accepts u (deserializeUDSMessage {} (0x27 :: 0x02 :: bytes32 key)) ↔
        key = u.seed ^^^ 0xABCDEF00 := by
    intro u
    have hlen : 2 ≤ (0x27 :: 0x02 :: bytes32 key).length := Nat.le_add_left 2 4
    rcases deserialize_fields {} hlen with ⟨hsid, hsub, hpayload⟩
    have hprovided : QByteArray.word32At (bytes32 key) 0 = key := QByteArray.word32At_bytes32 key
    simp [Accepts, hsid, hsub, hpayload, providedKey, validateSecurityKey,
      QByteArray.midFrom, hprovided]
  have hkey := (hiff t).1 ((accepts_iff_of_alike h _).1 ((hiff s).2 rfl))
  exact (UInt32.xor_left_inj _).1 hkey

/-- The programming session is for authenticated testers. -/
theorem unlocked_of_alike (h : rawHandler.Alike s t) : s.isAuthenticated = t.isAuthenticated := by
  have hiff : ∀ u : SessionState,
      Accepts u (deserializeUDSMessage {} [0x10, 0x02]) ↔ u.isAuthenticated = true := by
    intro u
    simp [Accepts, deserializeUDSMessage, UDSMessage.declare]
  rw [Bool.eq_iff_iff, ← hiff s, ← hiff t]
  exact accepts_iff_of_alike h _

/-- Outside the default session the volume level is read out. -/
theorem diagnostic_of_alike (h : rawHandler.Alike s t) :
    s.currentSession ≠ DiagnosticSession.defaultSession ↔
      t.currentSession ≠ DiagnosticSession.defaultSession := by
  have hiff : ∀ u : SessionState,
      Accepts u (deserializeUDSMessage {} [0x22, 0x00, 0x01, 0x20]) ↔
        u.currentSession ≠ DiagnosticSession.defaultSession := by
    intro u
    have hdid : DidDatabase.contains (word16 0x01 0x20) = true := by decide
    have hbelow : word16 0x01 0x20 < 0xF1A0 := by decide
    simp [Accepts, deserializeUDSMessage, UDSMessage.declare, requestedDid, QByteArray.midFrom,
      QByteArray.word16At, hdid, hbelow]
  rw [← hiff s, ← hiff t]
  exact accepts_iff_of_alike h _

theorem kept_of_alike (h : rawHandler.Alike s t) : kept s = kept t := by
  rw [kept, kept, seed_of_alike h, unlocked_of_alike h,
    decide_eq_decide.2 (diagnostic_of_alike h)]

end

/-- After two runs no later requests tell the two servers apart exactly when the responses of the runs
leave the same seed, the same lock and the same answer to whether a diagnostic session is open. -/
theorem alike_iff_remembered (is js : List RawRequest) :
    rawHandler.Alike (rawHandler.after is) (rawHandler.after js) ↔
      remembered (rawHandler.answers {} is) = remembered (rawHandler.answers {} js) :=
  Machine.alike_after_iff
    (fun _ _ _ h => congrArg serializeUDSMessage (response_congr _ _ h))
    kept_step (fun _ _ h => kept_of_alike h) is js

end UdsHandler
end Server
end TcpCanUds
