import TcpCanUds.Core.UdsHelper
import Mathlib.Tactic.SplitIfs

/-!
# Client — session buttons and security access of the client (`client/client.cpp`)

The part of the main window that decides what to send: the three session buttons and the answers to
the responses.  A function gives the next state and the data handed to `sendUdsData`, in order, with
the TCP channel selected.  What only writes to the log or to labels is left out.
-/

namespace TcpCanUds
namespace Client

open Lib

inductive SessionType
  | defaultSession
  | programmingSession
  | extendedSession
  | unknownSession
  deriving DecidableEq, Repr

inductive PendingOperationType
  | noOperation
  | enterExtendedSession
  | enterProgrammingSession
  | readData
  | otherOperation
  deriving DecidableEq, Repr

/-- The members of `client` that the session buttons and the responses use. -/
structure ClientState where
  m_securityAccessCompleted : Bool := false
  m_waitingForSecurityAccess : Bool := false
  m_pendingOperation : PendingOperationType := .noOperation
  m_currentSession : SessionType := .defaultSession
  deriving DecidableEq, Repr

/-! ## Requests -/

/-- The bytes of a request built field by field. -/
def request (serviceId subFunction : UInt8) (payload : QByteArray) : QByteArray :=
  serializeUDSMessage
    { UDSMessage.declare {} with
      serviceId := serviceId
      subFunction := subFunction
      payload := payload
      isResponse := false }

def calculateKeyFromSeed (seed : QByteArray) : QByteArray :=
  if seed.length ≠ 4 then seed
  else bytes32 (seed.word32At 0 ^^^ 0xABCDEF00)

def requestSecurityAccess : QByteArray :=
  request UdsSid.securityAccess 0x01 []

def sendSecurityKey (key : QByteArray) : QByteArray :=
  request UdsSid.securityAccess 0x02 key

/-- The switch of `enterSession` on the session it enters. -/
def sessionTypeOf (subFunction : UInt8) : SessionType :=
  if subFunction = 0x01 then .defaultSession
  else if subFunction = 0x02 then .programmingSession
  else if subFunction = 0x03 then .extendedSession
  else .unknownSession

/-- `client::enterSession`. -/
def enterSession (s : ClientState) (subFunction : UInt8) (pendingOp : PendingOperationType) :
    ClientState × List QByteArray :=
  let needSecurityAccess :=
    (subFunction = 0x03 ∨ subFunction = 0x02) ∧ ¬ s.m_securityAccessCompleted
  if needSecurityAccess then
    ({ s with m_pendingOperation := pendingOp, m_waitingForSecurityAccess := true },
      [requestSecurityAccess])
  else
    let s := { s with m_currentSession := sessionTypeOf subFunction }
    -- the flags fall when `10 01` is sent, not when it is answered
    let s :=
      if subFunction = 0x01 then
        { s with m_securityAccessCompleted := false, m_waitingForSecurityAccess := false }
      else s
    ({ s with m_pendingOperation := .noOperation },
      [request UdsSid.diagnosticSessionControl subFunction []])

/-! ## Buttons -/

inductive SessionButton
  | exBtn
  | defaultBtn
  | codeBtn
  deriving DecidableEq, Repr

def on_ex_btn_clicked (s : ClientState) : ClientState × List QByteArray :=
  enterSession s 0x03 .enterExtendedSession

def on_Default_clicked (s : ClientState) : ClientState × List QByteArray :=
  enterSession s 0x01 .otherOperation

def on_code_btn_clicked (s : ClientState) : ClientState × List QByteArray :=
  enterSession s 0x02 .enterProgrammingSession

def onClicked (s : ClientState) : SessionButton → ClientState × List QByteArray
  | .exBtn => on_ex_btn_clicked s
  | .defaultBtn => on_Default_clicked s
  | .codeBtn => on_code_btn_clicked s

/-! ## Responses -/

/-- The operation that waited for the security access is started and then cleared. -/
def startPending (s : ClientState) : ClientState × List QByteArray :=
  match s.m_pendingOperation with
  | .noOperation => (s, [])
  | .enterExtendedSession =>
      let r := enterSession s 0x03 .enterExtendedSession
      ({ r.1 with m_pendingOperation := .noOperation }, r.2)
  | .enterProgrammingSession =>
      let r := enterSession s 0x02 .enterProgrammingSession
      ({ r.1 with m_pendingOperation := .noOperation }, r.2)
  | .readData | .otherOperation => ({ s with m_pendingOperation := .noOperation }, [])

/-- `client::onUdsMessageReceived`. -/
def onUdsMessageReceived (s : ClientState) (msg : UDSMessage) :
    ClientState × List QByteArray :=
  if msg.serviceId = 0 then (s, [])
  else if msg.isNegativeResponse then (s, [])
  else if msg.serviceId = 0x67 ∧ msg.subFunction = 0x01 then
    (s, [sendSecurityKey (calculateKeyFromSeed msg.payload)])
  -- whether the client still waits for the access is not asked
  else if msg.serviceId = 0x67 ∧ msg.subFunction = 0x02 then
    startPending
      { s with m_securityAccessCompleted := true, m_waitingForSecurityAccess := false }
  else (s, [])

/-! ## What they send, and when the access is completed -/

def IsDefaultRequest (raw : QByteArray) : Prop :=
  raw.byteAt 0 = UdsSid.diagnosticSessionControl ∧
    raw.byteAt 1 = DiagnosticSession.defaultSession

instance : DecidablePred IsDefaultRequest :=
  fun _ => inferInstanceAs (Decidable (_ ∧ _))

/-- The response that completes the security access. -/
def CompletesAccess (msg : UDSMessage) : Prop :=
  msg.isNegativeResponse = false ∧ msg.serviceId = 0x67 ∧ msg.subFunction = 0x02

section

variable {s : ClientState} {sub : UInt8} {op : PendingOperationType} {msg : UDSMessage}
  {raw : QByteArray}

theorem two_le_length_request (sid sub : UInt8) (payload : QByteArray) :
    2 ≤ (request sid sub payload).length :=
  two_le_length_serialize _

theorem isDefaultRequest_request (sid sub : UInt8) (payload : QByteArray) :
    IsDefaultRequest (request sid sub payload) ↔ sid = 0x10 ∧ sub = 0x01 :=
  Iff.rfl

theorem mem_enterSession (h : raw ∈ (enterSession s sub op).2) :
    raw = requestSecurityAccess ∨ raw = request UdsSid.diagnosticSessionControl sub [] := by
  unfold enterSession at h
  simp only at h
  by_cases hneed : (sub = 0x03 ∨ sub = 0x02) ∧ ¬ s.m_securityAccessCompleted = true
  · rw [if_pos hneed] at h
    exact Or.inl (List.mem_singleton.1 h)
  · rw [if_neg hneed] at h
    exact Or.inr (List.mem_singleton.1 h)

theorem enterSession_length (h : raw ∈ (enterSession s sub op).2) : 2 ≤ raw.length := by
  rcases mem_enterSession h with rfl | rfl <;> exact two_le_length_request _ _ _

theorem enterSession_not_default (hsub : sub ≠ 0x01) (h : raw ∈ (enterSession s sub op).2) :
    ¬ IsDefaultRequest raw := by
  rcases mem_enterSession h with rfl | rfl
  · exact fun hd => absurd ((isDefaultRequest_request _ _ _).1 hd).1 (by decide)
  · exact fun hd => hsub ((isDefaultRequest_request _ _ _).1 hd).2

/-- Entering a session completes no access, and gives it up for the default session. -/
theorem enterSession_completed
    (h : (enterSession s sub op).1.m_securityAccessCompleted = true) :
    s.m_securityAccessCompleted = true ∧ sub ≠ 0x01 := by
  unfold enterSession at h
  simp only at h
  split_ifs at h with hneed hsub
  · exact absurd h hneed.2
  · exact ⟨h, hsub⟩

theorem startPending_sends (h : raw ∈ (startPending s).2) :
    2 ≤ raw.length ∧ ¬ IsDefaultRequest raw := by
  unfold startPending at h
  cases hop : s.m_pendingOperation with
  | noOperation | readData | otherOperation => simp [hop] at h
  | enterExtendedSession | enterProgrammingSession =>
      simp only [hop] at h
      exact ⟨enterSession_length h, enterSession_not_default (by decide) h⟩

theorem onUdsMessageReceived_sends (h : raw ∈ (onUdsMessageReceived s msg).2) :
    2 ≤ raw.length ∧ ¬ IsDefaultRequest raw := by
  unfold onUdsMessageReceived at h
  split_ifs at h with hzero hneg hseed hkey
  · simp at h
  · simp at h
  · rcases List.mem_singleton.1 h with rfl
    refine ⟨two_le_length_request _ _ _, ?_⟩
    rw [sendSecurityKey, isDefaultRequest_request]
    decide
  · exact startPending_sends h
  · simp at h

/-- Only `67 02` completes the access. -/
theorem onUdsMessageReceived_completed
    (h : (onUdsMessageReceived s msg).1.m_securityAccessCompleted = true) :
    s.m_securityAccessCompleted = true ∨ CompletesAccess msg := by
  unfold onUdsMessageReceived at h
  split_ifs at h with hzero hneg hseed hkey
  · exact Or.inl h
  · exact Or.inl h
  · exact Or.inl h
  · exact Or.inr ⟨by simpa using hneg, hkey⟩
  · exact Or.inl h

/-- Clicking a button completes no access; while it is completed, the button asks for no default
session. -/
theorem onClicked_completed {button : SessionButton}
    (h : (onClicked s button).1.m_securityAccessCompleted = true) :
    s.m_securityAccessCompleted = true ∧
      ∀ raw ∈ (onClicked s button).2, ¬ IsDefaultRequest raw := by
  cases button with
  | exBtn =>
      exact ⟨(enterSession_completed h).1, fun _ => enterSession_not_default (by decide)⟩
  | codeBtn =>
      exact ⟨(enterSession_completed h).1, fun _ => enterSession_not_default (by decide)⟩
  | defaultBtn => exact absurd rfl (enterSession_completed h).2

theorem onClicked_length {button : SessionButton} (h : raw ∈ (onClicked s button).2) :
    2 ≤ raw.length := by
  cases button <;> exact enterSession_length h

end

end Client
end TcpCanUds
