import TcpCanUds.Server.SessionSecurity

/-!
# EcuReset — what an ECU reset leaves of the session

`handleECUReset` answers with the start-up time and touches no field of the session.  So a reset
relocks nothing: whoever was authenticated before it still is, and only a reset of a server that was
locked anyway is followed by a locked server.
-/

namespace TcpCanUds
namespace Server
namespace UdsHandler

open Lib

/-- A reset request that is answered positively, which does not depend on the session. -/
def IsEcuReset (req : UDSMessage) : Prop :=
  req.serviceId = UdsSid.ecuReset ∧
    (req.subFunction = 0x01 ∨ req.subFunction = 0x02 ∨ req.subFunction = 0x03)

instance (req : UDSMessage) : Decidable (IsEcuReset req) :=
  inferInstanceAs (Decidable (_ ∧ _))

def ResetAnswered (e : Exchange) : Prop :=
  e.1.req.serviceId = UdsSid.ecuReset ∧ Positive e.2

/-- Behind every positive reset nothing is granted before a key is accepted. -/
def ResetRelocks (run : List HandlerInput) : Prop :=
  ∀ a reset b grant c, handler.history run = (a ++ reset :: b) ++ grant :: c →
    ResetAnswered reset → Granted grant → Once KeyAccepted b

/-- A reset comes to a server that is not authenticated. -/
def ResetWhileLocked (s : SessionState) (i : HandlerInput) : Prop :=
  IsEcuReset i.req → s.isAuthenticated = false

/-! ## One exchange -/

section

variable {env : HandlerEnv} {s s' : SessionState} {req r : UDSMessage}

theorem Answers.resetAnswered_iff (h : Answers env s req s' r) :
    ResetAnswered (⟨env, req⟩, r) ↔ IsEcuReset req := by
  simp only [ResetAnswered, IsEcuReset, h.positive_iff, and_congr_right_iff]
  intro hsid
  simp [Accepts, hsid]

theorem not_keyAccepted_of_reset {e : Exchange} (h : ResetAnswered e) : ¬ KeyAccepted e := by
  intro hkey
  have hsid := hkey.1.1
  rw [h.1] at hsid
  exact absurd hsid (by decide)

/-- The reset leaves an authenticated tester authenticated. -/
theorem Answers.authenticated_of_reset (h : Answers env s req s' r) (hreq : IsEcuReset req)
    (hauth : s.isAuthenticated = true) : s'.isAuthenticated = true := by
  apply h.isAuthenticated_iff.2
  refine .inr ⟨hauth, ?_⟩
  intro hswitch
  have hsid := hswitch.1.1
  rw [show (HandlerInput.mk env req, r).1.req.serviceId = UdsSid.ecuReset from hreq.1] at hsid
  exact absurd hsid (by decide)

end

theorem authenticated_of_granted {run : List HandlerInput} {i : HandlerInput}
    (h : Granted (i, (handler.step (handler.after run) i).2)) :
    (handler.after run).isAuthenticated = true := by
  rcases h with hread | hswitch
  · exact (reached run).authenticated_of_dataRead i hread
  · exact (handler_answers _ i).authenticated_of_unlockedSwitch hswitch

/-! ## Runs -/

/-- The key that opens the server for a grant behind a reset was accepted behind it, when the server
was locked at the reset. -/
theorem resetRelocks_of_locked {run : List HandlerInput}
    (h : handler.Along ResetWhileLocked handler.init run) : ResetRelocks run := by
  intro a reset b grant c hhist hreset hgrant
  rcases handler.history_eq_append_cons hhist with ⟨front, behind, hrun, hfront, hanswer, -⟩
  have hgrant' : Granted (grant.1, (handler.step (handler.after front) grant.1).2) := by
    rw [← hanswer]
    exact hgrant
  have hsince := (authenticated_iff_since front).1 (authenticated_of_granted hgrant')
  rw [hfront, since_append] at hsince
  rcases hsince with hlater | ⟨hearlier, -⟩
  · exact (once_cons.1 hlater.once).resolve_left (not_keyAccepted_of_reset hreset)
  · -- a key before the reset would have been in force at the reset
    rcases handler.history_eq_append_cons hfront with ⟨before, between, hsplit, hbefore, hreply, -⟩
    have hauth : (handler.after before).isAuthenticated = true := by
      rw [authenticated_iff_since, hbefore]
      exact hearlier
    have hreq : IsEcuReset reset.1.req := by
      apply (handler_answers (handler.after before) reset.1).resetAnswered_iff.1
      rw [← hreply]
      exact hreset
    have hlocked := handler.along_iff.1 h before reset.1 (between ++ grant.1 :: behind)
      (by rw [hrun, hsplit, List.append_assoc]; rfl) hreq
    rw [show handler.exec handler.init before = handler.after before from rfl, hauth] at hlocked
    cases hlocked

/-- The switch to the extended session. -/
def extendedSwitch : HandlerInput where
  req := { UDSMessage.declare {} with
    serviceId := UdsSid.diagnosticSessionControl
    subFunction := DiagnosticSession.extendedDiagnostic }

/-- Behind a reset of an authenticated server the very next request can be granted. -/
theorem not_resetRelocks_of_authenticated {a : List HandlerInput} {i : HandlerInput}
    (hreq : IsEcuReset i.req) (hauth : (handler.after a).isAuthenticated = true) :
    ¬ ResetRelocks (a ++ [i] ++ [extendedSwitch]) := by
  intro h
  have hanswer := handler_answers (handler.after a) i
  have hstill : (handler.after (a ++ [i])).isAuthenticated = true := by
    rw [handler.after_snoc]
    exact hanswer.authenticated_of_reset hreq hauth
  have hgranted : Positive (handler.step (handler.after (a ++ [i])) extendedSwitch).2 := by
    rw [(handler_answers _ extendedSwitch).positive_iff]
    exact .inl ⟨rfl, .inr ⟨.inr rfl, hstill⟩⟩
  have honce := h (handler.history a) (i, (handler.step (handler.after a) i).2) []
    (extendedSwitch, (handler.step (handler.after (a ++ [i])) extendedSwitch).2) []
    (by rw [handler.history_snoc, handler.history_snoc])
    (hanswer.resetAnswered_iff.2 hreq) (.inr ⟨rfl, .inr rfl, hgranted⟩)
  exact not_once_nil honce

/-- A run whose resets all come to a locked server has nothing granted behind them without a key; and
behind a reset of an authenticated server the run can go on with a grant. -/
theorem ecuReset_relocks (run : List HandlerInput) :
    (handler.Along ResetWhileLocked handler.init run → ResetRelocks run) ∧
      ∀ a i b, run = a ++ i :: b → IsEcuReset i.req →
        (handler.after a).isAuthenticated = true →
          ∃ later, ¬ ResetRelocks (a ++ [i] ++ later) := by
  refine ⟨resetRelocks_of_locked, ?_⟩
  intro a i b _ hreq hauth
  exact ⟨[extendedSwitch], not_resetRelocks_of_authenticated hreq hauth⟩

/-- Seed and key, a hard reset, the extended session. -/
def resetRun : List HandlerInput :=
  [{ env := { digest := 1 }, req := deserializeUDSMessage {} [0x27, 0x01] },
    { req := deserializeUDSMessage {} [0x27, 0x02, 0x01, 0xEF, 0xCD, 0xAB] },
    { req := deserializeUDSMessage {} [0x11, 0x01] },
    { req := deserializeUDSMessage {} [0x10, 0x03] }]

theorem reset_keeps_unlocked : ¬ ∀ run, ResetRelocks run := by
  intro h
  have honce := h resetRun ((handler.history resetRun).take 2) ((handler.history resetRun)[2]) []
    ((handler.history resetRun)[3]) [] (by decide) ⟨by decide, by decide⟩
    (.inr ⟨by decide, by decide, by decide⟩)
  exact not_once_nil honce

end UdsHandler
end Server
end TcpCanUds
