import TcpCanUds.Client.Client
import TcpCanUds.Server.UdsWorker

/-!
# UnlockAgreement — client and server on the security access

One client, one fresh server, and a first-in first-out channel each way.  The user clicks session
buttons, the server answers the next request, the client takes the next response, in any order.
The question is whether a client that takes its access for completed is right once nothing is in
flight.
-/

namespace TcpCanUds
namespace System

open Lib Client Server UdsHandler UdsWorker

/-! ## The two parties and what is between them -/

/-- The parties, and the serialized messages in flight, oldest first. -/
structure SystemState where
  client : ClientState := {}
  server : SessionState := {}
  toServer : List QByteArray := []
  toClient : List QByteArray := []
  deriving DecidableEq, Repr

inductive Action
  | click (button : SessionButton)
  /-- The server takes the next request; the arguments are what it reads from outside. -/
  | serverStep (mem : UDSMessage.Memory) (env : HandlerEnv) (now latencyUs : Int64)
  /-- The client takes the next response. -/
  | clientStep (mem : UDSMessage.Memory)
  deriving DecidableEq, Repr

def clientId : Int := 1001

/-- The server decodes a request and lets the worker answer it. -/
def serve (server : SessionState) (raw : QByteArray) (mem : UDSMessage.Memory) (env : HandlerEnv)
    (now latencyUs : Int64) : SessionState × Option Reply :=
  worker.step server
    { source := .tcp clientId, env, now, latencyUs, msg := Server.deserializeUDSMessage mem raw }

/-- One action; a party without a message to take does nothing. -/
def next (st : SystemState) : Action → SystemState
  | .click button =>
      let r := onClicked st.client button
      { st with client := r.1, toServer := st.toServer ++ r.2 }
  | .serverStep mem env now latencyUs =>
      match st.toServer with
      | [] => st
      | raw :: rest =>
          let r := serve st.server raw mem env now latencyUs
          { st with
            server := r.1
            toServer := rest
            toClient := st.toClient ++ r.2.toList.map fun reply =>
              serializeUDSMessage reply.response }
  | .clientStep mem =>
      match st.toClient with
      | [] => st
      | raw :: rest =>
          let r := onUdsMessageReceived st.client (Client.deserializeUDSMessage mem raw)
          { st with client := r.1, toClient := rest, toServer := st.toServer ++ r.2 }

def system : Machine SystemState Action Unit where
  init := {}
  step st a := (next st a, ())

/-- With nothing in flight, a client that takes its access for completed is authenticated. -/
def Agree (st : SystemState) : Prop :=
  st.toServer = [] → st.toClient = [] → st.client.m_securityAccessCompleted = true →
    st.server.isAuthenticated = true

def AgreeThroughout (run : List Action) : Prop :=
  ∀ a b, run = a ++ b → Agree (system.after a)

/-! ## Late responses -/

def IsKeyResponse (raw : QByteArray) : Prop :=
  raw.byteAt 0 = 0x67 ∧ raw.byteAt 1 = 0x02

instance : DecidablePred IsKeyResponse :=
  fun _ => inferInstanceAs (Decidable (_ ∧ _))

def IsDefaultResponse (raw : QByteArray) : Prop :=
  raw.byteAt 0 = 0x50 ∧ raw.byteAt 1 = 0x01

instance : DecidablePred IsDefaultResponse :=
  fun _ => inferInstanceAs (Decidable (_ ∧ _))

def DefaultUnanswered (st : SystemState) : Prop :=
  Once IsDefaultRequest st.toServer ∨ Once IsDefaultResponse st.toClient

instance (st : SystemState) : Decidable (DefaultUnanswered st) :=
  inferInstanceAs (Decidable (_ ∨ _))

/-- The client does not take `67 02` while a request for the default session is unanswered. -/
def Timely (st : SystemState) : Action → Prop
  | .clientStep _ => ∀ raw ∈ st.toClient.head?, IsKeyResponse raw → ¬ DefaultUnanswered st
  | .click _ | .serverStep .. => True

instance (st : SystemState) (a : Action) : Decidable (Timely st a) :=
  match a with
  | .clientStep _ => inferInstanceAs (Decidable (∀ raw ∈ st.toClient.head?, _ → ¬ _))
  | .click _ | .serverStep .. => isTrue trivial

/-! ## The key -/

theorem carriesKey_sendSecurityKey (mem : UDSMessage.Memory) (seed : UInt32) :
    CarriesKey seed (Server.deserializeUDSMessage mem
      (sendSecurityKey (calculateKeyFromSeed (bytes32 seed)))) := by
  have hkey : calculateKeyFromSeed (bytes32 seed) = bytes32 (seed ^^^ 0xABCDEF00) := by
    rw [calculateKeyFromSeed, if_neg (by simp), QByteArray.word32At_bytes32]
  rw [hkey]
  have hlen : 2 ≤ (sendSecurityKey (bytes32 (seed ^^^ 0xABCDEF00))).length :=
    two_le_length_request _ _ _
  rcases Server.deserialize_fields mem hlen with ⟨hsid, hsub, hpay⟩
  change _ = bytes32 (seed ^^^ 0xABCDEF00) at hpay
  refine ⟨⟨hsid, ?_⟩, ?_, ?_⟩
  · rw [hsub]
    exact (by decide : (0x02 : UInt8) % 2 ≠ 1)
  · rw [hpay, length_bytes32]
  · rw [providedKey, hpay, QByteArray.word32At_bytes32, validateSecurityKey]
    exact decide_eq_true rfl

/-! ## The invariant -/

/-- What holds in every state of a timely run. -/
structure SystemInv (st : SystemState) : Prop where
  requests : ∀ raw ∈ st.toServer, 2 ≤ raw.length
  responses : ∀ raw ∈ st.toClient, 2 ≤ raw.length
  /-- A completed access is a real one, and no request for the default session is on its way. -/
  completed : st.client.m_securityAccessCompleted = true →
    st.server.isAuthenticated = true ∧ ¬ Once IsDefaultRequest st.toServer
  /-- So is one that `67 02` is about to complete, unless `50 01` comes behind. -/
  keyed : Since IsKeyResponse IsDefaultResponse st.toClient → st.server.isAuthenticated = true

section

variable {env : HandlerEnv} {s s' : SessionState} {req r : UDSMessage}

theorem authenticated_of_keyResponse (h : Answers env s req s' r)
    (hkey : IsKeyResponse (serializeUDSMessage r)) : s'.isAuthenticated = true := by
  rcases hkey with ⟨hsid, hsub⟩
  simp only [serializeUDSMessage_byteAt_zero, serializeUDSMessage_byteAt_one] at hsid hsub
  cases h with
  | key => rfl
  | seed hreq hodd =>
      rw [show req.subFunction = 0x02 from hsub] at hodd
      exact absurd hodd (by decide)
  | defaultSession | unlockedSession | read | tester | reset | refused =>
      simp at hsid

theorem defaultResponse_of_defaultSwitch (h : Answers env s req s' r)
    (hswitch : DefaultSwitch (⟨env, req⟩, r)) :
    IsDefaultResponse (serializeUDSMessage r) := by
  rcases hswitch with ⟨⟨hsid, hsub⟩, hpos⟩
  simp only at hsid hsub
  refine ⟨?_, ?_⟩
  · rw [serializeUDSMessage_byteAt_zero, (h.serviceId_of_positive hpos).1, hsid]
    decide
  · cases h with
    | defaultSession | unlockedSession => exact hsub
    | read hsid' | tester hsid' | seed hsid' | key hsid' | reset hsid' =>
        rw [hsid'] at hsid
        exact absurd hsid (by decide)
    | refused => exact absurd hpos (not_positive_makeNegativeResponse _ _ _)

end

/-- What the server's step does to its authentication, told from the bytes it takes and gives. -/
theorem serve_spec (server : SessionState) {raw : QByteArray} (hraw : 2 ≤ raw.length)
    (mem : UDSMessage.Memory) (env : HandlerEnv) (now latencyUs : Int64) :
    ∃ out, ((serve server raw mem env now latencyUs).2.toList.map fun reply =>
        serializeUDSMessage reply.response) = [out] ∧ 2 ≤ out.length ∧
      (IsKeyResponse out →
        (serve server raw mem env now latencyUs).1.isAuthenticated = true) ∧
      (server.isAuthenticated = true → ¬ (IsDefaultRequest raw ∧ IsDefaultResponse out) →
        (serve server raw mem env now latencyUs).1.isAuthenticated = true) := by
  set i : WorkerInput :=
    { source := .tcp clientId, env, now, latencyUs, msg := Server.deserializeUDSMessage mem raw }
    with hi
  have h := worker_answers server i
  rcases worker_replies server i with ⟨reply, hsome, hresp⟩
  have hbytes : serializeUDSMessage reply.response =
      serializeUDSMessage (processRequest i.env server i.msg).2 := by
    rw [hresp]
    rfl
  rcases Server.deserialize_fields mem hraw with ⟨hsid, hsub, -⟩
  refine ⟨serializeUDSMessage reply.response, ?_, two_le_length_serialize _, ?_, ?_⟩
  · rw [serve, ← hi, hsome]
    rfl
  · intro hkey
    rw [hbytes] at hkey
    exact authenticated_of_keyResponse h hkey
  · -- only a positive switch to the default session takes the authentication away
    intro hauth hno
    refine h.isAuthenticated_iff.2 (Or.inr ⟨hauth, ?_⟩)
    intro hswitch
    refine hno ⟨⟨?_, ?_⟩, ?_⟩
    · rw [← hsid]
      exact hswitch.1.1
    · rw [← hsub]
      exact hswitch.1.2
    · rw [hbytes]
      exact defaultResponse_of_defaultSwitch h hswitch

theorem systemInv_init : SystemInv {} where
  requests := by simp
  responses := by simp
  completed h := by simp at h
  keyed h := absurd h not_since_nil

section

variable {st : SystemState}

theorem SystemInv.click (hI : SystemInv st) (button : SessionButton) :
    SystemInv (next st (.click button)) where
  requests raw hraw := by
    rcases List.mem_append.1 hraw with hraw | hraw
    · exact hI.requests raw hraw
    · exact onClicked_length hraw
  responses := hI.responses
  completed h := by
    rcases onClicked_completed h with ⟨hs, hsends⟩
    rcases hI.completed hs with ⟨hauth, hno⟩
    refine ⟨hauth, ?_⟩
    rintro ⟨raw, hraw, hdef⟩
    rcases List.mem_append.1 hraw with hraw | hraw
    · exact hno ⟨raw, hraw, hdef⟩
    · exact hsends raw hraw hdef
  keyed := hI.keyed

theorem isKeyResponse_of_completesAccess {raw : QByteArray} (hlen : 2 ≤ raw.length)
    {mem : UDSMessage.Memory} (h : CompletesAccess (Client.deserializeUDSMessage mem raw)) :
    IsKeyResponse raw := by
  rcases h with ⟨hflag, hsid, hsub⟩
  by_cases hneg : raw.byteAt 0 = UdsSid.negativeResponse
  · rw [(Client.deserialize_negative mem hlen hneg).1] at hflag
    cases hflag
  · rcases Client.deserialize_fields mem hlen hneg with ⟨h₀, h₁, -⟩
    exact ⟨h₀ ▸ hsid, h₁ ▸ hsub⟩

theorem SystemInv.clientStep (hI : SystemInv st) {mem : UDSMessage.Memory}
    (hG : Timely st (.clientStep mem)) : SystemInv (next st (.clientStep mem)) := by
  rcases st with ⟨client, server, toServer, toClient⟩
  cases toClient with
  | nil => exact hI
  | cons raw rest =>
      refine ⟨?_, ?_, ?_, ?_⟩
      · intro m hm
        rcases List.mem_append.1 hm with hm | hm
        · exact hI.requests m hm
        · exact (onUdsMessageReceived_sends hm).1
      · exact fun m hm => hI.responses m (List.mem_cons_of_mem _ hm)
      · intro h
        have hsends : ¬ Once IsDefaultRequest
            (onUdsMessageReceived client (Client.deserializeUDSMessage mem raw)).2 := by
          rintro ⟨m, hm, hdef⟩
          exact (onUdsMessageReceived_sends hm).2 hdef
        have hold : server.isAuthenticated = true ∧ ¬ Once IsDefaultRequest toServer := by
          rcases onUdsMessageReceived_completed h with h | h
          · exact hI.completed h
          · -- the access completes now: the guard rules a request for the default session out
            have hkey := isKeyResponse_of_completesAccess (hI.responses raw (by simp)) h
            have hnone : ¬ DefaultUnanswered _ := hG raw rfl hkey
            rcases not_or.1 hnone with ⟨hreq, hresp⟩
            rw [once_cons, not_or] at hresp
            exact ⟨hI.keyed (since_cons_of_not_once hkey hresp.2), hreq⟩
        refine ⟨hold.1, ?_⟩
        exact fun honce => (once_append.1 honce).elim hold.2 hsends
      · exact fun h => hI.keyed (h.cons raw)

theorem SystemInv.serverStep (hI : SystemInv st) (mem : UDSMessage.Memory) (env : HandlerEnv)
    (now latencyUs : Int64) : SystemInv (next st (.serverStep mem env now latencyUs)) := by
  rcases st with ⟨client, server, toServer, toClient⟩
  cases toServer with
  | nil => exact hI
  | cons raw rest =>
      rcases serve_spec server (hI.requests raw (by simp)) mem env now latencyUs
        with ⟨out, hout, hlen, hkey, hkeep⟩
      simp only [next, hout]
      refine ⟨fun m hm => hI.requests m (List.mem_cons_of_mem _ hm), ?_, ?_, ?_⟩
      · intro m hm
        rcases List.mem_append.1 hm with hm | hm
        · exact hI.responses m hm
        · rcases List.mem_singleton.1 hm with rfl
          exact hlen
      · intro h
        -- the request taken is not for the default session, so the server stays unlocked
        rcases hI.completed h with ⟨hauth, hno⟩
        rw [once_cons, not_or] at hno
        exact ⟨hkeep hauth fun hboth => hno.1 hboth.1, hno.2⟩
      · intro hsince
        -- the response that was just pushed is `67 02` itself, or it is not `50 01`
        rcases since_snoc.1 hsince with hnew | ⟨hold, hno⟩
        · exact hkey hnew
        · exact hkeep (hI.keyed hold) fun hboth => hno hboth.2

end

theorem SystemInv.next {st : SystemState} (hI : SystemInv st) {a : Action} (hG : Timely st a) :
    SystemInv (next st a) :=
  match a with
  | .click button => hI.click button
  | .serverStep mem env now latencyUs => hI.serverStep mem env now latencyUs
  | .clientStep _ => hI.clientStep hG

/-! ## Agreement -/

theorem systemInv_of_timely {run : List Action} (h : system.Along Timely system.init run) :
    SystemInv (system.after run) :=
  system.exec_invariant_along (fun _ _ hI hG => hI.next hG) systemInv_init h

/-- Client and server agree in every state of a run in which the client takes no `67 02` while a
request for the default session is unanswered. -/
theorem agree_of_timely {run : List Action} (h : system.Along Timely system.init run) :
    AgreeThroughout run := by
  rintro a b rfl _ _ hcompleted
  exact ((systemInv_of_timely h.left).completed hcompleted).1

/-- The extended session with its security access: seed `1`, key, session. -/
def unlockRun : List Action :=
  [.click .exBtn, .serverStep {} { digest := 1 } 0 0, .clientStep {}, .serverStep {} {} 0 0,
    .clientStep {}, .serverStep {} {} 0 0, .clientStep {}]

theorem agree_unlockRun : AgreeThroughout unlockRun :=
  agree_of_timely (by decide)

/-- The default session is clicked while `67 02` is in flight. -/
def lateUnlockRun : List Action :=
  [.click .exBtn, .serverStep {} { digest := 1 } 0 0, .clientStep {}, .serverStep {} {} 0 0,
    .click .defaultBtn, .clientStep {}, .serverStep {} {} 0 0, .clientStep {}]

/-- The client then takes itself for authenticated while the server has locked again. -/
theorem late_unlock_disagrees : ¬ ∀ run, Agree (system.after run) := by
  intro h
  exact absurd (h lateUnlockRun (by decide) (by decide) (by decide)) (by decide)

end System
end TcpCanUds
