import TcpCanUds.Client.StressTestMonitor
import Mathlib.Data.UInt
import Mathlib.Tactic.Ring

/-!
# LossRate — the loss rate the stress test reports

Requests and responses are counted by two meters over the last three seconds.  `start` restarts both
but keeps their samples, so the rate of a second test on one monitor is that of the test alone when the
samples that are still counted are zero.
-/

namespace TcpCanUds
namespace Client

open Lib

namespace StressTestMonitor

/-- The calls on one monitor, one after the other. -/
def calls (m_stepIntervalMs : Int) :
    Machine StressTestMonitor MonitorCall (List MonitorSignal) where
  init := new m_stepIntervalMs
  step := call

/-! ## What the loss rate should be -/

/-- What a call means for the number of requests. -/
def requestPulse : MonitorCall × List MonitorSignal → Option (Pulse Nat)
  | (.requestSent, _) => some (.add 1)
  | (.timerTimeout, [.statsUpdated _ _]) => some .tick
  | (.start, _) => some .restart
  | _ => none

/-- What a call means for the number of responses. -/
def responsePulse : MonitorCall × List MonitorSignal → Option (Pulse Nat)
  | (.responseReceived, _) => some (.add 1)
  | (.timerTimeout, [.statsUpdated _ _]) => some .tick
  | (.start, _) => some .restart
  | _ => none

/-- How many requests were signalled since the latest `start` within the last three periods, the one
that is open included. -/
def requests (m_stepIntervalMs : Int) (cs : List MonitorCall) : Nat :=
  Pulse.recent 2 (((calls m_stepIntervalMs).history cs).filterMap requestPulse).reverse

def responses (m_stepIntervalMs : Int) (cs : List MonitorCall) : Nat :=
  Pulse.recent 2 (((calls m_stepIntervalMs).history cs).filterMap responsePulse).reverse

def lossOf (sent received : Nat) : ℚ :=
  if sent = 0 then 0 else 100 * max 0 ((sent : ℚ) - received) / sent

/-- A `start` finds no samples other than zero among the last two of both windows, which the next tick
still counts. -/
def CleanStart (m : StressTestMonitor) (c : MonitorCall) : Prop :=
  c = .start → ∀ x ∈ m.m_sentWindow.reverse.take 2 ++ m.m_recvWindow.reverse.take 2, x = 0

instance (m : StressTestMonitor) (c : MonitorCall) : Decidable (CleanStart m c) :=
  -- by the list, not by all values of an `UInt32`
  haveI : Decidable (∀ x ∈ m.m_sentWindow.reverse.take 2 ++ m.m_recvWindow.reverse.take 2, x = 0) :=
    List.decidableBAll _ _
  inferInstanceAs (Decidable (_ → _))

/-! ## The two meters of the monitor -/

def sentMeter (m : StressTestMonitor) : Meter UInt32 where
  total := m.m_sentRequestCount
  last := m.m_lastSentRequests
  window := m.m_sentWindow

def recvMeter (m : StressTestMonitor) : Meter UInt32 where
  total := m.m_receivedResponseCount
  last := m.m_lastReceivedResponses
  window := m.m_recvWindow

/-- The pulses of a history for meters that count in `quint32`. -/
def pulses (f : MonitorCall × List MonitorSignal → Option (Pulse Nat))
    (history : List (MonitorCall × List MonitorSignal)) : List (Pulse UInt32) :=
  (history.filterMap f).map (Pulse.map UInt32.ofNat)

def pulseStep (μ : Meter UInt32) : Option (Pulse Nat) → Meter UInt32
  | none => μ
  | some p => ((Meter.machine SLIDING_WINDOW_SIZE).step μ (p.map UInt32.ofNat)).1

theorem after_pulses_snoc (f : MonitorCall × List MonitorSignal → Option (Pulse Nat))
    (t : List (MonitorCall × List MonitorSignal)) (e : MonitorCall × List MonitorSignal) :
    (Meter.machine SLIDING_WINDOW_SIZE).after (pulses f (t ++ [e])) =
      pulseStep ((Meter.machine SLIDING_WINDOW_SIZE).after (pulses f t)) (f e) := by
  rw [pulses, List.filterMap_append, List.map_append]
  cases h : f e with
  | none => simp [h, pulseStep, pulses]
  | some p =>
      simp only [List.filterMap_cons, h, List.filterMap_nil, List.map_cons, List.map_nil]
      exact Machine.after_snoc _ _ _

theorem sentMeter_call (m : StressTestMonitor) (c : MonitorCall) :
    (m.call c).1.sentMeter = pulseStep m.sentMeter (requestPulse (c, (m.call c).2)) := by
  cases c with
  | timerTimeout =>
      simp only [call]
      cases m.m_timer with
      | none => rfl
      | some timer => rfl
  | pressureIncreaseTimeout =>
      simp only [call, onPressureIncreaseTimeout]
      split_ifs with hactive hlt
      · rfl
      · rfl
      · rfl
  | _ => rfl

/-- The windows are as long as each other, so the loop over them reads both to the end. -/
def SameLength (m : StressTestMonitor) : Prop :=
  m.m_sentWindow.length = m.m_recvWindow.length

theorem length_appended {m : StressTestMonitor} (h : m.SameLength) (sent received : UInt32) :
    (m.m_sentWindow ++ [sent]).length = (m.m_recvWindow ++ [received]).length := by
  rw [List.length_append, List.length_append, h]
  rfl

theorem length_windows_onTimerTimeout {m : StressTestMonitor} (h : m.SameLength) (timer : QTimer) :
    (m.onTimerTimeout timer).1.SameLength := by
  simp only [SameLength, onTimerTimeout] at h ⊢
  split_ifs with hfull
  · simp [h]
  · simp [h]

theorem sameLength_call {m : StressTestMonitor} (h : m.SameLength) (c : MonitorCall) :
    (m.call c).1.SameLength := by
  cases c with
  | timerTimeout =>
      simp only [call]
      cases m.m_timer with
      | none => exact h
      | some timer => exact length_windows_onTimerTimeout h timer
  | pressureIncreaseTimeout =>
      simp only [call, onPressureIncreaseTimeout]
      split_ifs with hactive hlt
      · exact h
      · exact h
      · exact h
  | _ => exact h

/-- The window of responses is cut by the length of the window of requests, which is its own. -/
theorem recvMeter_call {m : StressTestMonitor} (h : m.SameLength) (c : MonitorCall) :
    (m.call c).1.recvMeter = pulseStep m.recvMeter (responsePulse (c, (m.call c).2)) := by
  cases c with
  | timerTimeout =>
      simp only [call]
      cases m.m_timer with
      | none => rfl
      | some timer =>
          -- the test on the window of requests is one on the window of responses
          simp only [onTimerTimeout, length_appended h _
            (m.m_receivedResponseCount - m.m_lastReceivedResponses)]
          rfl
  | pressureIncreaseTimeout =>
      simp only [call, onPressureIncreaseTimeout]
      split_ifs with hactive hlt
      · rfl
      · rfl
      · rfl
  | _ => rfl

section
variable (m_stepIntervalMs : Int) (cs : List MonitorCall)

/-- After every run the fields are those of two meters that were given the pulses of the history. -/
theorem meters_after :
    ((calls m_stepIntervalMs).after cs).SameLength ∧
      ((calls m_stepIntervalMs).after cs).sentMeter =
        (Meter.machine SLIDING_WINDOW_SIZE).after
          (pulses requestPulse ((calls m_stepIntervalMs).history cs)) ∧
      ((calls m_stepIntervalMs).after cs).recvMeter =
        (Meter.machine SLIDING_WINDOW_SIZE).after
          (pulses responsePulse ((calls m_stepIntervalMs).history cs)) := by
  refine (calls m_stepIntervalMs).history_invariant (I := fun m t => m.SameLength ∧
    m.sentMeter = (Meter.machine SLIDING_WINDOW_SIZE).after (pulses requestPulse t) ∧
    m.recvMeter = (Meter.machine SLIDING_WINDOW_SIZE).after (pulses responsePulse t))
    ⟨rfl, rfl, rfl⟩ ?_ cs
  intro m t c h
  rcases h with ⟨hlen, hsent, hrecv⟩
  rw [after_pulses_snoc, after_pulses_snoc, ← hsent, ← hrecv]
  exact ⟨sameLength_call hlen c, sentMeter_call m c, recvMeter_call hlen c⟩

variable {m_stepIntervalMs cs}

/-- The restarts of a meter are clean when every `start` finds samples of zero in its window. -/
theorem along_pulses {f : MonitorCall × List MonitorSignal → Option (Pulse Nat)}
    {view : StressTestMonitor → Meter UInt32}
    (hview : ∀ cs, view ((calls m_stepIntervalMs).after cs) =
      (Meter.machine SLIDING_WINDOW_SIZE).after (pulses f ((calls m_stepIntervalMs).history cs)))
    (hclean : ∀ m c signals, CleanStart m c → f (c, signals) = some .restart →
      ∀ x ∈ (view m).window.reverse.take 2, x = 0)
    (h : (calls m_stepIntervalMs).Along CleanStart (calls m_stepIntervalMs).init cs) :
    (Meter.machine SLIDING_WINDOW_SIZE).Along (Meter.CleanRestart SLIDING_WINDOW_SIZE)
      (Meter.machine SLIDING_WINDOW_SIZE).init
      (pulses f ((calls m_stepIntervalMs).history cs)) := by
  induction cs using List.reverseRecOn with
  | nil => trivial
  | append_singleton cs c ih =>
      rcases (Machine.along_snoc _).1 h with ⟨hbefore, hc⟩
      rw [Machine.history_snoc, pulses, List.filterMap_append, List.map_append]
      refine (Machine.along_append _).2 ⟨ih hbefore, ?_⟩
      change Machine.Along _ _ ((Meter.machine SLIDING_WINDOW_SIZE).after (pulses f _)) _
      rw [← hview cs]
      cases hp : f (c, (((calls m_stepIntervalMs).step ((calls m_stepIntervalMs).after cs) c).2)) with
      | none => simp [hp, Machine.Along]
      | some p =>
          simp only [List.filterMap_cons, hp, List.filterMap_nil, List.map_cons, List.map_nil]
          refine ⟨?_, trivial⟩
          intro hrestart
          apply hclean _ c _ hc
          rw [hp]
          cases p with
          | restart => rfl
          | add x => cases hrestart
          | tick => cases hrestart

end

/-! ## The rate that is reported -/

/-- The cast to `int` keeps what is below `2^31`. -/
theorem toInt_ofNat {n : Nat} (h : n < 2 ^ 31) : (UInt32.ofNat n).toInt32.toInt = (n : Int) := by
  have hnat : (UInt32.ofNat n).toBitVec.toNat = n := by
    rw [UInt32.toNat_toBitVec, UInt32.toNat_ofNat_of_lt']
    exact Nat.lt_trans h (by decide)
  change (UInt32.ofNat n).toBitVec.toInt = _
  rw [BitVec.toInt_eq_toNat_of_lt, hnat]
  rw [hnat]
  omega

theorem lossRate_ofNat {sent received : Nat} (hsent : sent < 2 ^ 31) (hreceived : received < 2 ^ 31) :
    lossRate (UInt32.ofNat sent) (UInt32.ofNat received) = lossOf sent received := by
  have hnat : (UInt32.ofNat sent).toNat = sent :=
    UInt32.toNat_ofNat_of_lt' (Nat.lt_trans hsent (by decide))
  have hpos : 0 < UInt32.ofNat sent ↔ ¬ sent = 0 := by
    rw [UInt32.lt_iff_toNat_lt, hnat]
    exact Nat.pos_iff_ne_zero
  rw [lossRate, lossOf]
  by_cases hzero : sent = 0
  · rw [if_neg (mt hpos.1 (not_not.2 hzero)), if_pos hzero]
  · rw [if_pos (hpos.2 hzero), if_neg hzero, hnat, toInt_ofNat hsent, toInt_ofNat hreceived]
    push_cast
    ring

theorem m_recvWindow_onTimerTimeout {m : StressTestMonitor} (h : m.SameLength) (timer : QTimer) :
    (m.onTimerTimeout timer).1.m_recvWindow =
      Meter.slide SLIDING_WINDOW_SIZE m.m_recvWindow m.recvMeter.delta := by
  simp only [onTimerTimeout, length_appended h _
    (m.m_receivedResponseCount - m.m_lastReceivedResponses)]
  rfl

/-- A tick reports the rate of the sums over both windows. -/
theorem signal_onTimerTimeout {m : StressTestMonitor} (h : m.SameLength) (timer : QTimer) :
    ∃ busLoad, (m.onTimerTimeout timer).2 = .statsUpdated busLoad
      (lossRate (Meter.slide SLIDING_WINDOW_SIZE m.m_sentWindow m.sentMeter.delta).sum
        (Meter.slide SLIDING_WINDOW_SIZE m.m_recvWindow m.recvMeter.delta).sum) := by
  have hlen := length_windows_onTimerTimeout h timer
  refine ⟨_, congrArg (MonitorSignal.statsUpdated _) ?_⟩
  calc
    lossRate ((m.onTimerTimeout timer).1.m_sentWindow.foldl (· + ·) 0)
        (((m.onTimerTimeout timer).1.m_recvWindow.take
          (m.onTimerTimeout timer).1.m_sentWindow.length).foldl (· + ·) 0)
        = lossRate ((m.onTimerTimeout timer).1.m_sentWindow.sum)
            ((m.onTimerTimeout timer).1.m_recvWindow.sum) := by
          rw [hlen, List.take_length, List.sum_eq_foldl, List.sum_eq_foldl]
    _ = _ := by
          rw [m_recvWindow_onTimerTimeout h timer]
          rfl

theorem start_of_requestPulse {e : MonitorCall × List MonitorSignal}
    (h : requestPulse e = some .restart) : e.1 = .start := by
  unfold requestPulse at h
  split at h
  · cases h
  · cases h
  · rfl
  · cases h

theorem start_of_responsePulse {e : MonitorCall × List MonitorSignal}
    (h : responsePulse e = some .restart) : e.1 = .start := by
  unfold responsePulse at h
  split at h
  · cases h
  · cases h
  · rfl
  · cases h

/-- The sum over a window is what its pulses brought within the last three periods. -/
theorem sum_slide {f : MonitorCall × List MonitorSignal → Option (Pulse Nat)}
    {history : List (MonitorCall × List MonitorSignal)} {μ : Meter UInt32}
    (hafter : μ = (Meter.machine SLIDING_WINDOW_SIZE).after (pulses f history))
    (h : (Meter.machine SLIDING_WINDOW_SIZE).Along (Meter.CleanRestart SLIDING_WINDOW_SIZE)
      (Meter.machine SLIDING_WINDOW_SIZE).init (pulses f history)) :
    (Meter.slide SLIDING_WINDOW_SIZE μ.window μ.delta).sum =
      UInt32.ofNat (Pulse.recent 2 (history.filterMap f).reverse) := by
  have hanswer := Meter.tick_answer (by decide) h
  rw [← hafter, pulses, ← List.map_reverse,
    Pulse.recent_map rfl (fun _ _ => UInt32.ofNat_add _ _)] at hanswer
  exact Option.some.inj hanswer

/-- In a run whose starts find no old samples that are still counted, every tick reports the loss rate
of the current test over its last three periods. -/
theorem lossRate_of_cleanStart {m_stepIntervalMs : Int} {cs : List MonitorCall}
    (h : (calls m_stepIntervalMs).Along CleanStart (calls m_stepIntervalMs).init cs)
    {busLoad racketLossRate : ℚ}
    (htick : .statsUpdated busLoad racketLossRate ∈
      (((calls m_stepIntervalMs).after cs).call .timerTimeout).2)
    (hsent : requests m_stepIntervalMs cs < 2 ^ 31)
    (hreceived : responses m_stepIntervalMs cs < 2 ^ 31) :
    racketLossRate = lossOf (requests m_stepIntervalMs cs) (responses m_stepIntervalMs cs) := by
  rcases meters_after m_stepIntervalMs cs with ⟨hlen, hsentMeter, hrecvMeter⟩
  have hsentClean := along_pulses (fun cs => (meters_after m_stepIntervalMs cs).2.1)
    (fun _ _ _ hc hp x hx => hc (start_of_requestPulse hp) x (List.mem_append_left _ hx)) h
  have hrecvClean := along_pulses (fun cs => (meters_after m_stepIntervalMs cs).2.2)
    (fun _ _ _ hc hp x hx => hc (start_of_responsePulse hp) x (List.mem_append_right _ hx)) h
  rw [call] at htick
  cases htimer : ((calls m_stepIntervalMs).after cs).m_timer with
  | none =>
      rw [htimer] at htick
      cases htick
  | some timer =>
      rw [htimer] at htick
      rcases signal_onTimerTimeout hlen timer with ⟨load, hsignal⟩
      have hreported := List.mem_singleton.1 htick
      rw [hsignal] at hreported
      calc
        racketLossRate = _ := (MonitorSignal.statsUpdated.inj hreported).2
        _ = lossRate (UInt32.ofNat (requests m_stepIntervalMs cs))
              (UInt32.ofNat (responses m_stepIntervalMs cs)) :=
            congrArg₂ lossRate (sum_slide hsentMeter hsentClean) (sum_slide hrecvMeter hrecvClean)
        _ = _ := lossRate_ofNat hsent hreceived

/-- A test that gets no response to its request, and the start of another one. -/
def requestLeftBehind : List MonitorCall :=
  [.start, .requestSent, .timerTimeout, .stop, .start]

/-- A second test behind two ticks without a request; it loses one of its two. -/
def startedWhenIdle : List MonitorCall :=
  [.start, .requestSent, .timerTimeout, .timerTimeout, .timerTimeout, .stop, .start, .requestSent,
    .responseReceived, .timerTimeout, .requestSent]

theorem lossRate_of_cleanStart_sample :
    (50 : ℚ) = lossOf (requests 2000 startedWhenIdle) (responses 2000 startedWhenIdle) :=
  lossRate_of_cleanStart (by decide +kernel)
    (show MonitorSignal.statsUpdated 0 50 ∈ _ by decide +kernel) (by decide +kernel)
    (by decide +kernel)

/-- The request of a first test that got no response is counted in the second test. -/
theorem stale_sample_counted :
    ¬ ∀ (m_stepIntervalMs : Int) (cs : List MonitorCall) (busLoad racketLossRate : ℚ),
      .statsUpdated busLoad racketLossRate ∈
          (((calls m_stepIntervalMs).after cs).call .timerTimeout).2 →
        requests m_stepIntervalMs cs < 2 ^ 31 → responses m_stepIntervalMs cs < 2 ^ 31 →
          racketLossRate =
            lossOf (requests m_stepIntervalMs cs) (responses m_stepIntervalMs cs) := by
  intro h
  have hloss := h 2000 requestLeftBehind 0 100 (by decide +kernel) (by decide +kernel)
    (by decide +kernel)
  exact absurd hloss (by decide +kernel)

end StressTestMonitor
end Client
end TcpCanUds
