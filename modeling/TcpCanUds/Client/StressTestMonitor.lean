import TcpCanUds.Core.Types
import TcpCanUds.Lib.SlidingWindow
import Mathlib.Algebra.Order.Field.Rat
import Mathlib.Data.Int.Basic

/-!
# StressTestMonitor — the stress test of the client (`client/stresstestmonitor.cpp`)

The monitor raises the request rate step by step and reports bus load and loss rate once a second.
`qreal` is taken as exact, and an `int` as unbounded: a rate that overflows has passed the maximum
before.  A step may go over the maximum, and an interval cut to whole milliseconds is too short for
some rates; `withinMaximum_iff` says when neither happens.
-/

namespace TcpCanUds
namespace Client

open Lib

structure QTimer where
  interval : Int
  isActive : Bool
  deriving DecidableEq, Repr

/-- A null pointer is `none`. -/
structure StressTestMonitor where
  m_timer : Option QTimer
  m_pressureTimer : Option QTimer
  m_sendTimer : Option QTimer
  m_stopTimer : Option QTimer
  m_startFreq : Int
  m_maxFreq : Int
  m_stepFreq : Int
  m_currentFreq : Int
  m_stepIntervalMs : Int
  m_testDurationSec : Int
  m_bitrate : Int
  m_totalBitsInTransit : UInt64
  m_sentRequestCount : UInt32
  m_receivedResponseCount : UInt32
  m_lastTotalBits : UInt64
  m_lastSentRequests : UInt32
  m_lastReceivedResponses : UInt32
  m_sentWindow : List UInt32
  m_recvWindow : List UInt32
  deriving DecidableEq, Repr

inductive MonitorSignal
  | statsUpdated (busLoad : ℚ) (racketLossRate : ℚ)
  | requestToSend (data : UDSMessage)
  | testFinished (totalBits : UInt64) (sentCount receivedCount : UInt32)
  deriving DecidableEq, Repr

namespace StressTestMonitor

def SLIDING_WINDOW_SIZE : Nat := 3

/-- The constructor, which leaves `m_stepIntervalMs` as the memory has it. -/
def new (m_stepIntervalMs : Int) : StressTestMonitor where
  m_timer := none
  m_pressureTimer := none
  m_sendTimer := none
  m_stopTimer := none
  m_startFreq := 10
  m_maxFreq := 100
  m_stepFreq := 10
  m_currentFreq := 10
  m_stepIntervalMs := m_stepIntervalMs
  m_testDurationSec := 300
  m_bitrate := 500000
  m_totalBitsInTransit := 0
  m_sentRequestCount := 0
  m_receivedResponseCount := 0
  m_lastTotalBits := 0
  m_lastSentRequests := 0
  m_lastReceivedResponses := 0
  m_sentWindow := []
  m_recvWindow := []

def setStressParameters (m : StressTestMonitor) (startFreq maxFreq stepFreq stepIntervalMs : Int) :
    StressTestMonitor :=
  { m with
    m_startFreq := startFreq
    m_maxFreq := maxFreq
    m_stepFreq := stepFreq
    m_stepIntervalMs := stepIntervalMs }

def setCanBitrate (m : StressTestMonitor) (bitrate : Int) : StressTestMonitor :=
  { m with m_bitrate := bitrate }

def setTestDuration (m : StressTestMonitor) (seconds : Int) : StressTestMonitor :=
  { m with m_testDurationSec := seconds }

/-- `1000 / freq` with the division of C++, and at least one millisecond.  The dialogs ask for a frequency
of at least 1; a frequency of 0 would end the program, where `Int.tdiv` gives 0. -/
def sendInterval (freq : Int) : Int :=
  let intervalMs := Int.tdiv 1000 freq
  if intervalMs < 1 then 1 else intervalMs

def start (m : StressTestMonitor) : StressTestMonitor :=
  { m with
    m_totalBitsInTransit := 0
    m_sentRequestCount := 0
    m_receivedResponseCount := 0
    m_lastTotalBits := 0
    m_lastSentRequests := 0
    m_lastReceivedResponses := 0
    m_currentFreq := m.m_startFreq
    m_timer := some { interval := 1000, isActive := true }
    m_pressureTimer := some { interval := m.m_stepIntervalMs, isActive := true }
    m_sendTimer := some { interval := sendInterval m.m_startFreq, isActive := true }
    m_stopTimer := some { interval := m.m_testDurationSec * 1000, isActive := true } }

def stop (m : StressTestMonitor) : StressTestMonitor :=
  { m with m_timer := none, m_pressureTimer := none, m_sendTimer := none, m_stopTimer := none }

/-- The loss rate over the windows.  The sums are `quint32`, their difference is an `int`. -/
def lossRate (sent3s recv3s : UInt32) : ℚ :=
  if 0 < sent3s then
    let lost := sent3s.toInt32.toInt - recv3s.toInt32.toInt
    (max 0 lost : ℚ) / sent3s.toNat * 100
  else 0

/-- `onTimerTimeout`, which reads the interval of `m_timer`. -/
def onTimerTimeout (m : StressTestMonitor) (timer : QTimer) : StressTestMonitor × MonitorSignal :=
  let timeDelta : ℚ := timer.interval / 1000
  let bitsThisSecond := m.m_totalBitsInTransit - m.m_lastTotalBits
  let load : ℚ := bitsThisSecond.toNat / timeDelta / m.m_bitrate * 100
  let sentDelta := m.m_sentRequestCount - m.m_lastSentRequests
  let receivedDelta := m.m_receivedResponseCount - m.m_lastReceivedResponses
  let appended := m.m_sentWindow ++ [sentDelta]
  let appendedRecv := m.m_recvWindow ++ [receivedDelta]
  -- the length of the window of requests decides for both
  let m_sentWindow := if SLIDING_WINDOW_SIZE < appended.length then appended.tail else appended
  let m_recvWindow :=
    if SLIDING_WINDOW_SIZE < appended.length then appendedRecv.tail else appendedRecv
  let sent3s := m_sentWindow.foldl (· + ·) 0
  let recv3s := (m_recvWindow.take m_sentWindow.length).foldl (· + ·) 0
  ({ m with
      m_sentWindow := m_sentWindow
      m_recvWindow := m_recvWindow
      m_lastTotalBits := m.m_totalBitsInTransit
      m_lastSentRequests := m.m_sentRequestCount
      m_lastReceivedResponses := m.m_receivedResponseCount },
    .statsUpdated load (lossRate sent3s recv3s))

def onTestFinished (m : StressTestMonitor) : StressTestMonitor × MonitorSignal :=
  (m.stop, .testFinished m.m_totalBitsInTransit m.m_sentRequestCount m.m_receivedResponseCount)

/-- What `onFrameSent` and `onFrameReceived` count for one frame. -/
def frameBits (payload : QByteArray) : Nat :=
  40 + payload.length * 8

def onFrameSent (m : StressTestMonitor) (payload : QByteArray) : StressTestMonitor :=
  { m with m_totalBitsInTransit := m.m_totalBitsInTransit + UInt64.ofNat (frameBits payload) }

def onFrameReceived (m : StressTestMonitor) (payload : QByteArray) : StressTestMonitor :=
  { m with m_totalBitsInTransit := m.m_totalBitsInTransit + UInt64.ofNat (frameBits payload) }

def onRequestSent (m : StressTestMonitor) : StressTestMonitor :=
  { m with m_sentRequestCount := m.m_sentRequestCount + 1 }

def onResponseReceived (m : StressTestMonitor) : StressTestMonitor :=
  { m with m_receivedResponseCount := m.m_receivedResponseCount + 1 }

def onPressureIncreaseTimeout (m : StressTestMonitor) : StressTestMonitor :=
  if m.m_currentFreq < m.m_maxFreq then
    let m_currentFreq := m.m_currentFreq + m.m_stepFreq
    { m with
      m_currentFreq := m_currentFreq
      m_sendTimer := m.m_sendTimer.map fun t => { t with interval := sendInterval m_currentFreq } }
  else
    { m with m_pressureTimer := m.m_pressureTimer.map fun t => { t with isActive := false } }

/-- `onSendFrameTimeout`; `mem` is the memory under the message it declares. -/
def onSendFrameTimeout (mem : UDSMessage.Memory) : MonitorSignal :=
  .requestToSend { UDSMessage.declare mem with serviceId := 0x3E, subFunction := 0x00 }

/-! ## Calls -/

end StressTestMonitor

/-- The public slots, and the timeouts of the timers. -/
inductive MonitorCall
  | setCanBitrate (bitrate : Int)
  | setStressParameters (startFreq maxFreq stepFreq stepIntervalMs : Int)
  | setTestDuration (seconds : Int)
  | start
  | stop
  | frameSent (payload : QByteArray)
  | frameReceived (payload : QByteArray)
  | requestSent
  | responseReceived
  | timerTimeout
  | pressureIncreaseTimeout
  | sendFrameTimeout (mem : UDSMessage.Memory)
  | testFinished
  deriving DecidableEq, Repr

namespace StressTestMonitor

/-- A deleted timer has no timeout any more.  `testFinished` may come at any time, since `start` does
not delete the stop timer of an earlier test. -/
def call (m : StressTestMonitor) : MonitorCall → StressTestMonitor × List MonitorSignal
  | .setCanBitrate bitrate => (m.setCanBitrate bitrate, [])
  | .setStressParameters startFreq maxFreq stepFreq stepIntervalMs =>
      (m.setStressParameters startFreq maxFreq stepFreq stepIntervalMs, [])
  | .setTestDuration seconds => (m.setTestDuration seconds, [])
  | .start => (m.start, [])
  | .stop => (m.stop, [])
  | .frameSent payload => (m.onFrameSent payload, [])
  | .frameReceived payload => (m.onFrameReceived payload, [])
  | .requestSent => (m.onRequestSent, [])
  | .responseReceived => (m.onResponseReceived, [])
  | .timerTimeout =>
      match m.m_timer with
      | none => (m, [])
      | some timer =>
          let ticked := m.onTimerTimeout timer
          (ticked.1, [ticked.2])
  | .pressureIncreaseTimeout =>
      if m.m_pressureTimer.any fun t => t.isActive then (m.onPressureIncreaseTimeout, [])
      else (m, [])
  | .sendFrameTimeout mem => (m, if m.m_sendTimer.isSome then [onSendFrameTimeout mem] else [])
  | .testFinished =>
      let finished := m.onTestFinished
      (finished.1, [finished.2])

/-! ## The send interval -/

theorem sendInterval_eq (freq : Int) : sendInterval freq = max 1 (1000 / freq) := by
  have hdiv : Int.tdiv 1000 freq = 1000 / freq := Int.tdiv_eq_ediv_of_nonneg (by decide)
  unfold sendInterval
  rw [hdiv]
  change (if 1000 / freq < 1 then 1 else 1000 / freq) = _
  split_ifs with hless
  · exact (max_eq_left (le_of_lt hless)).symm
  · exact (max_eq_right (Int.not_lt.1 hless)).symm

theorem one_le_sendInterval (freq : Int) : 1 ≤ sendInterval freq := by
  rw [sendInterval_eq]
  exact le_max_left _ _

/-- No rate up to a maximum that divides a second into whole milliseconds is sent too fast. -/
theorem sendInterval_mul_of_dvd {freq maximum : Int} (hpos : 0 < freq) (hle : freq ≤ maximum)
    (hdvd : maximum ∣ 1000) : 1000 ≤ sendInterval freq * maximum := by
  rcases hdvd with ⟨q, hq⟩
  have hq0 : 0 ≤ q := by
    by_contra hneg
    have hle0 : maximum * q ≤ 0 :=
      Int.mul_nonpos_of_nonneg_of_nonpos (by omega) (by omega)
    omega
  have hinterval : q ≤ sendInterval freq := by
    rw [sendInterval_eq]
    apply le_max_of_le_right
    apply (Int.le_ediv_iff_mul_le hpos).2
    calc
      q * freq ≤ q * maximum := Int.mul_le_mul_of_nonneg_left hle hq0
      _ = 1000 := by rw [hq, Int.mul_comm]
  calc
    1000 = q * maximum := by rw [hq, Int.mul_comm]
    _ ≤ sendInterval freq * maximum := Int.mul_le_mul_of_nonneg_right hinterval (by omega)

theorem sendInterval_mul_of_le {freq maximum : Int} (h : 1000 ≤ maximum) :
    1000 ≤ sendInterval freq * maximum := by
  calc
    1000 ≤ maximum := h
    _ = 1 * maximum := (Int.one_mul _).symm
    _ ≤ sendInterval freq * maximum :=
        Int.mul_le_mul_of_nonneg_right (one_le_sendInterval freq) (by omega)

/-- The quotient is cut off, so at the maximum itself the interval is long enough only when nothing
was cut off or the interval is the shortest one. -/
theorem sendInterval_mul_self_iff {maximum : Int} (hpos : 0 < maximum) :
    1000 ≤ sendInterval maximum * maximum ↔ maximum ∣ 1000 ∨ 1000 ≤ maximum := by
  constructor
  · intro h
    by_cases hlarge : 1000 ≤ maximum
    · exact .inr hlarge
    · have hquot : 1 ≤ 1000 / maximum := (Int.le_ediv_iff_mul_le hpos).2 (by omega)
      rw [sendInterval_eq, max_eq_right hquot] at h
      have hle : 1000 / maximum * maximum ≤ 1000 := Int.ediv_mul_le 1000 (by omega)
      exact .inl ⟨1000 / maximum, by rw [Int.mul_comm]; omega⟩
  · intro h
    rcases h with hdvd | hlarge
    · exact sendInterval_mul_of_dvd hpos (Int.le_refl _) hdvd
    · exact sendInterval_mul_of_le hlarge

/-! ## Raising the rate -/

/-- What a pressure tick makes of the rate. -/
def raise (maximum step freq : Int) : Int :=
  if freq < maximum then freq + step else freq

theorem dvd_raise (maximum step freq : Int) : step ∣ raise maximum step freq - freq := by
  rw [raise]
  split_ifs with h
  · exact ⟨1, by omega⟩
  · exact ⟨0, by omega⟩

theorem dvd_iterate_raise (maximum step freq : Int) (n : Nat) :
    step ∣ (raise maximum step)^[n] freq - freq := by
  induction n with
  | zero => exact ⟨0, by simp⟩
  | succ n ih =>
      rw [Function.iterate_succ_apply']
      have hsum := Int.dvd_add (dvd_raise maximum step ((raise maximum step)^[n] freq)) ih
      rwa [sub_add_sub_cancel] at hsum

theorem le_iterate_raise (maximum freq : Int) {step : Int} (hstep : 1 ≤ step) (n : Nat) :
    freq ≤ (raise maximum step)^[n] freq := by
  induction n with
  | zero => exact Int.le_refl _
  | succ n ih =>
      rw [Function.iterate_succ_apply', raise]
      split_ifs with h
      · omega
      · exact ih

/-- After enough ticks the maximum is reached or passed. -/
theorem exists_iterate_raise_ge (maximum freq : Int) {step : Int} (hstep : 1 ≤ step) :
    ∃ n, maximum ≤ (raise maximum step)^[n] freq := by
  -- on the distance that is left
  induction hdist : (maximum - freq).toNat using Nat.strongRecOn generalizing freq with
  | ind d ih =>
      by_cases hge : maximum ≤ freq
      · exact ⟨0, hge⟩
      · have hraise : raise maximum step freq = freq + step := if_pos (by omega)
        rcases ih (maximum - (freq + step)).toNat (by omega) (freq + step) rfl with ⟨n, hn⟩
        refine ⟨n + 1, ?_⟩
        rw [Function.iterate_succ_apply, hraise]
        exact hn

/-- The rate stays within the maximum exactly when the steps meet it. -/
theorem iterate_raise_le_iff {maximum step freq : Int} (hstep : 1 ≤ step) (hle : freq ≤ maximum) :
    (∀ n, (raise maximum step)^[n] freq ≤ maximum) ↔ step ∣ maximum - freq := by
  constructor
  · intro h
    rcases exists_iterate_raise_ge maximum freq hstep with ⟨n, hn⟩
    have heq : (raise maximum step)^[n] freq = maximum := Int.le_antisymm (h n) hn
    have hdvd := dvd_iterate_raise maximum step freq n
    rwa [heq] at hdvd
  · intro hdvd n
    have key : (raise maximum step)^[n] freq ≤ maximum ∧
        step ∣ maximum - (raise maximum step)^[n] freq := by
      induction n with
      | zero => exact ⟨hle, hdvd⟩
      | succ n ih =>
          rcases ih with ⟨hn, hd⟩
          rw [Function.iterate_succ_apply', raise]
          split_ifs with hlt
          · have hroom : step ≤ maximum - (raise maximum step)^[n] freq :=
              Int.le_of_dvd (by omega) hd
            refine ⟨by omega, ?_⟩
            rw [← Int.sub_sub]
            exact Int.dvd_sub hd (Int.dvd_refl step)
          · exact ⟨hn, hd⟩
    exact key.1

section
variable (m : StressTestMonitor)

@[simp] theorem m_maxFreq_onPressureIncreaseTimeout :
    m.onPressureIncreaseTimeout.m_maxFreq = m.m_maxFreq := by
  unfold onPressureIncreaseTimeout
  split_ifs with h
  · rfl
  · rfl

@[simp] theorem m_stepFreq_onPressureIncreaseTimeout :
    m.onPressureIncreaseTimeout.m_stepFreq = m.m_stepFreq := by
  unfold onPressureIncreaseTimeout
  split_ifs with h
  · rfl
  · rfl

@[simp] theorem m_currentFreq_onPressureIncreaseTimeout :
    m.onPressureIncreaseTimeout.m_currentFreq =
      raise m.m_maxFreq m.m_stepFreq m.m_currentFreq := by
  unfold onPressureIncreaseTimeout raise
  split_ifs with h
  · rfl
  · rfl

/-- The send timer runs with the interval of the current rate. -/
def SendsAtRate : Prop :=
  m.m_sendTimer = some { interval := sendInterval m.m_currentFreq, isActive := true }

theorem SendsAtRate.onPressureIncreaseTimeout {m : StressTestMonitor} (h : m.SendsAtRate) :
    m.onPressureIncreaseTimeout.SendsAtRate := by
  unfold SendsAtRate StressTestMonitor.onPressureIncreaseTimeout
  split_ifs with hlt
  · change Option.map _ m.m_sendTimer = _
    rw [h]
    rfl
  · exact h

/-- What `n` pressure ticks behind `start` make of the monitor. -/
theorem after_ticks (n : Nat) :
    (onPressureIncreaseTimeout^[n] m.start).m_maxFreq = m.m_maxFreq ∧
      (onPressureIncreaseTimeout^[n] m.start).m_stepFreq = m.m_stepFreq ∧
      (onPressureIncreaseTimeout^[n] m.start).m_currentFreq =
        (raise m.m_maxFreq m.m_stepFreq)^[n] m.m_startFreq ∧
      (onPressureIncreaseTimeout^[n] m.start).SendsAtRate := by
  induction n with
  | zero => exact ⟨rfl, rfl, rfl, rfl⟩
  | succ n ih =>
      rcases ih with ⟨hmax, hstep, hfreq, hsend⟩
      simp only [Function.iterate_succ_apply', m_maxFreq_onPressureIncreaseTimeout,
        m_stepFreq_onPressureIncreaseTimeout, m_currentFreq_onPressureIncreaseTimeout, hmax, hstep,
        hfreq, true_and]
      exact hsend.onPressureIncreaseTimeout

/-- What the stress test promises of rate and send interval. -/
structure WithinMaximum : Prop where
  freq : m.m_currentFreq ≤ m.m_maxFreq
  interval : ∃ t, m.m_sendTimer = some t ∧ 1 ≤ t.interval ∧ 1000 ≤ t.interval * m.m_maxFreq

/-- Rate and send interval stay so behind `start`, after any number of pressure ticks. -/
def StaysWithinMaximum : Prop :=
  ∀ n, WithinMaximum (onPressureIncreaseTimeout^[n] m.start)

/-- The rate stays within the maximum after any number of ticks exactly when the steps meet the
maximum, and the maximum divides a second into whole milliseconds or is over one in a millisecond. -/
theorem withinMaximum_iff (hstart : 1 ≤ m.m_startFreq) (hmax : m.m_startFreq ≤ m.m_maxFreq)
    (hstep : 1 ≤ m.m_stepFreq) :
    m.StaysWithinMaximum ↔
      m.m_stepFreq ∣ m.m_maxFreq - m.m_startFreq ∧
        (m.m_maxFreq ∣ 1000 ∨ 1000 ≤ m.m_maxFreq) := by
  have hpos : 0 < m.m_maxFreq := by omega
  constructor
  · intro h
    have hle : ∀ n, (raise m.m_maxFreq m.m_stepFreq)^[n] m.m_startFreq ≤ m.m_maxFreq := by
      intro n
      rcases after_ticks m n with ⟨hm, -, hf, -⟩
      rw [← hf, ← hm]
      exact (h n).freq
    refine ⟨(iterate_raise_le_iff hstep hmax).1 hle, ?_⟩
    -- the maximum is reached at some tick, and its own interval decides
    rcases exists_iterate_raise_ge m.m_maxFreq m.m_startFreq hstep with ⟨n, hn⟩
    rcases after_ticks m n with ⟨hm, -, hf, hsend⟩
    rcases (h n).interval with ⟨t, htimer, -, hrate⟩
    rw [hsend, Option.some.injEq] at htimer
    rw [← htimer, hm, hf, Int.le_antisymm (hle n) hn] at hrate
    exact (sendInterval_mul_self_iff hpos).1 hrate
  · intro h n
    rcases h with ⟨hdvd, hinterval⟩
    have hle := (iterate_raise_le_iff hstep hmax).2 hdvd n
    have hge := le_iterate_raise m.m_maxFreq m.m_startFreq hstep n
    rcases after_ticks m n with ⟨hm, -, hf, hsend⟩
    constructor
    case freq => rw [hf, hm]; exact hle
    case interval =>
      refine ⟨_, hsend, one_le_sendInterval _, ?_⟩
      rw [hm, hf]
      rcases hinterval with hd | hlarge
      · exact sendInterval_mul_of_dvd (by omega) hle hd
      · exact sendInterval_mul_of_le hlarge

end

/-- From 10 to 100 requests a second in steps of 10. -/
theorem withinMaximum_default : (new 2000).StaysWithinMaximum :=
  (withinMaximum_iff (new 2000) (by decide) (by decide) (by decide)).2
    ⟨⟨9, by decide⟩, .inl ⟨10, by decide⟩⟩

/-- From 10 in steps of 10 the rate passes a maximum of 15. -/
theorem exceeds_maximum :
    ¬ ∀ m : StressTestMonitor, 1 ≤ m.m_startFreq → m.m_startFreq ≤ m.m_maxFreq →
      1 ≤ m.m_stepFreq → m.StaysWithinMaximum := by
  intro h
  have hfreq := (h ((new 2000).setStressParameters 10 15 10 2000) (by decide) (by decide)
    (by decide) 1).freq
  exact absurd hfreq (by decide)

end StressTestMonitor
end Client
end TcpCanUds
