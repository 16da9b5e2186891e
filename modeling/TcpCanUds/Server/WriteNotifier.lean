import TcpCanUds.Server.CanInterface

/-!
# WriteNotifier — when the notifier that empties the transmit ring is enabled

`onSocketWriteReady` runs only while the write notifier is enabled, and disables it when it has emptied
the ring.  `transmit` enables it again behind a push, but only in the notifier's own thread: frames
that the main thread pushes wait until the CAN thread pushes one of its own.
-/

namespace TcpCanUds
namespace Server
namespace CanInterface

open Lib

/-- No call is executing. -/
def Idle (s : CanInterface) : Prop :=
  s.mainThread = none ∧ s.canThread = .eventLoop

/-- Between calls, frames wait in the ring only while the notifier is enabled. -/
def NoneStranded (s : CanInterface) : Prop :=
  s.Idle → s.m_txRingBuffer.contents ≠ [] → s.writeNotifierEnabled = true

/-- In the run, a `transmit` of the main thread came to push the frame. -/
def PushedByMain (fd : Int) (run : List TxStep) (f : TxFrame) : Prop :=
  ∃ before later, run = before ++ .push .main :: later ∧
    ((machine fd).after before).mainThread = some f

/-! ## The invariant -/

/-- The CAN thread is in `onSocketWriteReady`. -/
def InWriteReady : CanThread → Prop
  | .popping _ | .writing _ _ _ | .pushingBack _ | .leaving => True
  | .eventLoop | .pushing _ => False

/-- The notifier is enabled, or the CAN thread is elsewhere and the ring holds only frames with `P`. -/
def EnabledOr (P : TxFrame → Prop) (s : CanInterface) : Prop :=
  s.writeNotifierEnabled = true ∨
    ¬ InWriteReady s.canThread ∧ ∀ f ∈ s.m_txRingBuffer.contents, P f

section

variable {P : TxFrame → Prop} {s : CanInterface}

theorem EnabledOr.enabled (h : EnabledOr P s) (hin : InWriteReady s.canThread) :
    s.writeNotifierEnabled = true :=
  h.resolve_right fun hout => hout.1 hin

theorem enabledOr_transmit (h : EnabledOr P s) (t : Thread) (frame : CanFrameData)
    (result : WriteResult) : EnabledOr P (s.transmit t frame result) := by
  have hpush : s.Free t → ∀ f : TxFrame,
      EnabledOr P (goesToPush { s with calls := s.calls + 1 } t f) := by
    intro hfree f
    refine h.imp ?_ ?_
    · cases t <;> exact id
    · rintro ⟨hout, hring⟩
      cases t with
      | main => exact ⟨hout, hring⟩
      | can => exact ⟨id, hring⟩
  rw [transmit]
  split_ifs with hfree hfd hlen
  · exact h
  · exact h
  · cases result with
    | written => exact h
    | enobufs | failed => exact hpush hfree _
  · exact h

theorem EnabledOr.returns (h : EnabledOr P s) (t : Thread) : EnabledOr P (s.returns t) := by
  cases t with
  | main => exact h
  | can => exact h.imp_right fun hring => ⟨id, hring.2⟩

/-- A push in the CAN thread enables the notifier, one in the main thread adds a frame with `P`. -/
theorem enabledOr_push (h : EnabledOr P s) (t : Thread)
    (hmain : t = .main → ∀ f, s.mainThread = some f → P f) : EnabledOr P (s.push t) := by
  rw [push]
  cases hf : s.pending t with
  | none => exact h
  | some f =>
      cases hring : s.m_txRingBuffer.push f with
      | none =>
          -- the ring is full and the frame is given up
          simp only [hring]
          exact h.returns t
      | some ring =>
          simp only [hring]
          refine EnabledOr.returns ?_ t
          cases t with
          | can => exact Or.inl (Bool.or_true _)
          | main =>
              -- the guard on the thread leaves the notifier as it is
              refine h.imp (fun hon => ?_) ?_
              · change (s.writeNotifierEnabled || _) = true
                rw [hon]
                rfl
              · rintro ⟨hout, hold⟩
                refine ⟨hout, ?_⟩
                intro g hg
                change g ∈ ring.contents at hg
                rw [RingBuffer.contents_push hring] at hg
                rcases List.mem_append.1 hg with hg | hg
                · exact hold g hg
                · rw [List.mem_singleton.1 hg]
                  exact hmain rfl f hf

/-- Inside `onSocketWriteReady` the notifier stays enabled up to the last step. -/
theorem EnabledOr.inside (h : EnabledOr P s) {s' : CanInterface}
    (hs' : s' = s ∨ InWriteReady s.canThread ∧ s'.writeNotifierEnabled = s.writeNotifierEnabled) :
    EnabledOr P s' := by
  rcases hs' with rfl | ⟨hin, hsame⟩
  · exact h
  · exact Or.inl (hsame.trans (h.enabled hin))

theorem pop_inside (s : CanInterface) : s.pop = s ∨
    InWriteReady s.canThread ∧ s.pop.writeNotifierEnabled = s.writeNotifierEnabled := by
  rw [pop]
  split
  next i hcan =>
    refine Or.inr ⟨by rw [hcan]; trivial, ?_⟩
    split_ifs
    · cases s.m_txRingBuffer.pop <;> rfl
    · rfl
  next => exact Or.inl rfl

theorem write_inside (s : CanInterface) (result : WriteResult) : s.write result = s ∨
    InWriteReady s.canThread ∧ (s.write result).writeNotifierEnabled = s.writeNotifierEnabled := by
  rw [write]
  split
  next i f retries hcan =>
    refine Or.inr ⟨by rw [hcan]; trivial, ?_⟩
    cases result with
    | written | failed => rfl
    | enobufs =>
        simp only
        split_ifs <;> rfl
  next => exact Or.inl rfl

theorem pushBack_inside (s : CanInterface) : s.pushBack = s ∨
    InWriteReady s.canThread ∧ s.pushBack.writeNotifierEnabled = s.writeNotifierEnabled := by
  rw [pushBack]
  split
  next f hcan => exact Or.inr ⟨by rw [hcan]; trivial, rfl⟩
  next => exact Or.inl rfl

theorem enabledOr_activated (h : EnabledOr P s) : EnabledOr P s.activated := by
  rw [activated]
  split_ifs with hready
  · exact Or.inl hready.2
  · exact h

/-- The last step disables the notifier only when the ring is empty. -/
theorem enabledOr_leave (h : EnabledOr P s) : EnabledOr P s.leave := by
  rw [leave]
  split
  next hcan =>
    have hon : s.writeNotifierEnabled = true := h.enabled (by rw [hcan]; trivial)
    cases hempty : s.m_txRingBuffer.isEmpty with
    | false =>
        -- 32 frames were not enough, the next activation goes on
        refine Or.inl ?_
        change (s.writeNotifierEnabled && !_) = true
        rw [hon]
        rfl
    | true =>
        refine Or.inr ⟨id, ?_⟩
        intro f hf
        change f ∈ s.m_txRingBuffer.contents at hf
        rw [(RingBuffer.isEmpty_iff _).1 hempty] at hf
        cases hf
  next => exact h

/-- Every step keeps the invariant, as long as the main thread pushes only frames with `P`. -/
theorem enabledOr_step (h : EnabledOr P s) (i : TxStep)
    (hmain : i = .push .main → ∀ f, s.mainThread = some f → P f) : EnabledOr P (s.step i) := by
  cases i with
  | transmit t frame result => exact enabledOr_transmit h t frame result
  | push t =>
      refine enabledOr_push h t ?_
      rintro rfl
      exact hmain rfl
  | activated => exact enabledOr_activated h
  | pop => exact h.inside (pop_inside s)
  | write result => exact h.inside (write_inside s result)
  | pushBack => exact h.inside (pushBack_inside s)
  | leave => exact enabledOr_leave h

end

theorem EnabledOr.mono {P Q : TxFrame → Prop} {s : CanInterface} (h : EnabledOr P s)
    (hPQ : ∀ f, P f → Q f) : EnabledOr Q s :=
  h.imp_right fun hring => ⟨hring.1, fun f hf => hPQ f (hring.2 f hf)⟩

/-! ## Runs -/

theorem PushedByMain.snoc {fd : Int} {run : List TxStep} {f : TxFrame} (h : PushedByMain fd run f)
    (i : TxStep) : PushedByMain fd (run ++ [i]) f := by
  rcases h with ⟨before, later, rfl, hf⟩
  exact ⟨before, later ++ [i], by simp, hf⟩

theorem enabledOr_after (fd : Int) (run : List TxStep) :
    EnabledOr (PushedByMain fd run) ((machine fd).after run) := by
  induction run using List.reverseRecOn with
  | nil =>
      refine Or.inr ⟨id, ?_⟩
      intro f hf
      have hnone : ((machine fd).after []).m_txRingBuffer.contents = [] :=
        RingBuffer.contents_empty _ _
      rw [hnone] at hf
      cases hf
  | append_singleton run i ih =>
      rw [(machine fd).after_snoc]
      refine enabledOr_step (ih.mono fun f hf => hf.snoc i) i ?_
      rintro rfl f hf
      exact ⟨run, [], rfl, hf⟩

/-- In every reachable state the notifier is enabled, or every frame in the ring was pushed by the main
thread. -/
theorem enabled_or_pushedByMain (fd : Int) (run : List TxStep) :
    ((machine fd).after run).writeNotifierEnabled = true ∨
      ∀ f ∈ ((machine fd).after run).m_txRingBuffer.contents, PushedByMain fd run f :=
  (enabledOr_after fd run).imp_right And.right

/-- The main thread sends a frame while the socket's queue is full. -/
def strandingRun : List TxStep :=
  [.transmit .main ⟨0x7E8, [0x02, 0x7E, 0x00, 0, 0, 0, 0, 0], 8⟩ .enobufs, .push .main]

/-- Its frame waits in the ring until the CAN thread pushes one. -/
theorem main_frame_stranded : ¬ ∀ fd run, NoneStranded ((machine fd).after run) := by
  intro h
  have hwaits : ((machine 3).after strandingRun).m_txRingBuffer.contents ≠ [] := fun hnone =>
    absurd ((RingBuffer.isEmpty_iff _).2 hnone) (by decide)
  exact absurd (h 3 strandingRun ⟨rfl, rfl⟩ hwaits) (by decide)

end CanInterface
end Server
end TcpCanUds
