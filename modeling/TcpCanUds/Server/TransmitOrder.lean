import TcpCanUds.Server.CanInterface

/-!
# TransmitOrder — the order of the frames on the socket

`transmit` writes directly even when older frames wait in the ring, and `onSocketWriteReady` puts a
frame it could not write behind younger ones.  Runs in which neither happens keep the order of the
calls.
-/

namespace TcpCanUds
namespace Server

open Lib

namespace Thread

def other : Thread → Thread
  | .main => .can
  | .can => .main

theorem eq_other_of_ne {t t' : Thread} (h : t' ≠ t) : t' = t.other := by
  cases t <;> cases t' <;> first | rfl | exact absurd rfl h

end Thread

def CanThread.isPushingBack : CanThread → Bool
  | .pushingBack _ => true
  | _ => false

namespace TxQueue

/-- The frames on the socket and, in the order they will be written, those on their way to it. -/
def line (q : TxQueue) : List TxFrame :=
  q.socket ++ q.held.toList ++ q.ring

/-- The frames were written in the order of the calls that gave them. -/
def SocketOrdered (q : TxQueue) : Prop :=
  q.socket.Pairwise fun f g => f.call < g.call

/-- The whole line is in the order of the calls, and pending frames are younger. -/
structure InLine (q : TxQueue) : Prop where
  ordered : q.line.Pairwise fun f g => f.call < g.call
  line_old : ∀ f ∈ q.line, f.call < q.calls
  pending_old : ∀ t f, q.pending t = some f → f.call < q.calls
  pending_behind : ∀ t g, q.pending t = some g → ∀ f ∈ q.line, f.call < g.call

theorem InLine.socketOrdered {q : TxQueue} (h : InLine q) : q.SocketOrdered := by
  have hordered := h.ordered
  rw [line, List.append_assoc] at hordered
  exact (List.pairwise_append.1 hordered).1

/-- No frame comes into the line. -/
theorem InLine.keep {q q' : TxQueue} (h : InLine q) (hline : q'.line.Sublist q.line)
    (hcalls : q.calls ≤ q'.calls) (hpending : ∀ t f, q'.pending t = some f → q.pending t = some f) :
    InLine q' where
  ordered := h.ordered.sublist hline
  line_old f hf := Nat.lt_of_lt_of_le (h.line_old f (hline.subset hf)) hcalls
  pending_old t f hf := Nat.lt_of_lt_of_le (h.pending_old t f (hpending t f hf)) hcalls
  pending_behind t g hg f hf := h.pending_behind t g (hpending t g hg) f (hline.subset hf)

/-- A frame younger than the line and older than the pending frames comes to its end. -/
theorem InLine.append {q q' : TxQueue} (h : InLine q) {f : TxFrame}
    (hline : q'.line = q.line ++ [f]) (hbehind : ∀ g ∈ q.line, g.call < f.call)
    (hold : f.call < q'.calls) (hcalls : q.calls ≤ q'.calls)
    (hpending : ∀ t g, q'.pending t = some g → q.pending t = some g ∧ f.call < g.call) :
    InLine q' where
  ordered := by
    rw [hline, List.pairwise_append]
    refine ⟨h.ordered, List.pairwise_singleton _ _, ?_⟩
    intro g hg g' hg'
    rw [List.mem_singleton.1 hg']
    exact hbehind g hg
  line_old g hg := by
    rw [hline, List.mem_append, List.mem_singleton] at hg
    rcases hg with hg | rfl
    · exact Nat.lt_of_lt_of_le (h.line_old g hg) hcalls
    · exact hold
  pending_old t g hg := Nat.lt_of_lt_of_le (h.pending_old t g (hpending t g hg).1) hcalls
  pending_behind t g hg g' hg' := by
    rw [hline, List.mem_append, List.mem_singleton] at hg'
    rcases hg' with hg' | rfl
    · exact h.pending_behind t g (hpending t g hg).1 g' hg'
    · exact (hpending t g hg).2

/-- The newest call's frame becomes pending. -/
theorem InLine.begin {q : TxQueue} (h : InLine q) (t : Thread) (frame : CanFrameData) :
    InLine
      { q with
        calls := q.calls + 1
        pending := Function.update q.pending t (some ⟨q.calls, frame⟩) } := by
  -- a pending frame is the new one or was pending before
  have hcases : ∀ t' f, Function.update q.pending t (some ⟨q.calls, frame⟩) t' = some f →
      f.call = q.calls ∨ q.pending t' = some f := by
    intro t' f hf
    by_cases ht : t' = t
    · rw [ht, Function.update_self] at hf
      exact Or.inl (by rw [← Option.some.inj hf])
    · rw [Function.update_of_ne ht] at hf
      exact Or.inr hf
  refine ⟨h.ordered, ?_, ?_, ?_⟩
  · intro f hf
    exact Nat.lt_succ_of_lt (h.line_old f hf)
  · intro t' f hf
    rcases hcases t' f hf with hnew | hold
    · exact hnew ▸ Nat.lt_succ_self _
    · exact Nat.lt_succ_of_lt (h.pending_old t' f hold)
  · intro t' g hg f hf
    rcases hcases t' g hg with hnew | hold
    · exact hnew ▸ h.line_old f hf
    · exact h.pending_behind t' g hold f hf

end TxQueue

namespace CanInterface

open TxQueue

/-! ## The steps that keep the order -/

/-- No frame waits before its write: not in the ring, not in a thread. -/
def NoneWaiting (s : CanInterface) : Prop :=
  s.m_txRingBuffer.contents = [] ∧ s.canThread.held = none ∧ s.pending .main = none ∧
    s.pending .can = none

instance (s : CanInterface) : Decidable s.NoneWaiting :=
  inferInstanceAs (Decidable (_ ∧ _ ∧ _ ∧ _))

/-- The step overtakes no frame: a direct write succeeds when none waits, a frame goes into the ring
before the younger one of the other thread, and a frame is put back into an empty ring. -/
def OvertakesNone (s : CanInterface) : TxStep → Prop
  | .transmit t frame .written =>
      s.Free t → 0 ≤ s.m_socketFd → frame.len ≤ canMaxDlen → s.NoneWaiting
  | .push t => ∀ f ∈ s.pending t, ∀ g ∈ s.pending t.other, f.call < g.call
  | .pushBack => s.canThread.isPushingBack = true → s.m_txRingBuffer.contents = []
  | .transmit _ _ _ | .activated | .pop | .write _ | .leave => True

instance (s : CanInterface) : DecidablePred s.OvertakesNone
  | .transmit _ _ .written => inferInstanceAs (Decidable (_ → _ → _ → _))
  | .push t =>
      inferInstanceAs (Decidable (∀ f ∈ s.pending t, ∀ g ∈ s.pending t.other, f.call < g.call))
  | .pushBack => inferInstanceAs (Decidable (_ → _))
  | .transmit _ _ .enobufs | .transmit _ _ .failed | .activated | .pop | .write _ | .leave =>
      isTrue trivial

theorem inLine_initialized (fd : Int) : (initialized fd).queue.InLine := by
  have hline : (initialized fd).queue.line = [] := by
    simp only [initialized, queue, line, RingBuffer.contents_empty]
    rfl
  refine ⟨?_, ?_, ?_, ?_⟩
  · simp [hline]
  · simp [hline]
  · intro t f hf
    cases t <;> cases hf
  · simp [hline]

theorem inLine_moves {s : CanInterface} (h : s.queue.InLine) {i : TxStep}
    (hi : s.OvertakesNone i) {q : TxQueue} (hm : Moves s i q) : q.InLine := by
  cases hm with
  | nothing => exact h
  | refused => exact h.keep (List.Sublist.refl _) (Nat.le_succ _) fun _ _ hf => hf
  | wrote t frame hfree hopen hlen =>
      -- none waits, so the line ends with the socket
      rcases hi hfree hopen hlen with ⟨hring, hheld, hmain, hcan⟩
      refine h.append (f := ⟨s.calls, frame.copy⟩) ?_ h.line_old (Nat.lt_succ_self _) (Nat.le_succ _) ?_
      · simp only [line, queue, hring, hheld, Option.toList_none, List.append_nil]
      · intro t' g hg
        have hnone : s.pending t' = none := by
          cases t'
          · exact hmain
          · exact hcan
        cases hnone.symm.trans hg
  | failed t frame result hfree => exact h.begin t frame.copy
  | queued t f hf =>
      refine h.append ?_ (h.pending_behind t f hf) (h.pending_old t f hf) le_rfl ?_
      · simp only [line, queue, List.append_assoc]
      · intro t' g hg
        rcases of_update_none hg with ⟨hg, hne⟩
        refine ⟨hg, hi f hf g ?_⟩
        rw [← Thread.eq_other_of_ne hne]
        exact hg
  | reported t f hf =>
      exact h.keep (List.Sublist.refl _) le_rfl fun _ _ hg => (of_update_none hg).1
  | taken f ring hheld hring =>
      refine h.keep ?_ le_rfl fun _ _ hg => hg
      simp only [line, queue, hheld, hring, Option.toList_none, Option.toList_some,
        List.append_nil, List.append_assoc, List.singleton_append, List.Sublist.refl]
  | sent f hf =>
      refine h.keep ?_ le_rfl fun _ _ hg => hg
      simp only [line, queue, hf, Option.toList_none, Option.toList_some, List.append_nil,
        List.Sublist.refl]
  | putBack f hf =>
      -- behind an empty ring the frame is still the first of those that wait
      have hring := hi (by rw [hf]; rfl)
      refine h.keep ?_ le_rfl fun _ _ hg => hg
      simp only [line, queue, hf, hring, CanThread.held, Option.toList_none, Option.toList_some,
        List.append_nil, List.nil_append, List.Sublist.refl]
  | lost f hf hfull =>
      refine h.keep ?_ le_rfl fun _ _ hg => hg
      simp only [line, queue, Option.toList_none, List.append_nil]
      exact (List.sublist_append_left _ _).append (List.Sublist.refl _)

theorem inLine_step {s : CanInterface} (h : s.queue.InLine) {i : TxStep} (hi : s.OvertakesNone i) :
    (s.step i).queue.InLine :=
  inLine_moves h hi (moves_step s i)

/-- In a run in which no step overtakes a frame, the socket shows the order of the calls at every
time. -/
theorem socketOrdered_of_overtakesNone (fd : Int) {run : List TxStep}
    (hrun : (machine fd).Along OvertakesNone (machine fd).init run) (pre : List TxStep)
    (hpre : pre <+: run) : ((machine fd).after pre).queue.SocketOrdered := by
  rcases hpre with ⟨post, rfl⟩
  exact ((machine fd).exec_invariant_along (I := fun s => s.queue.InLine)
    (fun s i hs hi => inLine_step hs hi) (inLine_initialized fd) hrun.left).socketOrdered

/-- The two frames of the runs below. -/
def firstFrame : CanFrameData where
  id := 0x7E9
  data := [0x21, 0x01, 0x02, 0x03, 0x04, 0x05, 0x06, 0x07]
  len := 8

def secondFrame : CanFrameData where
  id := 0x7E9
  data := [0x22, 0x08, 0x09, 0x0A, 0x0B, 0x0C, 0x0D, 0x0E]
  len := 8

/-- The first frame waits in the ring until it is written, then the second is written directly. -/
def orderlyRun : List TxStep :=
  [.transmit .can firstFrame .enobufs, .push .can, .activated, .pop, .write .written, .pop, .leave,
    .transmit .can secondFrame .written]

theorem orderlyRun_socketOrdered : ((machine 3).after orderlyRun).queue.SocketOrdered :=
  socketOrdered_of_overtakesNone 3 (by decide +kernel) orderlyRun List.prefix_rfl

/-- The first frame waits in the ring, and the second is written before it. -/
def overtakingRun : List TxStep :=
  [.transmit .can firstFrame .enobufs, .push .can, .transmit .can secondFrame .written, .activated,
    .pop, .write .written]

theorem direct_write_overtakes : ¬ ((machine 3).after overtakingRun).queue.SocketOrdered := by
  have hsocket : ((machine 3).after overtakingRun).queue.socket =
      [⟨1, secondFrame⟩, ⟨0, firstFrame⟩] := by decide +kernel
  rw [SocketOrdered, hsocket]
  decide

end CanInterface
end Server
end TcpCanUds
