import TcpCanUds.Core.Ringbuffer
import TcpCanUds.Core.Types
import TcpCanUds.Lib.Machine
import TcpCanUds.Lib.RingBuffer

/-!
# CanInterface — the transmit path of the server's CAN socket (`core/can_interface.cpp`)

`transmit` writes a frame directly and falls back to a ring when the write fails;
`onSocketWriteReady` empties the ring.  Both are cut at their accesses to what the threads share: a
step is one `write`, one `push`, one `pop` or one `isEmpty`.  The CAN thread sets the notifier, which is
its own, in one step with the access to the ring before it.

* `CanInterface.step` — the steps of both functions in both threads;
* `TxQueue` — what a state says about the frames under way, without the ring's positions;
* `moves_step` — all that one step can do to it.
-/

namespace TcpCanUds

/-- The copy made of a frame: `len` bytes of its data. -/
def CanFrameData.copy (f : CanFrameData) : CanFrameData :=
  { f with data := f.bytes }

namespace Server

open Lib

/-- `CAN_MAX_DLEN` -/
abbrev canMaxDlen : UInt8 := 8

/-- A frame given to `transmit`, with the number of the call that gave it.  The number is not in the
code; it tells frames with equal bytes apart. -/
structure TxFrame where
  call : Nat
  frame : CanFrameData
  deriving DecidableEq, Repr

/-- What a `write` on the socket comes to. -/
inductive WriteResult where
  | written
  | enobufs
  | failed
  deriving DecidableEq, Repr

/-- The two threads that send: `CanServer` lives in the main thread, the interface and its notifiers
in the CAN thread. -/
inductive Thread where
  | main
  | can
  deriving DecidableEq, Repr

/-- Where the CAN thread stands. -/
inductive CanThread where
  | eventLoop
  /-- in `transmit`, behind a failed write -/
  | pushing (f : TxFrame)
  /-- in `onSocketWriteReady`, at the head of round `i` -/
  | popping (i : Nat)
  | writing (i : Nat) (f : TxFrame) (retries : Nat)
  /-- in `onSocketWriteReady`, behind the last write that failed -/
  | pushingBack (f : TxFrame)
  /-- in `onSocketWriteReady`, behind the loop -/
  | leaving
  deriving DecidableEq

namespace CanThread

/-- The frame held by `onSocketWriteReady`. -/
def held : CanThread → Option TxFrame
  | .writing _ f _ | .pushingBack f => some f
  | .eventLoop | .pushing _ | .popping _ | .leaving => none

/-- The frame that `transmit` has still to push. -/
def pending : CanThread → Option TxFrame
  | .pushing f => some f
  | .eventLoop | .popping _ | .writing _ _ _ | .pushingBack _ | .leaving => none

end CanThread

structure CanInterface where
  m_socketFd : Int
  m_txRingBuffer : RingBuffer TxFrame RING_BUF_SIZE
  /-- `m_writeNotifier->isEnabled()` -/
  writeNotifierEnabled : Bool
  /-- the main thread in `transmit`, behind a failed write -/
  mainThread : Option TxFrame
  canThread : CanThread
  /-- the frames written, oldest first -/
  socket : List TxFrame
  /-- how often `transmit` was called -/
  calls : Nat
  /-- the frames whose `transmit` returned without reporting them -/
  accepted : List TxFrame

namespace CanInterface

/-- The interface after a successful `init`. -/
def initialized (fd : Int) : CanInterface where
  m_socketFd := fd
  m_txRingBuffer := RingBuffer.empty 0 fun _ => ⟨0, ⟨0, [0, 0, 0, 0, 0, 0, 0, 0], 0⟩⟩
  writeNotifierEnabled := false
  mainThread := none
  canThread := .eventLoop
  socket := []
  calls := 0
  accepted := []

/-- The thread is free to call `transmit`. -/
def Free (s : CanInterface) : Thread → Prop
  | .main => s.mainThread = none
  | .can => s.canThread = .eventLoop

instance (s : CanInterface) (t : Thread) : Decidable (s.Free t) :=
  match t with
  | .main => inferInstanceAs (Decidable (s.mainThread = none))
  | .can => inferInstanceAs (Decidable (s.canThread = .eventLoop))

/-- The frame that a thread has still to push. -/
def pending (s : CanInterface) : Thread → Option TxFrame
  | .main => s.mainThread
  | .can => s.canThread.pending

/-- The CAN thread goes to the place `c`. -/
def goTo (s : CanInterface) (c : CanThread) : CanInterface :=
  { s with canThread := c }

/-- Thread `t` goes on to push `f`. -/
def goesToPush (s : CanInterface) (t : Thread) (f : TxFrame) : CanInterface :=
  match t with
  | .main => { s with mainThread := some f }
  | .can => s.goTo (.pushing f)

/-- Thread `t` is back from `transmit`. -/
def returns (s : CanInterface) : Thread → CanInterface
  | .main => { s with mainThread := none }
  | .can => s.goTo .eventLoop

/-- `transmit` up to its direct write. -/
def transmit (s : CanInterface) (t : Thread) (frame : CanFrameData) (result : WriteResult) :
    CanInterface :=
  if ¬ s.Free t then s
  -- both refusals are logged
  else if s.m_socketFd < 0 then { s with calls := s.calls + 1 }
  else if frame.len > canMaxDlen then { s with calls := s.calls + 1 }
  else
    let f : TxFrame := ⟨s.calls, frame.copy⟩
    match result with
    | .written =>
        { s with calls := s.calls + 1, socket := s.socket ++ [f], accepted := s.accepted ++ [f] }
    | .enobufs | .failed => goesToPush { s with calls := s.calls + 1 } t f

/-- The rest of `transmit` when the direct write failed: the push, and with it `setEnabled(true)`, which
only the interface's own thread calls. -/
def push (s : CanInterface) (t : Thread) : CanInterface :=
  match s.pending t with
  | none => s
  | some f =>
      match s.m_txRingBuffer.push f with
      -- logged as an overflow
      | none => s.returns t
      | some ring =>
          returns
            { s with
              m_txRingBuffer := ring
              accepted := s.accepted ++ [f]
              writeNotifierEnabled := s.writeNotifierEnabled || t = .can } t

/-- The notifier calls `onSocketWriteReady`. -/
def activated (s : CanInterface) : CanInterface :=
  if s.canThread = .eventLoop ∧ s.writeNotifierEnabled = true then
    s.goTo (.popping 0)
  else s

/-- The head of the loop: at most 32 frames in one activation. -/
def pop (s : CanInterface) : CanInterface :=
  match s.canThread with
  | .popping i =>
      if i < 32 then
        match s.m_txRingBuffer.pop with
        | none => s.goTo .leaving
        | some (f, ring) => goTo { s with m_txRingBuffer := ring } (.writing i f 0)
      else s.goTo .leaving
  | _ => s

/-- One write of the inner loop, which retries up to five times on `ENOBUFS`. -/
def write (s : CanInterface) (result : WriteResult) : CanInterface :=
  match s.canThread with
  | .writing i f retries =>
      match result with
      | .written => goTo { s with socket := s.socket ++ [f] } (.popping (i + 1))
      | .enobufs =>
          if retries < 5 then s.goTo (.writing i f (retries + 1))
          else s.goTo (.pushingBack f)
      -- any other error is not retried
      | .failed => s.goTo (.pushingBack f)
  | _ => s

/-- The push of the frame that could not be written.  Its result is not looked at. -/
def pushBack (s : CanInterface) : CanInterface :=
  match s.canThread with
  | .pushingBack f =>
      goTo { s with m_txRingBuffer := (s.m_txRingBuffer.push f).getD s.m_txRingBuffer } .leaving
  | _ => s

/-- The end of `onSocketWriteReady`. -/
def leave (s : CanInterface) : CanInterface :=
  match s.canThread with
  | .leaving =>
      goTo { s with
        writeNotifierEnabled := s.writeNotifierEnabled && !s.m_txRingBuffer.isEmpty } .eventLoop
  | _ => s

end CanInterface

/-- The steps of the two threads; a step that its thread does not stand at does nothing. -/
inductive TxStep where
  | transmit (t : Thread) (frame : CanFrameData) (result : WriteResult)
  | push (t : Thread)
  | activated
  | pop
  | write (result : WriteResult)
  | pushBack
  | leave
  deriving DecidableEq

namespace CanInterface

def step (s : CanInterface) : TxStep → CanInterface
  | .transmit t frame result => s.transmit t frame result
  | .push t => s.push t
  | .activated => s.activated
  | .pop => s.pop
  | .write result => s.write result
  | .pushBack => s.pushBack
  | .leave => s.leave

/-- The two threads in any order. -/
def machine (fd : Int) : Machine CanInterface TxStep Unit where
  init := initialized fd
  step s i := (s.step i, ())

/-! ## The frames under way -/

end CanInterface

/-- The frames under way, without the ring's positions and the threads' other places. -/
structure TxQueue where
  calls : Nat
  socket : List TxFrame
  held : Option TxFrame
  ring : List TxFrame
  pending : Thread → Option TxFrame
  accepted : List TxFrame

namespace CanInterface

def queue (s : CanInterface) : TxQueue where
  calls := s.calls
  socket := s.socket
  held := s.canThread.held
  ring := s.m_txRingBuffer.contents
  pending := s.pending
  accepted := s.accepted

/-- All that a step can do to the frames under way. -/
inductive Moves (s : CanInterface) : TxStep → TxQueue → Prop where
  | nothing (i : TxStep) : Moves s i s.queue
  | refused (i : TxStep) : Moves s i { s.queue with calls := s.calls + 1 }
  | wrote (t : Thread) (frame : CanFrameData) (hfree : s.Free t) (hopen : 0 ≤ s.m_socketFd)
      (hlen : frame.len ≤ canMaxDlen) :
      Moves s (.transmit t frame .written)
        { s.queue with
          calls := s.calls + 1
          socket := s.socket ++ [⟨s.calls, frame.copy⟩]
          accepted := s.accepted ++ [⟨s.calls, frame.copy⟩] }
  | failed (t : Thread) (frame : CanFrameData) (result : WriteResult) (hfree : s.Free t) :
      Moves s (.transmit t frame result)
        { s.queue with
          calls := s.calls + 1
          pending := Function.update s.pending t (some ⟨s.calls, frame.copy⟩) }
  | queued (t : Thread) (f : TxFrame) (hf : s.pending t = some f) :
      Moves s (.push t)
        { s.queue with
          ring := s.m_txRingBuffer.contents ++ [f]
          pending := Function.update s.pending t none
          accepted := s.accepted ++ [f] }
  | reported (t : Thread) (f : TxFrame) (hf : s.pending t = some f) :
      Moves s (.push t) { s.queue with pending := Function.update s.pending t none }
  | taken (f : TxFrame) (ring : List TxFrame) (hheld : s.canThread.held = none)
      (hring : s.m_txRingBuffer.contents = f :: ring) :
      Moves s .pop { s.queue with held := some f, ring := ring }
  | sent (f : TxFrame) (hf : s.canThread.held = some f) :
      Moves s (.write .written) { s.queue with socket := s.socket ++ [f], held := none }
  | putBack (f : TxFrame) (hf : s.canThread = .pushingBack f) :
      Moves s .pushBack
        { s.queue with held := none, ring := s.m_txRingBuffer.contents ++ [f] }
  | lost (f : TxFrame) (hf : s.canThread = .pushingBack f)
      (hfull : s.m_txRingBuffer.contents.length + 1 = RING_BUF_SIZE) :
      Moves s .pushBack { s.queue with held := none }

/-! ### What each step does -/

theorem pending_eq (s : CanInterface) :
    s.pending = fun t => match t with | .main => s.mainThread | .can => s.canThread.pending := by
  funext t
  cases t <;> rfl

/-- The CAN thread goes from one place to another. -/
theorem queue_goTo (s : CanInterface) {c : CanThread} (h : c.pending = s.canThread.pending) :
    (s.goTo c).queue = { s.queue with held := c.held } := by
  simp only [goTo, queue, pending_eq, h]

theorem queue_goTo_eq (s : CanInterface) {c : CanThread}
    (hpending : c.pending = s.canThread.pending) (hheld : c.held = s.canThread.held) :
    (s.goTo c).queue = s.queue := by
  rw [queue_goTo s hpending, hheld]
  rfl

theorem queue_goesToPush (s : CanInterface) (t : Thread) (f : TxFrame) (h : s.Free t) :
    (s.goesToPush t f).queue =
      { s.queue with pending := Function.update s.pending t (some f) } := by
  cases t with
  | main =>
      simp only [goesToPush, queue, TxQueue.mk.injEq, true_and, and_true]
      funext t'
      cases t' <;> rfl
  | can =>
      have hcan : s.canThread = .eventLoop := h
      simp only [goesToPush, goTo, queue, hcan, TxQueue.mk.injEq, true_and, and_true]
      refine ⟨rfl, ?_⟩
      funext t'
      cases t' <;> rfl

theorem queue_returns (s : CanInterface) (t : Thread) {f : TxFrame} (h : s.pending t = some f) :
    (s.returns t).queue = { s.queue with pending := Function.update s.pending t none } := by
  cases t with
  | main =>
      simp only [returns, queue, TxQueue.mk.injEq, true_and, and_true]
      funext t'
      cases t' <;> rfl
  | can =>
      -- a thread in `transmit` is not in `onSocketWriteReady`
      have hheld : s.canThread.held = none := by
        rw [pending] at h
        cases hcan : s.canThread with
        | pushing g => rfl
        | eventLoop | popping i | writing i g r | pushingBack g | leaving =>
            rw [hcan] at h
            cases h
      simp only [returns, goTo, queue, hheld, TxQueue.mk.injEq, true_and, and_true]
      refine ⟨rfl, ?_⟩
      funext t'
      cases t' <;> rfl

theorem of_update_none {s : CanInterface} {t t' : Thread} {f : TxFrame}
    (h : Function.update s.pending t none t' = some f) : s.pending t' = some f ∧ t' ≠ t := by
  by_cases ht : t' = t
  · rw [ht, Function.update_self] at h
    cases h
  · rw [Function.update_of_ne ht] at h
    exact ⟨h, ht⟩

theorem moves_transmit (s : CanInterface) (t : Thread) (frame : CanFrameData)
    (result : WriteResult) :
    Moves s (.transmit t frame result) (s.transmit t frame result).queue := by
  rw [transmit]
  by_cases hfree : s.Free t
  · rw [if_neg (not_not.2 hfree)]
    split_ifs with hfd hlen
    · exact .refused _
    · exact .refused _
    · have hfailed : Moves s (.transmit t frame result)
          (goesToPush { s with calls := s.calls + 1 } t ⟨s.calls, frame.copy⟩).queue := by
        rw [queue_goesToPush _ _ _ (by cases t <;> exact hfree)]
        exact .failed t frame result hfree
      cases result with
      | written => exact .wrote t frame hfree (Int.not_lt.1 hfd) (UInt8.not_lt.1 hlen)
      | enobufs => exact hfailed
      | failed => exact hfailed
  · rw [if_pos hfree]
    exact .nothing _

theorem moves_push (s : CanInterface) (t : Thread) : Moves s (.push t) (s.push t).queue := by
  rw [push]
  cases hf : s.pending t with
  | none => exact .nothing _
  | some f =>
      cases hring : s.m_txRingBuffer.push f with
      | none =>
          simp only [hring]
          rw [queue_returns s t hf]
          exact .reported t f hf
      | some ring =>
          simp only [hring]
          rw [queue_returns (f := f) _ t (by cases t <;> exact hf)]
          simp only [queue, RingBuffer.contents_push hring]
          exact .queued t f hf

theorem moves_activated (s : CanInterface) : Moves s .activated s.activated.queue := by
  rw [activated]
  split_ifs with h
  · rw [queue_goTo_eq s (by rw [h.1]; rfl) (by rw [h.1]; rfl)]
    exact .nothing _
  · exact .nothing _

theorem moves_pop (s : CanInterface) : Moves s .pop s.pop.queue := by
  rw [pop]
  split
  next i hcan =>
    have hleaving : Moves s .pop (s.goTo .leaving).queue := by
      rw [queue_goTo_eq s (by rw [hcan]; rfl) (by rw [hcan]; rfl)]
      exact .nothing _
    split_ifs
    · cases hring : s.m_txRingBuffer.pop with
      | none => exact hleaving
      | some popped =>
          rcases popped with ⟨f, ring⟩
          simp only
          rw [queue_goTo _ (by change none = s.canThread.pending; rw [hcan]; rfl)]
          exact .taken f ring.contents (by rw [hcan]; rfl) (RingBuffer.contents_pop hring)
    · exact hleaving
  next => exact .nothing _

theorem moves_write (s : CanInterface) (result : WriteResult) :
    Moves s (.write result) (s.write result).queue := by
  rw [write]
  split
  next i f retries hcan =>
    -- a failed write keeps the frame where it is
    have hkeeps : ∀ c : CanThread, c.pending = none → c.held = some f →
        Moves s (.write result) (s.goTo c).queue := by
      intro c hpending hheld
      rw [queue_goTo_eq s (by rw [hcan, hpending]; rfl) (by rw [hcan, hheld]; rfl)]
      exact .nothing _
    cases result with
    | written =>
        simp only
        rw [queue_goTo _ (by change none = s.canThread.pending; rw [hcan]; rfl)]
        exact .sent f (by rw [hcan]; rfl)
    | enobufs =>
        simp only
        split_ifs
        · exact hkeeps _ rfl rfl
        · exact hkeeps _ rfl rfl
    | failed => exact hkeeps _ rfl rfl
  next => exact .nothing _

theorem moves_pushBack (s : CanInterface) : Moves s .pushBack s.pushBack.queue := by
  rw [pushBack]
  split
  next f hcan =>
    rw [queue_goTo _ (by change none = s.canThread.pending; rw [hcan]; rfl)]
    cases hring : s.m_txRingBuffer.push f with
    | none => exact .lost f hcan ((RingBuffer.push_eq_none_iff _ _).1 hring)
    | some ring =>
        simp only [Option.getD_some, queue, RingBuffer.contents_push hring]
        exact .putBack f hcan
  next => exact .nothing _

theorem moves_leave (s : CanInterface) : Moves s .leave s.leave.queue := by
  rw [leave]
  split
  next hcan =>
    rw [queue_goTo_eq _ (by change none = s.canThread.pending; rw [hcan]; rfl)
      (by change none = s.canThread.held; rw [hcan]; rfl)]
    exact .nothing _
  next => exact .nothing _

/-- A step moves the frames under way in one of the listed ways. -/
theorem moves_step (s : CanInterface) (i : TxStep) : Moves s i (s.step i).queue := by
  cases i with
  | transmit t frame result => exact moves_transmit s t frame result
  | push t => exact moves_push s t
  | activated => exact moves_activated s
  | pop => exact moves_pop s
  | write result => exact moves_write s result
  | pushBack => exact moves_pushBack s
  | leave => exact moves_leave s

end CanInterface
end Server
end TcpCanUds
