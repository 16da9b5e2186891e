import TcpCanUds.Lib.BoundedQueue
import Mathlib.Data.Int.Basic

/-!
# Ringbuffer — the frame buffer of both programs (`core/ring_buffer.h`)

The class as it is written: positions are `int`s, moved with the `%` of C++, and the array is
indexed with them.  An index outside of the array has no element, and an operation that uses one has
no answer.  The capacity is a parameter, `4096` on the server and `128` on the client; `reset` is in
the client's header only.
-/

namespace TcpCanUds

open Lib

universe u

namespace Server
abbrev RING_BUF_SIZE : Nat := 4096
end Server

namespace Client
def RING_BUF_SIZE : Nat := 128
end Client

structure Ringbuffer (F : Type u) (RING_BUF_SIZE : Nat) where
  m_buffer : Fin RING_BUF_SIZE → F
  m_head : Int
  m_tail : Int

namespace Ringbuffer

variable {F : Type u} {RING_BUF_SIZE : Nat}

/-- The element of `m_buffer` that an index means, if there is one. -/
def element (i : Int) : Option (Fin RING_BUF_SIZE) :=
  if h : 0 ≤ i ∧ i.toNat < RING_BUF_SIZE then some ⟨i.toNat, h.2⟩ else none

/-- The constructor; `zero` is the frame whose bytes are all zero. -/
def init (zero : F) : Ringbuffer F RING_BUF_SIZE where
  m_buffer _ := zero
  m_head := 0
  m_tail := 0

/-- `push`: what it returns, and the buffer behind it. -/
def push (r : Ringbuffer F RING_BUF_SIZE) (frame : F) :
    Option (Bool × Ringbuffer F RING_BUF_SIZE) :=
  let next := (r.m_head + 1).tmod RING_BUF_SIZE
  if next = r.m_tail then some (false, r)
  else
    (element r.m_head).map fun i =>
      (true, { r with m_buffer := Function.update r.m_buffer i frame, m_head := next })

/-- `pop`: the frame, when it returns true, and the buffer behind it. -/
def pop (r : Ringbuffer F RING_BUF_SIZE) : Option (Option F × Ringbuffer F RING_BUF_SIZE) :=
  if r.m_tail = r.m_head then some (none, r)
  else
    (element r.m_tail).map fun i =>
      (some (r.m_buffer i), { r with m_tail := (r.m_tail + 1).tmod RING_BUF_SIZE })

def isEmpty (r : Ringbuffer F RING_BUF_SIZE) : Bool :=
  r.m_head = r.m_tail

def count (r : Ringbuffer F RING_BUF_SIZE) : Int :=
  (r.m_head - r.m_tail + RING_BUF_SIZE).tmod RING_BUF_SIZE

def reset (r : Ringbuffer F RING_BUF_SIZE) : Ringbuffer F RING_BUF_SIZE :=
  { r with m_head := 0, m_tail := 0 }

/-- The calls on one buffer, one after the other.  No answer means an index outside of the array. -/
def calls (RING_BUF_SIZE : Nat) (zero : F) :
    Machine (Ringbuffer F RING_BUF_SIZE) (QueueOp F) (Option (QueueAnswer F)) where
  init := init zero
  step r
    | .push frame =>
        match r.push frame with
        | none => (r, none)
        | some (ok, r') => (r', some (.pushed ok))
    | .pop =>
        match r.pop with
        | none => (r, none)
        | some (frame, r') => (r', some (.popped frame))
    | .isEmpty => (r, some (.isEmpty r.isEmpty))
    | .count => (r, some (.count r.count))
    | .reset => (r.reset, some .reset)

/-! ## Positions inside of the array -/

/-- The positions of a ring over `Fin`, as the integers the class keeps. -/
def ofRing (q : RingBuffer F RING_BUF_SIZE) : Ringbuffer F RING_BUF_SIZE where
  m_buffer := q.buffer
  m_head := (q.head : Nat)
  m_tail := (q.tail : Nat)

theorem element_cast (i : Fin RING_BUF_SIZE) : element ((i : Nat) : Int) = some i := by
  have hi : 0 ≤ ((i : Nat) : Int) ∧ ((i : Nat) : Int).toNat < RING_BUF_SIZE :=
    ⟨Int.natCast_nonneg _, i.isLt⟩
  rw [element, dif_pos hi]
  rfl

/-- On positions inside of the array the `%` of C++ is the ring's next slot. -/
theorem next_cast (i : Fin RING_BUF_SIZE) :
    (((i : Nat) : Int) + 1).tmod RING_BUF_SIZE = ((RingBuffer.slot i 1 : Nat) : Int) := by
  rw [RingBuffer.slot_val, Int.natCast_emod]
  exact Int.tmod_eq_emod_of_nonneg (by omega)

theorem push_ofRing (q : RingBuffer F RING_BUF_SIZE) (frame : F) :
    (ofRing q).push frame =
      match q.push frame with
      | none => some (false, ofRing q)
      | some q' => some (true, ofRing q') := by
  simp only [push, ofRing, next_cast, element_cast, Int.natCast_inj, Fin.val_inj, RingBuffer.push]
  split_ifs with hfull
  · rfl
  · rfl

theorem pop_ofRing (q : RingBuffer F RING_BUF_SIZE) :
    (ofRing q).pop =
      match q.pop with
      | none => some (none, ofRing q)
      | some (frame, q') => some (some frame, ofRing q') := by
  simp only [pop, ofRing, next_cast, element_cast, Int.natCast_inj, Fin.val_inj, RingBuffer.pop]
  split_ifs with hempty
  · rfl
  · rfl

theorem isEmpty_ofRing (q : RingBuffer F RING_BUF_SIZE) : (ofRing q).isEmpty = q.isEmpty := by
  simp only [isEmpty, ofRing, RingBuffer.isEmpty, Int.natCast_inj, Fin.val_inj]

/-- The difference of the positions never falls below zero before the `%` is taken. -/
theorem count_ofRing (q : RingBuffer F RING_BUF_SIZE) : (ofRing q).count = (q.count : Int) := by
  have hhead := q.head.isLt
  have htail := q.tail.isLt
  have hsum : ((q.head : Nat) : Int) - ((q.tail : Nat) : Int) + (RING_BUF_SIZE : Int)
      = ((q.head + RING_BUF_SIZE - q.tail : Nat) : Int) := by omega
  rw [count, ofRing, hsum, RingBuffer.count, Int.natCast_emod]
  exact Int.tmod_eq_emod_of_nonneg (Int.natCast_nonneg _)

/-! ## The class is the ring, and the ring is the queue -/

section
variable (hpos : 0 < RING_BUF_SIZE) (zero : F)

/-- Every call on positions inside of the array is the ring's, and has an answer. -/
theorem calls_ofRing (q : RingBuffer F RING_BUF_SIZE) (op : QueueOp F) :
    (calls RING_BUF_SIZE zero).step (ofRing q) op =
      (ofRing ((BoundedQueue.ring ⟨0, hpos⟩ fun _ => zero).step q op).1,
        some ((BoundedQueue.ring ⟨0, hpos⟩ fun _ => zero).step q op).2) := by
  cases op with
  | push frame =>
      simp only [calls, push_ofRing, BoundedQueue.ring]
      cases q.push frame with
      | none => rfl
      | some q' => rfl
  | pop =>
      simp only [calls, pop_ofRing, BoundedQueue.ring]
      cases q.pop with
      | none => rfl
      | some fq => rfl
  | isEmpty => simp only [calls, isEmpty_ofRing, BoundedQueue.ring]
  | count => simp only [calls, count_ofRing, BoundedQueue.ring]
  | reset => rfl

theorem calls_simulate_ring (ops : List (QueueOp F)) :
    (calls RING_BUF_SIZE zero).after ops =
        ofRing ((BoundedQueue.ring ⟨0, hpos⟩ fun _ => zero).after ops) ∧
      (calls RING_BUF_SIZE zero).history ops =
        ((BoundedQueue.ring ⟨0, hpos⟩ fun _ => zero).history ops).map
          fun e => (e.1, some e.2) := by
  have h := Machine.simulation (M := BoundedQueue.ring ⟨0, hpos⟩ fun _ => zero)
    (N := calls RING_BUF_SIZE zero) (R := fun q r => r = ofRing q) (f := some) rfl
    (by
      intro q r op hr
      subst hr
      rw [calls_ofRing hpos zero q op]
      exact ⟨rfl, rfl⟩) ops
  exact h

end

/-- What a bounded queue of frames promises of the calls `ops`. -/
structure ActsAsQueue (RING_BUF_SIZE : Nat) (zero : F) (ops : List (QueueOp F)) : Prop where
  answers : (calls RING_BUF_SIZE zero).history ops =
    ((BoundedQueue.queue (RING_BUF_SIZE - 1)).history ops).map fun e => (e.1, some e.2)
  bounded : ((BoundedQueue.queue (RING_BUF_SIZE - 1)).after ops).length ≤ RING_BUF_SIZE - 1
  refused : ∀ op,
    ((calls RING_BUF_SIZE zero).step ((calls RING_BUF_SIZE zero).after ops) op).2 ∈
        [some (QueueAnswer.pushed false), some (QueueAnswer.popped none)] →
      (calls RING_BUF_SIZE zero).after (ops ++ [op]) = (calls RING_BUF_SIZE zero).after ops
  head : 0 ≤ ((calls RING_BUF_SIZE zero).after ops).m_head ∧
    ((calls RING_BUF_SIZE zero).after ops).m_head < RING_BUF_SIZE
  tail : 0 ≤ ((calls RING_BUF_SIZE zero).after ops).m_tail ∧
    ((calls RING_BUF_SIZE zero).after ops).m_tail < RING_BUF_SIZE

/-- A call that is refused leaves the buffer as it is. -/
theorem step_of_refused (zero : F) (r : Ringbuffer F RING_BUF_SIZE) (op : QueueOp F)
    (h : ((calls RING_BUF_SIZE zero).step r op).2 ∈
      [some (QueueAnswer.pushed false), some (QueueAnswer.popped none)]) :
    ((calls RING_BUF_SIZE zero).step r op).1 = r := by
  cases op with
  | push frame =>
      simp only [calls, push] at h ⊢
      split_ifs at h ⊢ with hfull
      · rfl
      · cases he : (element r.m_head : Option (Fin RING_BUF_SIZE)) with
        | none => rfl
        | some i => simp [he] at h
  | pop =>
      simp only [calls, pop] at h ⊢
      split_ifs at h ⊢ with hempty
      · rfl
      · cases he : (element r.m_tail : Option (Fin RING_BUF_SIZE)) with
        | none => rfl
        | some i => simp [he] at h
  | isEmpty => rfl
  | count => rfl
  | reset => simp [calls] at h

/-- Whatever is called, the class answers as a queue of one frame less than its capacity does, a call
that is refused changes nothing, and both positions stay inside of the array. -/
theorem calls_bounded_fifo (hcap : 2 ≤ RING_BUF_SIZE) (zero : F) (ops : List (QueueOp F)) :
    ActsAsQueue RING_BUF_SIZE zero ops := by
  have hpos : 0 < RING_BUF_SIZE := Nat.zero_lt_of_lt hcap
  have hring := calls_simulate_ring hpos zero ops
  have hqueue := BoundedQueue.ring_simulates ⟨0, hpos⟩ (fun _ => zero) ops
  constructor
  case answers => rw [hring.2, hqueue.2]
  case bounded => exact BoundedQueue.length_le_capacity _ ops
  case refused =>
    intro op hrefused
    rw [Machine.after_snoc]
    exact step_of_refused zero _ op hrefused
  case head =>
    rw [hring.1]
    exact ⟨Int.natCast_nonneg _, Int.ofNat_lt.2 (Fin.isLt _)⟩
  case tail =>
    rw [hring.1]
    exact ⟨Int.natCast_nonneg _, Int.ofNat_lt.2 (Fin.isLt _)⟩

/-- On the smallest ring of the two programs: the second of two frames is the first one left. -/
theorem calls_bounded_fifo_client :
    2 ≤ Client.RING_BUF_SIZE ∧
      ((calls Client.RING_BUF_SIZE 0).history [.push 7, .push 8, .pop, .count, .pop, .pop]).map
          Prod.snd =
        [some (.pushed true), some (.pushed true), some (.popped (some 7)), some (.count 1),
          some (.popped (some 8)), some (.popped none)] := by
  refine ⟨by decide, ?_⟩
  rw [(calls_bounded_fifo (by decide) 0 _).answers]
  rfl

end Ringbuffer
end TcpCanUds
