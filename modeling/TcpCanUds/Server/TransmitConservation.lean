import TcpCanUds.Server.CanInterface
import Mathlib.Data.List.Nodup

/-!
# TransmitConservation — no frame is lost between `transmit` and the socket

A frame that `transmit` accepted is on the socket, in the ring or held by `onSocketWriteReady`.  The
one step that loses a frame is the push-back into a full ring, whose result nobody looks at.
-/

namespace TcpCanUds
namespace Server

open Lib

namespace TxQueue

/-- Where an accepted frame can be. -/
def places (q : TxQueue) : List TxFrame :=
  q.socket ++ q.held.toList ++ q.ring

/-- Every accepted frame is in one place, once, and no frame is written twice. -/
def Conserved (q : TxQueue) : Prop :=
  (∀ f ∈ q.accepted, q.places.count f = 1) ∧ q.socket.Nodup

theorem count_places (q : TxQueue) (f : TxFrame) :
    q.places.count f = q.socket.count f + q.held.toList.count f + q.ring.count f := by
  rw [places, List.count_append, List.count_append]

/-- What holds of the frames under way, lost or not. -/
structure Accounted (q : TxQueue) : Prop where
  once : ∀ f, q.places.count f ≤ 1
  accepted_of_place : ∀ f, 0 < q.places.count f → f ∈ q.accepted
  accepted_old : ∀ f ∈ q.accepted, f.call < q.calls
  pending_old : ∀ t f, q.pending t = some f → f.call < q.calls ∧ f ∉ q.accepted
  pending_apart : ∀ t t' f, q.pending t = some f → q.pending t' = some f → t = t'

/-- An accepted frame is in none of its places. -/
def Missing (q : TxQueue) (f : TxFrame) : Prop :=
  f ∈ q.accepted ∧ q.places.count f = 0

theorem Accounted.conserves_iff {q : TxQueue} (h : Accounted q) :
    q.Conserved ↔ ∀ f, ¬ q.Missing f := by
  constructor
  · rintro ⟨hplaces, -⟩ f ⟨hacc, hcount⟩
    have hone := hplaces f hacc
    omega
  · intro hno
    refine ⟨?_, ?_⟩
    · intro f hacc
      have hle := h.once f
      have hne : q.places.count f ≠ 0 := fun hzero => hno f ⟨hacc, hzero⟩
      omega
    · rw [List.nodup_iff_count_le_one]
      intro f
      have hle := h.once f
      rw [count_places] at hle
      omega

/-! ## Changes that keep the account -/

/-- No new frame comes in. -/
theorem Accounted.keep {q q' : TxQueue} (h : Accounted q)
    (hplaces : ∀ f, q'.places.count f ≤ q.places.count f) (hacc : q'.accepted = q.accepted)
    (hcalls : q.calls ≤ q'.calls) (hpending : ∀ t f, q'.pending t = some f → q.pending t = some f) :
    Accounted q' where
  once f := (hplaces f).trans (h.once f)
  accepted_of_place f hf := by
    rw [hacc]
    exact h.accepted_of_place f (Nat.lt_of_lt_of_le hf (hplaces f))
  accepted_old f hf := by
    rw [hacc] at hf
    exact Nat.lt_of_lt_of_le (h.accepted_old f hf) hcalls
  pending_old t f hf := by
    have hold := h.pending_old t f (hpending t f hf)
    rw [hacc]
    exact ⟨Nat.lt_of_lt_of_le hold.1 hcalls, hold.2⟩
  pending_apart t t' f hf hf' := h.pending_apart t t' f (hpending t f hf) (hpending t' f hf')

/-- A frame that was nowhere is accepted. -/
theorem Accounted.accept {q q' : TxQueue} (h : Accounted q) {f : TxFrame} (hf : f ∉ q.accepted)
    (hplaces : ∀ g, q'.places.count g = q.places.count g + [f].count g)
    (hacc : q'.accepted = q.accepted ++ [f]) (hold : f.call < q'.calls) (hcalls : q.calls ≤ q'.calls)
    (hpending : ∀ t g, q'.pending t = some g → q.pending t = some g ∧ g ≠ f) :
    Accounted q' where
  once g := by
    have hle := h.once g
    rw [hplaces]
    by_cases hg : g = f
    · -- a frame with a place is accepted, so `f` has none
      have hzero : q.places.count g = 0 := by
        by_contra hne
        exact hf (hg ▸ h.accepted_of_place g (Nat.pos_of_ne_zero hne))
      rw [hzero, hg, List.count_singleton_self]
    · have hzero : [f].count g = 0 := List.count_eq_zero_of_not_mem (by simpa using hg)
      rw [hzero]
      exact hle
  accepted_of_place g hg := by
    rw [hplaces] at hg
    rw [hacc, List.mem_append]
    -- `g` had its place before, or it is `f`
    by_cases hplace : 0 < q.places.count g
    · exact Or.inl (h.accepted_of_place g hplace)
    · exact Or.inr (List.count_pos_iff.1 (by omega))
  accepted_old g hg := by
    rw [hacc, List.mem_append, List.mem_singleton] at hg
    rcases hg with hg | rfl
    · exact Nat.lt_of_lt_of_le (h.accepted_old g hg) hcalls
    · exact hold
  pending_old t g hg := by
    rcases hpending t g hg with ⟨hg, hne⟩
    refine ⟨Nat.lt_of_lt_of_le (h.pending_old t g hg).1 hcalls, ?_⟩
    rw [hacc, List.mem_append, List.mem_singleton, not_or]
    exact ⟨(h.pending_old t g hg).2, hne⟩
  pending_apart t t' g hg hg' :=
    h.pending_apart t t' g (hpending t g hg).1 (hpending t' g hg').1

end TxQueue

namespace CanInterface

open TxQueue

/-! ## One step -/

theorem accounted_initialized (fd : Int) : (initialized fd).queue.Accounted := by
  have hplaces : (initialized fd).queue.places = [] := by
    simp only [initialized, queue, places, RingBuffer.contents_empty]
    rfl
  refine ⟨?_, ?_, ?_, ?_, ?_⟩
  · simp [hplaces]
  · simp [hplaces]
  · intro f hf
    cases hf
  · intro t f hf
    cases t <;> cases hf
  · intro t t' f hf
    cases t <;> cases hf

/-- The frame of the next call is neither accepted nor pending. -/
theorem fresh {s : CanInterface} (h : s.queue.Accounted) (frame : CanFrameData) :
    (⟨s.calls, frame⟩ : TxFrame) ∉ s.accepted ∧ ∀ t, s.pending t ≠ some ⟨s.calls, frame⟩ := by
  refine ⟨?_, ?_⟩
  · intro hmem
    exact absurd (h.accepted_old _ hmem) (lt_irrefl _)
  · intro t ht
    exact absurd (h.pending_old t _ ht).1 (lt_irrefl _)

/-- A failed write makes the new frame the pending one of its thread. -/
theorem accounted_failed {s : CanInterface} (h : s.queue.Accounted) (t : Thread)
    (frame : CanFrameData) :
    Accounted
      { s.queue with
        calls := s.calls + 1
        pending := Function.update s.pending t (some ⟨s.calls, frame⟩) } := by
  rcases fresh h frame with ⟨hacc, hpending⟩
  -- the new frame is pending in `t` only, the others are where they were
  have hcases : ∀ t' f, Function.update s.pending t (some ⟨s.calls, frame⟩) t' = some f →
      (t' = t ∧ f = ⟨s.calls, frame⟩) ∨ s.pending t' = some f := by
    intro t' f hf
    by_cases ht : t' = t
    · rw [ht, Function.update_self] at hf
      exact Or.inl ⟨ht, (Option.some.inj hf).symm⟩
    · rw [Function.update_of_ne ht] at hf
      exact Or.inr hf
  refine ⟨h.once, h.accepted_of_place, ?_, ?_, ?_⟩
  · intro f hf
    exact Nat.lt_succ_of_lt (h.accepted_old f hf)
  · intro t' f hf
    rcases hcases t' f hf with ⟨-, rfl⟩ | hf
    · exact ⟨Nat.lt_succ_self _, hacc⟩
    · exact ⟨Nat.lt_succ_of_lt (h.pending_old t' f hf).1, (h.pending_old t' f hf).2⟩
  · intro t₁ t₂ f hf₁ hf₂
    rcases hcases t₁ f hf₁ with ⟨ht₁, hnew₁⟩ | hold₁ <;>
      rcases hcases t₂ f hf₂ with ⟨ht₂, hnew₂⟩ | hold₂
    · rw [ht₁, ht₂]
    · exact absurd (hnew₁ ▸ hold₂) (hpending t₂)
    · exact absurd (hnew₂ ▸ hold₁) (hpending t₁)
    · exact h.pending_apart t₁ t₂ f hold₁ hold₂

/-- What a step does to the places of the frames. -/
inductive Change (s : CanInterface) (i : TxStep) (q : TxQueue) : Prop where
  | kept (hplaces : ∀ g, q.places.count g = s.queue.places.count g)
      (hacc : q.accepted = s.accepted) (hcalls : s.calls ≤ q.calls)
      (hpending : ∀ t f, q.pending t = some f → s.pending t = some f) : Change s i q
  | begun (t : Thread) (frame : CanFrameData)
      (hq : q =
        { s.queue with
          calls := s.calls + 1
          pending := Function.update s.pending t (some ⟨s.calls, frame⟩) }) : Change s i q
  | accepted (f : TxFrame) (hf : f ∉ s.accepted)
      (hplaces : ∀ g, q.places.count g = s.queue.places.count g + [f].count g)
      (hacc : q.accepted = s.accepted ++ [f]) (hold : f.call < q.calls) (hcalls : s.calls ≤ q.calls)
      (hpending : ∀ t g, q.pending t = some g → s.pending t = some g ∧ g ≠ f) : Change s i q
  | lost (f : TxFrame) (hi : i = .pushBack) (hf : s.canThread = .pushingBack f)
      (hfull : s.m_txRingBuffer.contents.length + 1 = RING_BUF_SIZE)
      (hplaces : ∀ g, s.queue.places.count g = q.places.count g + [f].count g)
      (hacc : q.accepted = s.accepted) (hcalls : s.calls ≤ q.calls)
      (hpending : ∀ t f, q.pending t = some f → s.pending t = some f) : Change s i q

theorem change_of_moves {s : CanInterface} (h : s.queue.Accounted) {i : TxStep} {q : TxQueue}
    (hm : Moves s i q) : Change s i q := by
  cases hm with
  | nothing => exact .kept (fun _ => rfl) rfl le_rfl fun _ _ hf => hf
  | refused => exact .kept (fun _ => rfl) rfl (Nat.le_succ _) fun _ _ hf => hf
  | wrote t frame hfree hopen hlen =>
      rcases fresh h frame.copy with ⟨hacc, hpending⟩
      refine .accepted _ hacc ?_ rfl (Nat.lt_succ_self _) (Nat.le_succ _) ?_
      · intro g
        simp only [count_places, List.count_append, queue]
        omega
      · intro t' g hg
        exact ⟨hg, fun heq => hpending t' (heq ▸ hg)⟩
  | failed t frame result hfree => exact .begun t frame.copy rfl
  | queued t f hf =>
      refine .accepted f (h.pending_old t f hf).2 ?_ rfl (h.pending_old t f hf).1 le_rfl ?_
      · intro g
        simp only [count_places, List.count_append, queue]
        omega
      · intro t' g hg
        rcases of_update_none hg with ⟨hg, hne⟩
        exact ⟨hg, fun heq => hne (h.pending_apart t' t f (heq ▸ hg) hf)⟩
  | reported t f hf =>
      exact .kept (fun _ => rfl) rfl le_rfl fun _ _ hg => (of_update_none hg).1
  -- the next three move a frame from one place to another
  | taken f ring hheld hring =>
      refine .kept ?_ rfl le_rfl fun _ _ hg => hg
      intro g
      simp only [count_places, queue, hheld, hring, Option.toList_none, Option.toList_some,
        List.count_nil, List.count_cons]
      omega
  | sent f hf =>
      refine .kept ?_ rfl le_rfl fun _ _ hg => hg
      intro g
      simp only [count_places, queue, hf, Option.toList_none, Option.toList_some, List.count_nil,
        List.count_append]
      omega
  | putBack f hf =>
      refine .kept ?_ rfl le_rfl fun _ _ hg => hg
      intro g
      simp only [count_places, queue, hf, CanThread.held, Option.toList_none, Option.toList_some,
        List.count_nil, List.count_append]
      omega
  | lost f hf hfull =>
      refine .lost f rfl hf hfull ?_ rfl le_rfl fun _ _ hg => hg
      intro g
      simp only [count_places, queue, hf, CanThread.held, Option.toList_none, Option.toList_some,
        List.count_nil]
      omega

theorem change_step {s : CanInterface} (h : s.queue.Accounted) (i : TxStep) :
    Change s i (s.step i).queue :=
  change_of_moves h (moves_step s i)

theorem accounted_step {s : CanInterface} (h : s.queue.Accounted) (i : TxStep) :
    (s.step i).queue.Accounted := by
  cases change_step h i with
  | kept hplaces hacc hcalls hpending =>
      exact h.keep (fun g => (hplaces g).le) hacc hcalls hpending
  | begun t frame hq =>
      rw [hq]
      exact accounted_failed h t frame
  | accepted f hf hplaces hacc hold hcalls hpending =>
      exact h.accept hf hplaces hacc hold hcalls hpending
  | lost f hi hf hfull hplaces hacc hcalls hpending =>
      refine h.keep ?_ hacc hcalls hpending
      intro g
      have hg := hplaces g
      omega

/-! ## The push-back into a full ring -/

/-- A push-back finds room in the ring. -/
def RoomToPushBack (s : CanInterface) (i : TxStep) : Prop :=
  i = .pushBack → ∀ f, s.canThread = .pushingBack f →
    s.m_txRingBuffer.contents.length + 1 ≠ RING_BUF_SIZE

/-- Unless a push-back meets a full ring, a step leaves every accepted frame in a place. -/
theorem not_missing_step {s : CanInterface} (h : s.queue.Accounted) {i : TxStep}
    (hroom : RoomToPushBack s i) (hno : ∀ f, ¬ s.queue.Missing f) :
    ∀ f, ¬ (s.step i).queue.Missing f := by
  rintro g ⟨hacc', hzero⟩
  cases change_step h i with
  | kept hplaces hacc hcalls hpending =>
      rw [hacc] at hacc'
      exact hno g ⟨hacc', (hplaces g).symm.trans hzero⟩
  | begun t frame hq =>
      rw [hq] at hacc' hzero
      exact hno g ⟨hacc', hzero⟩
  | accepted f hf hplaces hacc hold hcalls hpending =>
      rw [hplaces, Nat.add_eq_zero_iff] at hzero
      rw [hacc, List.mem_append] at hacc'
      rcases hacc' with hold' | hnew
      · exact hno g ⟨hold', hzero.1⟩
      · exact List.count_eq_zero.1 hzero.2 hnew
  | lost f hi hf hfull => exact hroom hi f hf hfull

/-- A frame without a place never gets one again. -/
theorem missing_step {s : CanInterface} (h : s.queue.Accounted) (i : TxStep) {g : TxFrame}
    (hg : s.queue.Missing g) : (s.step i).queue.Missing g := by
  rcases hg with ⟨hacc', hzero⟩
  cases change_step h i with
  | kept hplaces hacc hcalls hpending =>
      exact ⟨hacc ▸ hacc', (hplaces g).trans hzero⟩
  | begun t frame hq =>
      rw [hq]
      exact ⟨hacc', hzero⟩
  | accepted f hf hplaces hacc hold hcalls hpending =>
      refine ⟨?_, ?_⟩
      · rw [hacc]
        exact List.mem_append_left _ hacc'
      · rw [hplaces, hzero, Nat.zero_add, List.count_eq_zero, List.mem_singleton]
        rintro rfl
        exact hf hacc'
  | lost f hi hf hfull hplaces hacc hcalls hpending =>
      have hle := hplaces g
      exact ⟨hacc ▸ hacc', by omega⟩

theorem queue_pushBack_full {s : CanInterface} {f : TxFrame} (hf : s.canThread = .pushingBack f)
    (hfull : s.m_txRingBuffer.contents.length + 1 = RING_BUF_SIZE) :
    s.pushBack.queue = { s.queue with held := none } := by
  have hpush := (RingBuffer.push_eq_none_iff s.m_txRingBuffer f).2 hfull
  have hback : s.pushBack = s.goTo .leaving := by
    simp only [pushBack, hf, hpush, Option.getD_none, goTo]
  rw [hback, queue_goTo s (by rw [hf]; rfl)]
  rfl

/-- A push-back that meets a full ring leaves its frame without a place. -/
theorem missing_of_full {s : CanInterface} (h : s.queue.Accounted) {i : TxStep}
    (hfull : ¬ RoomToPushBack s i) : ∃ f, (s.step i).queue.Missing f := by
  simp only [RoomToPushBack, not_forall, not_not] at hfull
  rcases hfull with ⟨rfl, f, hf, hfull⟩
  have hheld : s.queue.held = some f := by
    rw [queue, hf]
    rfl
  have hone := h.once f
  rw [count_places, hheld, Option.toList_some, List.count_singleton_self] at hone
  refine ⟨f, ?_, ?_⟩
  · rw [step, queue_pushBack_full hf hfull]
    refine h.accepted_of_place f ?_
    rw [count_places, hheld, Option.toList_some, List.count_singleton_self]
    omega
  · rw [step, queue_pushBack_full hf hfull, count_places, Option.toList_none, List.count_nil]
    simp only
    omega

/-! ## Runs -/

section

variable (fd : Int)

theorem missing_exec {s : CanInterface} (h : s.queue.Accounted) {f : TxFrame}
    (hf : s.queue.Missing f) (run : List TxStep) : ((machine fd).exec s run).queue.Missing f := by
  induction run generalizing s with
  | nil => exact hf
  | cons i run ih => exact ih (accounted_step h i) (missing_step h i hf)

theorem conserved_exec_iff {s : CanInterface} (h : s.queue.Accounted)
    (hno : ∀ f, ¬ s.queue.Missing f) (run : List TxStep) :
    ((machine fd).exec s run).queue.Conserved ↔ (machine fd).Along RoomToPushBack s run := by
  induction run generalizing s with
  | nil => exact iff_of_true (h.conserves_iff.2 hno) trivial
  | cons i run ih =>
      by_cases hroom : RoomToPushBack s i
      · have hrest := ih (accounted_step h i) (not_missing_step h hroom hno)
        exact hrest.trans ⟨fun halong => ⟨hroom, halong⟩, fun halong => halong.2⟩
      · -- the frame lost here is missing to the end of the run
        refine iff_of_false ?_ fun halong => hroom halong.1
        rcases missing_of_full h hroom with ⟨f, hf⟩
        have hmissing := missing_exec fd (accounted_step h i) hf run
        rintro ⟨hplaces, -⟩
        have hone : ((machine fd).exec (s.step i) run).queue.places.count f = 1 :=
          hplaces f hmissing.1
        rw [hmissing.2] at hone
        cases hone

/-- After every run the frames are conserved exactly when every push-back found room. -/
theorem conserved_iff (run : List TxStep) :
    ((machine fd).after run).queue.Conserved ↔
      (machine fd).Along RoomToPushBack (machine fd).init run := by
  refine conserved_exec_iff fd (accounted_initialized fd) ?_ run
  rintro f ⟨hacc, -⟩
  cases hacc

end

/-! ## A run that loses a frame -/

/-- A first frame of a response. -/
def responseFrame : CanFrameData where
  id := 0x7E9
  data := [0x10, 0x14, 0x62, 0xF1, 0x90, 0x01, 0x02, 0x03]
  len := 8

/-- Thread `t` calls `transmit` while the driver is busy. -/
def busyTransmit (t : Thread) : List TxStep :=
  [.transmit t responseFrame .enobufs, .push t]

/-- One frame from the CAN thread and `n` from the main thread wait in the ring, the CAN thread takes
one out, the main thread takes its slot, and the write of the frame taken out fails. -/
def lossRun (n : Nat) : List TxStep :=
  busyTransmit .can ++ (List.replicate n (busyTransmit .main)).flatten ++ [.activated, .pop] ++
    busyTransmit .main ++ [.write .failed]

/-- The CAN thread's place and how full the ring is, with the main thread free. -/
structure Stands (s : CanInterface) (c : CanThread) (n : Nat) : Prop where
  opened : 0 ≤ s.m_socketFd
  main : s.mainThread = none
  can : s.canThread = c
  notifier : s.writeNotifierEnabled = true
  length : s.m_txRingBuffer.contents.length = n

theorem push_some {r : RingBuffer TxFrame RING_BUF_SIZE} (h : r.contents.length + 1 < RING_BUF_SIZE)
    (f : TxFrame) : ∃ r', r.push f = some r' ∧ r'.contents.length = r.contents.length + 1 := by
  cases hpush : r.push f with
  | none =>
      have hfull := (RingBuffer.push_eq_none_iff r f).1 hpush
      omega
  | some r' =>
      refine ⟨r', rfl, ?_⟩
      rw [RingBuffer.contents_push hpush, List.length_append, List.length_singleton]

theorem transmit_enobufs {s : CanInterface} {t : Thread} (hopen : 0 ≤ s.m_socketFd)
    (hfree : s.Free t) :
    s.transmit t responseFrame .enobufs =
      goesToPush { s with calls := s.calls + 1 } t ⟨s.calls, responseFrame.copy⟩ := by
  rw [transmit, if_neg (not_not.2 hfree), if_neg (Int.not_lt.2 hopen), if_neg (by decide)]

section

variable (fd : Int)

theorem stands_busy_main {s : CanInterface} {c : CanThread} {n : Nat} (h : Stands s c n)
    (hroom : n + 1 < RING_BUF_SIZE) :
    Stands ((machine fd).exec s (busyTransmit .main)) c (n + 1) := by
  rcases push_some (h.length.symm ▸ hroom) ⟨s.calls, responseFrame.copy⟩ with ⟨r, hpush, hlength⟩
  have hexec : (machine fd).exec s (busyTransmit .main) =
      (s.transmit .main responseFrame .enobufs).push .main := rfl
  rw [hexec, transmit_enobufs (t := .main) h.opened h.main]
  simp only [goesToPush, push, pending, hpush, returns]
  refine ⟨h.opened, rfl, h.can, ?_, hlength.trans (by rw [h.length])⟩
  simp only [h.notifier, Bool.true_or]

theorem stands_fill {s : CanInterface} {c : CanThread} {n : Nat} (h : Stands s c n) (m : Nat)
    (hroom : n + m < RING_BUF_SIZE) :
    Stands ((machine fd).exec s (List.replicate m (busyTransmit .main)).flatten) c (n + m) := by
  induction m generalizing s n with
  | zero => exact h
  | succ m ih =>
      rw [List.replicate_succ, List.flatten_cons, Machine.exec_append]
      have hnext := ih (stands_busy_main fd h (by omega)) (by omega)
      rwa [Nat.add_right_comm] at hnext

/-- The CAN thread's own failed write enables the notifier. -/
theorem stands_first (hopen : 0 ≤ fd) :
    Stands ((machine fd).exec (initialized fd) (busyTransmit .can)) .eventLoop 1 := by
  have hempty : (initialized fd).m_txRingBuffer.contents = [] := RingBuffer.contents_empty _ _
  rcases push_some (r := (initialized fd).m_txRingBuffer) (by rw [hempty]; decide)
    ⟨0, responseFrame.copy⟩ with ⟨r, hpush, hlength⟩
  have hexec : (machine fd).exec (initialized fd) (busyTransmit .can) =
      ((initialized fd).transmit .can responseFrame .enobufs).push .can := rfl
  have hfree : (initialized fd).Free .can := rfl
  rw [hexec, transmit_enobufs hopen hfree]
  simp only [goesToPush, goTo, push, pending, CanThread.pending]
  rw [show (initialized fd).calls = 0 from rfl, hpush]
  refine ⟨hopen, rfl, rfl, ?_, hlength.trans (by rw [hempty]; rfl)⟩
  simp only [returns, goTo, decide_true, Bool.or_true]

/-- An activation takes a frame out of the ring. -/
theorem stands_taken {s : CanInterface} {n : Nat} (h : Stands s .eventLoop (n + 1)) :
    ∃ f, Stands ((machine fd).exec s [.activated, .pop]) (.writing 0 f 0) n := by
  cases hpop : s.m_txRingBuffer.pop with
  | none =>
      have hlength := h.length
      rw [(RingBuffer.pop_eq_none_iff _).1 hpop] at hlength
      cases hlength
  | some popped =>
      rcases popped with ⟨f, r⟩
      have hlength := h.length
      rw [RingBuffer.contents_pop hpop, List.length_cons, Nat.succ_inj] at hlength
      have hexec : (machine fd).exec s [.activated, .pop] = s.activated.pop := rfl
      refine ⟨f, ?_⟩
      rw [hexec, activated, if_pos ⟨h.can, h.notifier⟩]
      simp only [pop, goTo, hpop, Nat.zero_lt_succ, if_true]
      exact ⟨h.opened, h.main, rfl, h.notifier, hlength⟩

theorem lossRun_full (hopen : 0 ≤ fd) {n : Nat} (hn : n + 2 = RING_BUF_SIZE) :
    ¬ RoomToPushBack ((machine fd).exec (initialized fd) (lossRun n)) .pushBack := by
  have hfill := stands_fill fd (stands_first fd hopen) n (by omega)
  rw [Nat.add_comm] at hfill
  -- the frame taken out leaves a slot, which the main thread fills
  rcases stands_taken fd hfill with ⟨f, htaken⟩
  have hlast := stands_busy_main fd htaken (by omega)
  simp only [← Machine.exec_append] at hlast
  rw [lossRun, Machine.exec_append]
  generalize (machine fd).exec (initialized fd) _ = s at hlast ⊢
  have hwrite : (machine fd).exec s [.write .failed] = s.goTo (.pushingBack f) := by
    change s.write .failed = _
    rw [write, hlast.can]
  have hlength : (s.goTo (.pushingBack f)).m_txRingBuffer.contents.length + 1 = RING_BUF_SIZE := by
    have hheld : s.m_txRingBuffer.contents.length = n + 1 := hlast.length
    exact (congrArg Nat.succ hheld).trans hn
  rw [hwrite]
  intro hroom
  exact hroom rfl f rfl hlength

end

/-- With 4095 frames in the ring a push-back loses the frame taken out. -/
theorem push_back_lost : ¬ ((machine 3).after (lossRun 4094 ++ [.pushBack])).queue.Conserved := by
  intro h
  have hno : ∀ f, ¬ (initialized 3).queue.Missing f := by
    rintro f ⟨hacc, -⟩
    cases hacc
  have halong := (conserved_exec_iff 3 (accounted_initialized 3) hno _).1 h
  exact lossRun_full 3 (by decide) rfl (Machine.Along.right _ halong).1

end CanInterface
end Server
end TcpCanUds
