import TcpCanUds.Core.Types
import TcpCanUds.Lib.Observation
import TcpCanUds.Server.CanInterface

/-!
# CanReading — the receive path of the server's CAN socket (`core/can_interface.cpp`)

`onSocketCanActivity` runs when the read notifier is activated and reads at most `MAX_FRAMES_PER_READ`
frames.  More frames may arrive while it runs, so it is cut into its rounds: one `recv` each.

* `CanReading.round` — one round of the loop;
* `length_add_room_le` — how many frames an activation hands over;
* `frames_read` — no frame is lost, doubled or overtaken, however the rounds and the arrivals mix.
-/

namespace TcpCanUds
namespace Server

open Lib

/-- `struct can_frame` -/
structure SocketFrame where
  can_id : UInt32
  can_dlc : UInt8
  data : QByteArray
  deriving DecidableEq, Repr

/-- What a `recv` takes out of the socket. -/
inductive Datagram where
  | canFrame (frame : SocketFrame)
  /-- fewer bytes than `sizeof(struct can_frame)` -/
  | incomplete (nbytes : Nat)
  /-- an error that is neither `EAGAIN` nor `EWOULDBLOCK` -/
  | failed (errno : Int)
  deriving DecidableEq, Repr

/-- Why the loop of `onSocketCanActivity` ends. -/
inductive LoopEnd where
  | emptied
  | stopped
  /-- `MAX_FRAMES_PER_READ` frames are read -/
  | full
  deriving DecidableEq, Repr

/-- `MAX_FRAMES_PER_READ` -/
abbrev maxFramesPerRead : Nat := 64

structure CanReading where
  /-- what the socket holds, oldest first -/
  socket : List Datagram := []
  /-- `framesRead`, in the loop: its condition holds of it -/
  framesRead : Option (Fin maxFramesPerRead) := none
  /-- the frames emitted by `frameReceived`, oldest first -/
  frameReceived : List CanFrameData := []
  /-- the errors given to `DB_logger::log`, oldest first -/
  logged : List Int := []
  deriving DecidableEq, Repr

inductive ReadEvent where
  | arrives (datagram : Datagram)
  /-- the notifier is activated -/
  | activated
  /-- a round of the loop -/
  | round
  deriving DecidableEq, Repr

/-- The frame that the loop makes of a datagram, if any. -/
def Datagram.frame : Datagram → Option CanFrameData
  | .canFrame frame =>
      if frame.can_dlc ≤ canMaxDlen then
        some { id := frame.can_id, data := frame.data.take frame.can_dlc.toNat, len := frame.can_dlc }
      else none
  | .incomplete _ | .failed _ => none

/-- The loop ends at the datagram. -/
def Datagram.stops : Datagram → Bool
  | .canFrame _ => false
  | .incomplete _ | .failed _ => true

namespace CanReading

/-- A round behind `framesRead` frames. -/
def round (s : CanReading) (framesRead : Fin maxFramesPerRead) : CanReading × Option LoopEnd :=
  match s.socket with
  | [] => ({ s with framesRead := none }, some .emptied)
  | .failed errno :: rest =>
      ({ s with socket := rest, framesRead := none, logged := s.logged ++ [errno] }, some .stopped)
  | .incomplete _ :: rest => ({ s with socket := rest, framesRead := none }, some .stopped)
  | .canFrame frame :: rest =>
      match (Datagram.canFrame frame).frame with
      -- `continue`: the frame does not count
      | none => ({ s with socket := rest }, none)
      | some myFrame =>
          let next := { s with socket := rest, frameReceived := s.frameReceived ++ [myFrame] }
          if hmore : framesRead + 1 < maxFramesPerRead then
            ({ next with framesRead := some ⟨framesRead + 1, hmore⟩ }, none)
          else ({ next with framesRead := none }, some .full)

def step (s : CanReading) : ReadEvent → CanReading × Option LoopEnd
  | .arrives datagram => ({ s with socket := s.socket ++ [datagram] }, none)
  | .activated => ({ s with framesRead := some (s.framesRead.getD ⟨0, by decide⟩) }, none)
  | .round =>
      match s.framesRead with
      | none => (s, none)
      | some framesRead => s.round framesRead

def machine : Machine CanReading ReadEvent (Option LoopEnd) where
  init := {}
  step := step

/-! ## What a round does -/

/-- All that a round can do. -/
inductive Rounds (s : CanReading) (n : Fin maxFramesPerRead) : CanReading × Option LoopEnd → Prop where
  | emptied (hsocket : s.socket = []) : Rounds s n ({ s with framesRead := none }, some .emptied)
  | stopped {d : Datagram} {rest : List Datagram} {logged : List Int} (hsocket : s.socket = d :: rest)
      (hstops : d.stops = true) (hframe : d.frame = none) :
      Rounds s n ({ s with socket := rest, framesRead := none, logged := logged }, some .stopped)
  | skipped {d : Datagram} {rest : List Datagram} (hsocket : s.socket = d :: rest) (hgoes : d.stops = false)
      (hframe : d.frame = none) : Rounds s n ({ s with socket := rest }, none)
  | emitted {d : Datagram} {rest : List Datagram} {myFrame : CanFrameData}
      (hsocket : s.socket = d :: rest) (hgoes : d.stops = false) (hframe : d.frame = some myFrame)
      (hmore : n + 1 < maxFramesPerRead) :
      Rounds s n ({ s with socket := rest, framesRead := some ⟨n + 1, hmore⟩,
                           frameReceived := s.frameReceived ++ [myFrame] }, none)
  | full {d : Datagram} {rest : List Datagram} {myFrame : CanFrameData}
      (hsocket : s.socket = d :: rest) (hgoes : d.stops = false) (hframe : d.frame = some myFrame)
      (hfull : ¬ n + 1 < maxFramesPerRead) :
      Rounds s n ({ s with socket := rest, framesRead := none,
                           frameReceived := s.frameReceived ++ [myFrame] }, some .full)

theorem rounds_round (s : CanReading) (n : Fin maxFramesPerRead) : Rounds s n (s.round n) := by
  unfold round
  split
  case h_1 hsocket => exact .emptied hsocket
  case h_2 errno rest hsocket => exact .stopped hsocket rfl rfl
  case h_3 nbytes rest hsocket => exact @Rounds.stopped s n _ _ s.logged hsocket rfl rfl
  case h_4 frame rest hsocket =>
      split
      case h_1 hframe => exact .skipped hsocket rfl hframe
      case h_2 myFrame hframe =>
          split_ifs with hmore
          · exact .emitted hsocket rfl hframe hmore
          · exact .full hsocket rfl hframe hmore

/-! ## How many frames an activation hands over -/

/-- How many frames the loop may still emit. -/
def room (s : CanReading) : Nat :=
  match s.framesRead with
  | none => 0
  | some framesRead => maxFramesPerRead - framesRead

/-- A frame is paid for from the room, and an activation gives room for `MAX_FRAMES_PER_READ`. -/
theorem length_add_room_step (s : CanReading) (e : ReadEvent) :
    (s.step e).1.frameReceived.length + (s.step e).1.room ≤
      s.frameReceived.length + s.room + maxFramesPerRead * [e].count .activated := by
  cases e with
  | arrives datagram => exact Nat.le_refl _
  | activated =>
      have hroom : (s.step .activated).1.room ≤ maxFramesPerRead := Nat.sub_le _ _
      change s.frameReceived.length + _ ≤ _
      rw [List.count_singleton_self]
      omega
  | round =>
      have hcount : [ReadEvent.round].count .activated = 0 := rfl
      rw [hcount]
      cases hreading : s.framesRead with
      | none =>
          rw [step, hreading]
          exact Nat.le_refl _
      | some n =>
          have hroom : s.room = maxFramesPerRead - n := by rw [room, hreading]
          have hround := rounds_round s n
          rw [step, hreading]
          simp only
          generalize s.round n = done at hround
          cases hround with
          | emptied hsocket | stopped hsocket hstops hframe =>
              exact Nat.add_le_add_left (Nat.zero_le _) _
          | skipped hsocket hgoes hframe => exact Nat.le_refl _
          -- a frame passed on takes one from the room, and the last one closes the loop
          | emitted hsocket hgoes hframe hmore | full hsocket hgoes hframe hfull =>
              have hn := n.isLt
              rw [hroom, List.length_append, List.length_singleton]
              simp only [room]
              omega

/-- A stretch of a run emits what is left of the loop it finds, and `MAX_FRAMES_PER_READ` frames for each
activation in it. -/
theorem length_add_room_le (s : CanReading) (stretch : List ReadEvent) :
    (machine.exec s stretch).frameReceived.length + (machine.exec s stretch).room ≤
      s.frameReceived.length + s.room + maxFramesPerRead * stretch.count .activated := by
  induction stretch generalizing s with
  | nil => exact Nat.le_refl _
  | cons e stretch ih =>
      have hstep := length_add_room_step s e
      have hrest := ih (s.step e).1
      have hcount : ([e] ++ stretch).count ReadEvent.activated =
          [e].count .activated + stretch.count .activated :=
        List.count_append
      rw [List.singleton_append] at hcount
      rw [hcount, Nat.mul_add]
      exact Nat.le_trans hrest (by omega)

/-! ## What the run says -/

def arrived (run : List ReadEvent) : List Datagram :=
  run.filterMap fun
    | .arrives datagram => some datagram
    | .activated | .round => none

/-- How the loops of a run ended. -/
def ends (run : List ReadEvent) : List LoopEnd :=
  (machine.answers machine.init run).filterMap id

/-- What is emitted and what is still in the socket make up what arrived; a full loop has emitted its
frames, and a loop that was stopped its datagram. -/
structure Tally (s : CanReading) (run : List ReadEvent) : Prop where
  frames : s.frameReceived ++ s.socket.filterMap Datagram.frame = (arrived run).filterMap Datagram.frame
  full : maxFramesPerRead * (ends run).count .full + (s.framesRead.elim 0 Fin.val) ≤ s.frameReceived.length
  stopped : (ends run).count .stopped + s.socket.countP Datagram.stops =
    (arrived run).countP Datagram.stops

section

variable {s : CanReading} {run : List ReadEvent}

theorem arrived_snoc (e : ReadEvent) : arrived (run ++ [e]) = arrived run ++ arrived [e] :=
  List.filterMap_append

theorem ends_snoc (e : ReadEvent) :
    ends (run ++ [e]) = ends run ++ ((machine.after run).step e).2.toList := by
  have hone : ∀ answer : Option LoopEnd, [answer].filterMap id = answer.toList := by
    intro answer
    cases answer <;> rfl
  rw [ends, Machine.answers_snoc, List.filterMap_append, hone]
  rfl

/-- A step keeps the tally of its event and of the end it gives. -/
theorem Tally.step (h : Tally s run) (hs : machine.after run = s) (e : ReadEvent) :
    Tally (s.step e).1 (run ++ [e]) := by
  have hends : ends (run ++ [e]) = ends run ++ (s.step e).2.toList := by
    rw [ends_snoc, hs]
  cases e with
  | arrives datagram =>
      have harrived : arrived (run ++ [.arrives datagram]) = arrived run ++ [datagram] := arrived_snoc _
      -- what arrives joins the socket: it is still to be read in both counts
      refine ⟨?_, ?_, ?_⟩
      · rw [harrived, List.filterMap_append, ← h.frames, List.append_assoc, ← List.filterMap_append]
        rfl
      · rw [hends]
        exact (List.append_nil (ends run)).symm ▸ h.full
      · rw [hends, harrived, List.countP_append, ← h.stopped, Nat.add_assoc, ← List.countP_append]
        exact congrArg (· + _) (congrArg _ (List.append_nil _))
  | activated =>
      have harrived : arrived (run ++ [.activated]) = arrived run := by
        rw [arrived_snoc]
        exact List.append_nil _
      have hends' : ends (run ++ [.activated]) = ends run := hends.trans (List.append_nil _)
      refine ⟨harrived ▸ h.frames, ?_, ?_⟩
      · have hfull := h.full
        rw [hends']
        -- an activation opens a loop with nothing read, unless one is open
        cases hreading : s.framesRead with
        | none | some n =>
            rw [hreading] at hfull
            simp only [CanReading.step, hreading]
            exact hfull
      · rw [harrived, hends']
        exact h.stopped
  | round =>
      have harrived : arrived (run ++ [.round]) = arrived run := by
        rw [arrived_snoc]
        exact List.append_nil _
      -- a round outside of a loop does nothing
      cases hreading : s.framesRead with
      | none =>
          have hsame : s.step .round = (s, none) := by rw [CanReading.step, hreading]
          rw [hsame] at hends ⊢
          have hends' : ends (run ++ [.round]) = ends run := hends.trans (List.append_nil _)
          exact ⟨harrived ▸ h.frames, hends' ▸ h.full, by rw [harrived, hends']; exact h.stopped⟩
      | some n =>
          have hround : s.step .round = s.round n := by rw [CanReading.step, hreading]
          rw [hround] at hends ⊢
          have hcases := rounds_round s n
          have hfull := h.full
          rw [hreading] at hfull
          refine ⟨?_, ?_, ?_⟩
          · -- the frame leaves the socket and, when it is one to pass on, joins the emitted ones
            rw [harrived, ← h.frames]
            generalize s.round n = done at hcases
            cases hcases with
            | emptied hsocket => rfl
            | stopped hsocket hstops hframe | skipped hsocket hgoes hframe =>
                rw [hsocket, List.filterMap_cons_none hframe]
            | emitted hsocket hgoes hframe hmore | full hsocket hgoes hframe hfull =>
                rw [hsocket, List.filterMap_cons_some hframe, List.append_assoc, List.singleton_append]
          · -- a loop ends as a full one with its last frame: sixty-four of them for each such end
            rw [hends, List.count_append]
            generalize s.round n = done at hcases
            cases hcases with
            | emptied hsocket | stopped hsocket hstops hframe =>
                exact Nat.le_trans (Nat.le_add_right _ n) hfull
            | skipped hsocket hgoes hframe =>
                change _ + s.framesRead.elim 0 Fin.val ≤ _
                rw [hreading]
                exact hfull
            | emitted hsocket hgoes hframe hmore =>
                rw [List.length_append, List.length_singleton]
                exact Nat.succ_le_succ hfull
            | full hsocket hgoes hframe hlast =>
                have hone : (some LoopEnd.full).toList.count .full = 1 := rfl
                rw [List.length_append, List.length_singleton, hone]
                simp only [Option.elim] at hfull ⊢
                rw [Nat.mul_succ]
                omega
          · -- only a datagram that is no frame stops a loop
            rw [hends, harrived, ← h.stopped, List.count_append]
            generalize s.round n = done at hcases
            cases hcases with
            | emptied hsocket => rfl
            | stopped hsocket hstops hframe =>
                rw [hsocket, List.countP_cons_of_pos hstops]
                have hone : (some LoopEnd.stopped).toList.count .stopped = 1 := rfl
                rw [hone]
                simp only
                omega
            | skipped hsocket hgoes hframe | emitted hsocket hgoes hframe hmore =>
                rw [hsocket, List.countP_cons_of_neg (Bool.eq_false_iff.1 hgoes)]
                rfl
            | full hsocket hgoes hframe hlast =>
                rw [hsocket, List.countP_cons_of_neg (Bool.eq_false_iff.1 hgoes)]
                rfl

theorem tally_after (run : List ReadEvent) : Tally (machine.after run) run := by
  induction run using List.reverseRecOn with
  | nil => exact ⟨rfl, Nat.le_refl _, rfl⟩
  | append_singleton run e ih =>
      rw [Machine.after_snoc]
      exact ih.step rfl e

end

theorem countP_ne_emptied (loopEnds : List LoopEnd) :
    loopEnds.countP (fun loopEnd => loopEnd ≠ .emptied) =
      loopEnds.count .full + loopEnds.count .stopped := by
  induction loopEnds with
  | nil => rfl
  | cons loopEnd loopEnds ih =>
      rw [List.countP_cons, List.count_cons, List.count_cons, ih]
      cases loopEnd
      case emptied => rfl
      case stopped => exact Nat.add_assoc _ _ _
      case full => exact Nat.add_right_comm _ _ _

/-- However arrivals, activations and rounds of the loop mix: the frames emitted are those that arrived and
have been read, each once and in their order; between two activations there are at most
`MAX_FRAMES_PER_READ`; and a loop ends with something left in the socket no more often than full loops of
frames and datagrams that stop it arrived. -/
theorem frames_read (run : List ReadEvent) :
    let s := machine.after run
    s.frameReceived ++ s.socket.filterMap Datagram.frame = (arrived run).filterMap Datagram.frame ∧
      (∀ stretch, .activated ∉ stretch →
        (machine.after (run ++ stretch)).frameReceived.length ≤
          s.frameReceived.length + maxFramesPerRead) ∧
      (ends run).countP (fun loopEnd => loopEnd ≠ .emptied) ≤
        ((arrived run).filterMap Datagram.frame).length / maxFramesPerRead +
          (arrived run).countP Datagram.stops := by
  intro s
  have htally := tally_after run
  refine ⟨htally.frames, fun stretch hnone => ?_, ?_⟩
  · -- the loop that is open may go on, and no other begins
    have hroom : s.room ≤ maxFramesPerRead := by
      rw [room]
      cases s.framesRead with
      | none => exact Nat.zero_le _
      | some framesRead => exact Nat.sub_le _ _
    have hstretch := length_add_room_le s stretch
    rw [List.count_eq_zero.2 hnone, Nat.mul_zero, Nat.add_zero] at hstretch
    rw [← Machine.exec_after]
    calc
      (machine.exec s stretch).frameReceived.length
          ≤ (machine.exec s stretch).frameReceived.length + (machine.exec s stretch).room :=
        Nat.le_add_right _ _
      _ ≤ s.frameReceived.length + s.room := hstretch
      _ ≤ s.frameReceived.length + maxFramesPerRead := Nat.add_le_add_left hroom _
  · have hfull : (ends run).count .full ≤
        ((arrived run).filterMap Datagram.frame).length / maxFramesPerRead := by
      rw [Nat.le_div_iff_mul_le (by decide), Nat.mul_comm, ← htally.frames, List.length_append]
      exact Nat.le_trans (Nat.le_trans (Nat.le_add_right _ _) htally.full) (Nat.le_add_right _ _)
    have hstopped : (ends run).count .stopped ≤ (arrived run).countP Datagram.stops := by
      rw [← htally.stopped]
      exact Nat.le_add_right _ _
    calc
      (ends run).countP (fun loopEnd => loopEnd ≠ .emptied)
          = (ends run).count .full + (ends run).count .stopped := countP_ne_emptied _
      _ ≤ _ := Nat.add_le_add hfull hstopped

/-- A frame whose length is out of range is passed over, and one frame is left when the round is over. -/
example :
    let late : SocketFrame := ⟨0x7E0, 2, [1, 2, 3, 4, 5, 6, 7, 8]⟩
    let s := machine.after [.arrives (.canFrame { late with can_dlc := 9 }), .arrives (.canFrame late),
      .activated, .round, .arrives (.canFrame late), .round]
    s.frameReceived = [⟨0x7E0, [1, 2], 2⟩] ∧ s.socket.length = 1 := by
  decide

end CanReading
end Server
end TcpCanUds
