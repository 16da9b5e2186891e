import TcpCanUds.Core.IsoTpReceive
import TcpCanUds.Server.SendReports

/-!
# CanReception — what the CAN worker makes of any frames

Whoever is on the bus can send anything under the worker's id.  In every run, with sends and polls
between the frames, what is copied into the receive buffer stays inside it, and a message comes out
exactly when a valid single frame came or a consecutive frame that completes what the last accepted
first frame announced.  What an accepted frame brings are bytes that came in it.
-/

namespace TcpCanUds
namespace Server

open Lib IsoTp

namespace CanWorkerServer

/-! ## Frames -/

/-- The bytes of a frame under the worker's id; all other calls bring none. -/
def heard : CanWorkerInput → QByteArray
  | .frameReceived _ _ frame => if frame.id = CanId.udsReq then frame.bytes else []
  | .sendUdsMessage _ _ | .pollTimeout _ => []

/-- What the library gets from its user during a call. -/
def userAt : CanWorkerInput → IsoTpUser
  | .frameReceived ms _ _ | .sendUdsMessage ms _ | .pollTimeout ms => { ms := ms }

/-- What the link accepts in a call. -/
def taken (w : CanWorkerServer) (i : CanWorkerInput) : Option Taken :=
  w.m_isoTpLink.bind fun link => takes link (heard i)

/-- What a call accepts, told by the bytes that came: they are a valid frame of its kind. -/
structure TakesValid (w : CanWorkerServer) (i : CanWorkerInput) : Prop where
  single : ∀ raw, taken w i = some (.single raw) ↔ IsSingleFrame (heard i) raw
  first : ∀ size six, taken w i = some (.first size six) ↔ IsFirstFrame (heard i) size six
  next : ∀ sn more, taken w i = some (.next sn more) → IsConsecutiveFrame (heard i) sn more

/-- The message given to the UDS worker for the bytes `raw`. -/
def decoded : CanWorkerInput → QByteArray → UDSMessage
  | .frameReceived _ mem _, raw => { deserializeUDSMessage mem raw with isResponse := true }
  | .sendUdsMessage _ _, _ | .pollTimeout _, _ => UDSMessage.declare {}

/-- A call leads from the link `link` to the link `link'` with all its copies inside the receive
buffer. -/
structure StaysInside (i : CanWorkerInput) (link link' : IsoTpLink) : Prop where
  length : link.receive_buffer.length = isoTpBufferSize
  /-- `receive_size - receive_offset` is taken of unsigned numbers. -/
  noUnderflow : link.receive_status = .inprogress → link.receive_offset ≤ link.receive_size
  inside : ∀ pos bytes, receiveWrite link (heard i) = some (pos, bytes) →
    pos + bytes.length ≤ isoTpBufferSize
  only : link'.receive_buffer = bufferAfter link (receiveWrite link (heard i))
  /-- The worker fetches a message into the receive buffer itself. -/
  fetched : ∀ raw, (receiveFrame (userAt i) link (heard i)).1 = some raw →
    raw.length ≤ isoTpBufferSize ∧ link'.receive_buffer.write 0 raw = link'.receive_buffer

/-! ## Messages in progress -/

section

variable (buffers : IsoTpBuffers isoTpBufferSize)

/-- Call number `start` of the run brought the last accepted first frame, which announced `size` bytes
and carried `six`.  Since then the consecutive frames `nexts` were accepted, in turn, and nothing else;
bytes are still missing and no message came out. -/
structure Collecting (start : Nat) (run : List CanWorkerInput) (size : Nat) (six : QByteArray)
    (nexts : List (Nat × QByteArray)) : Prop where
  begun : ∃ before i later, before.length = start ∧ run = before ++ i :: later ∧
    taken ((worker buffers).after before) i = some (.first size six) ∧
      (worker buffers).watch taken ((worker buffers).after (before ++ [i])) later =
        nexts.map (fun x => .next x.1 x.2) ∧
      ∀ e ∈ (worker buffers).trace ((worker buffers).after before) (i :: later),
        e.2.received = none
  sixBytes : six.length = 6
  inTurn : nexts.map Prod.fst = (List.range nexts.length).map fun k => (k + 1) % 16
  missing : (six ++ nexts.flatMap Prod.snd).length < size

/-- The call brings the consecutive frame with the last byte of the message `raw`, which was begun by
call number `start` and has the length that was announced there. -/
def Completes (start : Nat) (run : List CanWorkerInput) (i : CanWorkerInput) (raw : QByteArray) :
    Prop :=
  ∃ size six nexts data, Collecting buffers start run size six nexts ∧
    taken ((worker buffers).after run) i = some (.next ((nexts.length + 1) % 16) data) ∧
      raw.length = size ∧ raw <+: six ++ nexts.flatMap Prod.snd ++ data

end

/-! ## One call -/

/-- The link of a running worker, between two calls. -/
structure Sound (w : CanWorkerServer) (link : IsoTpLink) : Prop where
  running : w.m_initialized = true
  isLink : w.m_isoTpLink = some link
  config : IsoTp.config link = (CanId.udsResp, isoTpBufferSize, 0, isoTpBufferSize)
  receiver : ReceiverInv link

theorem Sound.receive_buf_size {w : CanWorkerServer} {link : IsoTpLink} (h : Sound w link) :
    link.receive_buf_size = isoTpBufferSize :=
  congrArg (fun c => c.2.2.2) h.config

theorem Sound.eight_le {w : CanWorkerServer} {link : IsoTpLink} (h : Sound w link) :
    8 ≤ link.receive_buf_size := by
  rw [h.receive_buf_size]
  decide

theorem Sound.taken_eq {w : CanWorkerServer} {link : IsoTpLink} (h : Sound w link)
    (i : CanWorkerInput) : taken w i = takes link (heard i) := by
  rw [taken, h.isLink]
  rfl

/-- Every first frame announces less than the receive buffer holds. -/
theorem Sound.takesValid {w : CanWorkerServer} {link : IsoTpLink} (h : Sound w link)
    (i : CanWorkerInput) : TakesValid w i := by
  refine ⟨fun raw => ?_, fun size six => ?_, fun sn more htaken => ?_⟩
  · rw [h.taken_eq]
    exact takes_single_iff
  · rw [h.taken_eq, takes_first_iff, h.receive_buf_size]
    exact and_iff_left_of_imp fun hfirst => Nat.le_of_lt hfirst.size_lt
  · rw [h.taken_eq] at htaken
    exact consecutiveFrame_of_takes htaken

section

variable (buffers : IsoTpBuffers isoTpBufferSize) {w : CanWorkerServer} {link : IsoTpLink}

/-- Every call does to the receive side what a frame with the bytes it brings does. -/
theorem Sound.receives (h : Sound w link) (i : CanWorkerInput) :
    ∃ link' out, ((worker buffers).step w i).1.m_isoTpLink = some link' ∧
      IsoTp.config link' = IsoTp.config link ∧ ReceiveStep link (heard i) out link' ∧
      out = (receiveFrame (userAt i) link (heard i)).1 ∧
      ((worker buffers).step w i).2.received =
        out.bind fun raw => if 0 < raw.length then some (decoded i raw) else none := by
  have hfull := h.receiver.notFull
  have hquiet : receiveFrame (userAt i) link [] = (none, link) := isotpReceive_waits hfull _
  cases i with
  | sendUdsMessage ms msg =>
      rw [show heard (.sendUdsMessage ms msg) = [] from rfl, hquiet]
      simp only [worker, sendUdsMessage_eq ms msg h.running h.isLink]
      exact ⟨_, none, rfl, config_isotpSend _ _ _, .refused rfl (quiet_isotpSend _ _ _), rfl, rfl⟩
  | frameReceived ms mem frame =>
      simp only [worker, onFrameReceived, h.isLink, heard]
      by_cases hid : frame.id = CanId.udsReq
      · rw [if_neg (not_not.2 hid), if_pos hid]
        refine ⟨_, _, rfl, config_receiveFrame _ _ _, receiveFrame_step _ _ hfull h.eight_le, rfl, ?_⟩
        cases hout : (receiveFrame { ms := ms } link frame.bytes).1 with
        | none | some raw =>
            rw [receiveFrame] at hout
            simp only [hout]
            rfl
      · rw [if_pos hid, if_neg hid, hquiet]
        exact ⟨link, none, h.isLink, rfl, .refused rfl (Quiet.refl link), rfl, rfl⟩
  | pollTimeout ms =>
      rw [show heard (.pollTimeout ms) = [] from rfl, hquiet]
      simp only [worker, pollTimeout, h.isLink, h.running, if_true]
      exact ⟨_, none, rfl, config_isotpPoll _ _, .refused rfl (quiet_isotpPoll _ _), rfl, rfl⟩

theorem Sound.step (h : Sound w link) (i : CanWorkerInput) :
    ∃ link' out, Sound ((worker buffers).step w i).1 link' ∧ ReceiveStep link (heard i) out link' ∧
      out = (receiveFrame (userAt i) link (heard i)).1 ∧
      ((worker buffers).step w i).2.received =
        out.bind fun raw => if 0 < raw.length then some (decoded i raw) else none := by
  rcases h.receives buffers i with ⟨link', out, hlink', hconfig, hstep, hout, hreceived⟩
  have hrunning : Running ((worker buffers).step w i).1 :=
    running_step ⟨h.running, link, h.isLink, h.config⟩ i
  exact ⟨link', out, ⟨hrunning.1, hlink', hconfig.trans h.config, h.receiver.step h.eight_le hconfig hstep⟩,
    hstep, hout, hreceived⟩

end

theorem sound_after (buffers : IsoTpBuffers isoTpBufferSize) (run : List CanWorkerInput) :
    ∃ link, Sound ((worker buffers).after run) link := by
  apply (worker buffers).after_invariant (I := fun w => ∃ link, Sound w link)
  · refine ⟨isotpInitLink CanId.udsResp buffers, rfl, rfl, rfl, ?_, ?_, ?_, ?_⟩
    · exact buffers.length_receiveBuffer
    · exact fun h => IsoTpReceiveStatus.noConfusion h
    · exact fun h => IsoTpReceiveStatus.noConfusion h
    · exact fun h => IsoTpReceiveStatus.noConfusion h
  · rintro w i ⟨link, h⟩
    rcases h.step buffers i with ⟨link', -, h', -⟩
    exact ⟨link', h'⟩

/-! ## The frames since the first one -/

section

variable {buffers : IsoTpBuffers isoTpBufferSize} {run before later : List CanWorkerInput}
  {i : CanWorkerInput} {link : IsoTpLink} {start size : Nat} {six : QByteArray}
  {nexts : List (Nat × QByteArray)}

theorem Sound.unique {w : CanWorkerServer} {link' : IsoTpLink} (h : Sound w link)
    (h' : Sound w link') : link = link' :=
  Option.some.inj (h.isLink.symm.trans h'.isLink)

/-- While the message is in progress, the link holds what the frames since the first one brought. -/
theorem collects_later
    (hfirst : taken ((worker buffers).after before) i = some (.first size six))
    (hlink : Sound ((worker buffers).after (before ++ i :: later)) link)
    (hwatch : (worker buffers).watch taken ((worker buffers).after (before ++ [i])) later =
      nexts.map (fun x => .next x.1 x.2))
    (hstatus : link.receive_status = .inprogress) :
    Collects size (six ++ nexts.flatMap Prod.snd) nexts.length link := by
  induction later using List.reverseRecOn generalizing link nexts with
  | nil =>
      -- the first frame has just been accepted
      rcases sound_after buffers before with ⟨link₀, h₀⟩
      rcases h₀.step buffers i with ⟨link', out, h', hstep, -⟩
      rw [Machine.after_snoc] at hlink
      rw [List.map_eq_nil_iff.1 hwatch.symm, hlink.unique h', List.flatMap_nil, List.append_nil]
      rw [h₀.taken_eq] at hfirst
      exact (hstep.collects_first hfirst).2.2.2
  | append_singleton later j ih =>
      rcases sound_after buffers (before ++ i :: later) with ⟨link₀, h₀⟩
      rcases h₀.step buffers j with ⟨link', out, h', hstep, -⟩
      rw [← List.cons_append, ← List.append_assoc, Machine.after_snoc] at hlink
      rw [hlink.unique h'] at hstatus ⊢
      rw [Machine.watch_snoc, Machine.exec_after, List.append_assoc, List.singleton_append,
        h₀.taken_eq] at hwatch
      cases htakes : takes link₀ (heard j) with
      | none =>
          rw [htakes, Option.toList_none, List.append_nil] at hwatch
          -- nothing was accepted, so the link holds what it held
          have hquiet := (hstep.of_none htakes).2
          exact (ih h₀ hwatch (hquiet.inprogress hstatus)).quiet hquiet
      | some t =>
          rw [htakes, Option.toList_some] at hwatch
          -- what was accepted last is a consecutive frame, by the frames watched
          rcases List.append_eq_map_iff.1 hwatch with ⟨nexts₀, last, rfl, hbefore, hlast⟩
          rcases List.map_eq_singleton_iff.1 hlast with ⟨⟨sn, data⟩, rfl, rfl⟩
          have hbegun := ih h₀ hbefore.symm (hstep.inprogress_of_next htakes)
          rcases hbegun.next h₀.receiver hstep htakes with ⟨-, ⟨-, -, hafter⟩ | ⟨-, -, hidle⟩⟩
          · rw [List.flatMap_append, List.flatMap_singleton, List.length_append, ← List.append_assoc]
            exact hafter
          · -- the message would be complete, and nothing in progress
            rw [hidle] at hstatus
            cases hstatus

/-- The link of a run that collects a message, before a consecutive frame is accepted. -/
theorem Collecting.collects (h : Collecting buffers start run size six nexts)
    (hlink : Sound ((worker buffers).after run) link)
    (hstatus : link.receive_status = .inprogress) :
    Collects size (six ++ nexts.flatMap Prod.snd) nexts.length link := by
  rcases h.begun with ⟨before, i, later, -, rfl, hfirst, hwatch, -⟩
  exact collects_later hfirst hlink hwatch hstatus

/-- A call that brings no message out extends the message in progress by what it accepts. -/
theorem Collecting.snoc (h : Collecting buffers start run size six nexts) {j : CanWorkerInput}
    {more : List (Nat × QByteArray)}
    (htaken : (taken ((worker buffers).after run) j).toList = more.map (fun x => .next x.1 x.2))
    (hreceived : ((worker buffers).step ((worker buffers).after run) j).2.received = none)
    (hturn : (nexts ++ more).map Prod.fst =
      (List.range (nexts ++ more).length).map fun k => (k + 1) % 16)
    (hmissing : (six ++ (nexts ++ more).flatMap Prod.snd).length < size) :
    Collecting buffers start (run ++ [j]) size six (nexts ++ more) := by
  rcases h.begun with ⟨before, i, later, hstart, rfl, hfirst, hwatch, hnone⟩
  refine ⟨⟨before, i, later ++ [j], hstart, ?_, hfirst, ?_, ?_⟩, h.sixBytes, hturn, hmissing⟩
  · rw [List.append_assoc, List.cons_append]
  · rw [Machine.watch_snoc, Machine.exec_after, List.append_assoc, List.singleton_append, hwatch,
      htaken, List.map_append]
  · intro e he
    rw [← List.cons_append, Machine.trace_snoc, Machine.exec_after] at he
    rcases List.mem_append.1 he with hold | hnew
    · exact hnone e hold
    · rw [List.mem_singleton.1 hnew]
      exact hreceived

theorem Collecting.refuse (h : Collecting buffers start run size six nexts) {j : CanWorkerInput}
    (htaken : taken ((worker buffers).after run) j = none)
    (hreceived : ((worker buffers).step ((worker buffers).after run) j).2.received = none) :
    Collecting buffers start (run ++ [j]) size six nexts := by
  rw [← List.append_nil nexts]
  apply h.snoc
  · rw [htaken]
    rfl
  · exact hreceived
  · rw [List.append_nil]
    exact h.inTurn
  · rw [List.append_nil]
    exact h.missing

theorem Collecting.extend (h : Collecting buffers start run size six nexts) {j : CanWorkerInput}
    {data : QByteArray}
    (htaken : taken ((worker buffers).after run) j = some (.next ((nexts.length + 1) % 16) data))
    (hreceived : ((worker buffers).step ((worker buffers).after run) j).2.received = none)
    (hmissing : (six ++ nexts.flatMap Prod.snd ++ data).length < size) :
    Collecting buffers start (run ++ [j]) size six
      (nexts ++ [((nexts.length + 1) % 16, data)]) := by
  apply h.snoc
  · rw [htaken]
    rfl
  · exact hreceived
  · rw [List.map_append, h.inTurn, List.length_append, List.length_singleton, List.range_succ,
      List.map_append]
    rfl
  · rw [List.flatMap_append, List.flatMap_singleton, ← List.append_assoc]
    exact hmissing

/-- While a message is in progress, the run tells where it began and what it has collected. -/
theorem collecting_after (buffers : IsoTpBuffers isoTpBufferSize) (run : List CanWorkerInput)
    (hlink : Sound ((worker buffers).after run) link)
    (hstatus : link.receive_status = .inprogress) :
    ∃ start size six nexts, Collecting buffers start run size six nexts := by
  induction run using List.reverseRecOn generalizing link with
  | nil =>
      rw [Machine.after_nil] at hlink
      rw [← Option.some.inj hlink.isLink] at hstatus
      cases hstatus
  | append_singleton run j ih =>
      rcases sound_after buffers run with ⟨link₀, h₀⟩
      rcases h₀.step buffers j with ⟨link', out, h', hstep, -, hreceived⟩
      rw [Machine.after_snoc] at hlink
      rw [hlink.unique h'] at hstatus
      have htaken := h₀.taken_eq j
      cases htakes : takes link₀ (heard j) with
      | none =>
          -- the message that is in progress was so before the call
          rcases hstep.of_none htakes with ⟨rfl, hquiet⟩
          rcases ih h₀ (hquiet.inprogress hstatus) with ⟨start, size, six, nexts, h⟩
          exact ⟨start, size, six, nexts, h.refuse (htaken.trans htakes) hreceived⟩
      | some t =>
          rw [htakes] at htaken
          cases t with
          | single raw =>
              -- behind a message of its own nothing is in progress
              rw [(hstep.of_single htakes).2.2] at hstatus
              cases hstatus
          | first size six =>
              -- whatever was in progress, the message begins here
              rcases hstep.collects_first htakes with ⟨rfl, -, hsix, hcollects⟩
              refine ⟨run.length, size, six, [], ⟨run, j, [], rfl, rfl, htaken, rfl, ?_⟩, hsix, rfl, ?_⟩
              · intro e he
                rw [List.mem_singleton.1 he]
                exact hreceived
              · rw [List.flatMap_nil, List.append_nil]
                exact hcollects.more
          | next sn data =>
              have hbefore := hstep.inprogress_of_next htakes
              rcases ih h₀ hbefore with ⟨start, size, six, nexts, h⟩
              rcases (h.collects h₀ hbefore).next h₀.receiver hstep htakes with
                ⟨hsn, ⟨hmissing, rfl, -⟩ | ⟨-, -, hidle⟩⟩
              · -- bytes are still missing
                rw [hsn] at htaken
                exact ⟨start, size, six, _, h.extend htaken hreceived hmissing⟩
              · rw [hidle] at hstatus
                cases hstatus

end

/-! ## Every call of every run -/

section

variable {buffers : IsoTpBuffers isoTpBufferSize} {run : List CanWorkerInput} {link : IsoTpLink}

theorem Sound.staysInside (buffers : IsoTpBuffers isoTpBufferSize) {w : CanWorkerServer}
    (h : Sound w link) (i : CanWorkerInput) :
    ∃ link', ((worker buffers).step w i).1.m_isoTpLink = some link' ∧ StaysInside i link link' := by
  rcases h.step buffers i with ⟨link', out, h', hstep, rfl, -⟩
  have hsize := h.receive_buf_size
  refine ⟨link', h'.isLink, ?_, h.receiver.offset_le, ?_, hstep.buffer_eq, ?_⟩
  · rw [h.receiver.length, hsize]
  · intro pos bytes hwrite
    rw [← hsize]
    exact h.receiver.write_le h.eight_le hstep hwrite
  · intro raw hraw
    rw [hraw] at hstep
    rw [← hsize]
    exact hstep.fetched h.eight_le

/-- A message is fetched in a call for an accepted single frame and for the consecutive frame that
completes a message, and in no other call. -/
theorem fetched_iff {i : CanWorkerInput} {out : Option QByteArray} {link' : IsoTpLink}
    (hlink : Sound ((worker buffers).after run) link) (hstep : ReceiveStep link (heard i) out link')
    (raw : QByteArray) :
    out = some raw ↔
      taken ((worker buffers).after run) i = some (.single raw) ∨
        ∃ start, Completes buffers start run i raw := by
  rw [hlink.taken_eq]
  constructor
  · rintro rfl
    -- what came out came with this call, so the kind of its frame decides
    cases htakes : takes link (heard i) with
    | none => cases (hstep.of_none htakes).1
    | some t =>
        cases t with
        | single bytes =>
            rw [Option.some.inj (hstep.of_single htakes).1]
            exact Or.inl rfl
        | first size six => cases (hstep.collects_first htakes).1
        | next sn data =>
            have hstatus := hstep.inprogress_of_next htakes
            rcases collecting_after buffers run hlink hstatus with ⟨start, size, six, nexts, h⟩
            rcases (h.collects hlink hstatus).next hlink.receiver hstep htakes with
              ⟨hsn, ⟨-, hnone, -⟩ | ⟨hle, hsome, -⟩⟩
            · -- bytes are missing, so nothing is fetched
              cases hnone
            · refine Or.inr ⟨start, size, six, nexts, data, h, ?_, ?_, ?_⟩
              · rw [hlink.taken_eq, htakes, hsn]
              · rw [Option.some.inj hsome]
                exact List.length_take_of_le hle
              · rw [Option.some.inj hsome]
                exact List.take_prefix _ _
  · rintro (hsingle | ⟨start, size, six, nexts, data, h, htaken, hlen, hprefix⟩)
    · exact (hstep.of_single hsingle).1
    · rw [hlink.taken_eq] at htaken
      have hstatus := hstep.inprogress_of_next htaken
      rcases (h.collects hlink hstatus).next hlink.receiver hstep htaken with
        ⟨-, ⟨hless, -⟩ | ⟨-, hsome, -⟩⟩
      · -- the bytes of the message cannot be missing
        have hle := hprefix.length_le
        omega
      · rw [hsome, ← hlen, ← List.prefix_iff_eq_take.1 hprefix]

theorem Completes.length_pos {start : Nat} {i : CanWorkerInput} {raw : QByteArray}
    (h : Completes buffers start run i raw) : 0 < raw.length := by
  rcases h with ⟨size, six, nexts, data, h, -, hlen, -⟩
  have hmissing := h.missing
  omega

theorem received_iff (buffers : IsoTpBuffers isoTpBufferSize) (run : List CanWorkerInput)
    (i : CanWorkerInput) (msg : UDSMessage) :
    ((worker buffers).step ((worker buffers).after run) i).2.received = some msg ↔
      ∃ raw, msg = decoded i raw ∧
        (taken ((worker buffers).after run) i = some (.single raw) ∨
          ∃ start, Completes buffers start run i raw) := by
  rcases sound_after buffers run with ⟨link, hlink⟩
  rcases hlink.step buffers i with ⟨link', out, -, hstep, -, hreceived⟩
  have hpos : ∀ raw, out = some raw → 0 < raw.length := by
    intro raw hraw
    rcases (fetched_iff hlink hstep raw).1 hraw with hsingle | ⟨start, hcompletes⟩
    · rw [hlink.taken_eq] at hsingle
      exact (hstep.of_single hsingle).2.1
    · exact hcompletes.length_pos
  rw [hreceived]
  calc
    (out.bind fun raw => if 0 < raw.length then some (decoded i raw) else none) = some msg ↔
        ∃ raw, out = some raw ∧ msg = decoded i raw := by
      rw [Option.bind_eq_some_iff]
      refine exists_congr fun raw => and_congr_right fun hraw => ?_
      rw [if_pos (hpos raw hraw), Option.some_inj]
      exact eq_comm
    _ ↔ _ := exists_congr fun raw => by rw [and_comm, fetched_iff hlink hstep raw]

/-- A first frame begins at most one message that comes out. -/
theorem Completes.once {start : Nat} {i j : CanWorkerInput} {raw raw' : QByteArray}
    {rest : List CanWorkerInput} (h : Completes buffers start run i raw) :
    ¬ Completes buffers start (run ++ i :: rest) j raw' := by
  intro h'
  have hreceived := (received_iff buffers run i _).2 ⟨raw, rfl, Or.inr ⟨start, h⟩⟩
  rcases h with ⟨_, _, _, _, h, -⟩
  rcases h' with ⟨_, _, _, _, h', -⟩
  rcases h.begun with ⟨before, k, later, hstart, rfl, -⟩
  rcases h'.begun with ⟨before', k', later', hstart', hrun, -, -, hnone⟩
  rw [List.append_assoc] at hrun
  rcases List.append_inj hrun (hstart.trans hstart'.symm) with ⟨rfl, hsame⟩
  -- the call that completed the message came out with it, among those that came out with none
  have hmem : (i, ((worker buffers).step ((worker buffers).after (before ++ k :: later)) i).2) ∈
      (worker buffers).trace ((worker buffers).after before) (k' :: later') := by
    rw [← hsame, List.cons_append, ← List.cons_append, Machine.trace_append_cons, Machine.exec_after]
    exact List.mem_append_right _ List.mem_cons_self
  rw [hnone _ hmem] at hreceived
  cases hreceived

/-- In every run, whatever the frames are, the copies of a call stay inside the receive buffer.  What comes
out is a valid single frame or a message just completed, each of these once, and the frames that a message
is made of are valid: the bytes that they bring came in them. -/
theorem receptionSafe (buffers : IsoTpBuffers isoTpBufferSize) (run : List CanWorkerInput)
    (i : CanWorkerInput) :
    (∃ link link', ((worker buffers).after run).m_isoTpLink = some link ∧
        ((worker buffers).after (run ++ [i])).m_isoTpLink = some link' ∧ StaysInside i link link') ∧
      TakesValid ((worker buffers).after run) i ∧
      (∀ msg, ((worker buffers).step ((worker buffers).after run) i).2.received = some msg ↔
        ∃ raw, msg = decoded i raw ∧
          (IsSingleFrame (heard i) raw ∨ ∃ start, Completes buffers start run i raw)) ∧
      ∀ start raw, Completes buffers start run i raw →
        ∀ rest j raw', ¬ Completes buffers start (run ++ i :: rest) j raw' := by
  rcases sound_after buffers run with ⟨link, hlink⟩
  rcases hlink.staysInside buffers i with ⟨link', hlink', hinside⟩
  have hvalid := hlink.takesValid i
  refine ⟨⟨link, link', hlink.isLink, ?_, hinside⟩, hvalid, fun msg => ?_, ?_⟩
  · rw [Machine.after_snoc]
    exact hlink'
  · rw [received_iff]
    refine exists_congr fun raw => and_congr_right fun _ => ?_
    rw [hvalid.single]
  · intro start raw h rest j raw'
    exact h.once

end

end CanWorkerServer
end Server
end TcpCanUds
