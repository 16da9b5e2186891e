import TcpCanUds.Core.IsoTpPassage
import TcpCanUds.Lib.Machine

/-!
# IsoTpDuplex — two links on a bus that loses frames

Each end sends, polls, takes the frames of the other one and fetches complete messages, in any order
and at any time; frames that are under way can be lost.  The two ways of the bus are two passages: the
frames of an end are those of its messages, and the flow control frames for the messages of the other.
-/

namespace TcpCanUds
namespace IsoTp

/-- One end of the bus. -/
structure LinkEnd where
  link : IsoTpLink
  /-- the frames under way to the other end -/
  out : List QByteArray := []
  /-- the messages that `isotp_send` took -/
  sent : List QByteArray := []
  /-- the messages that `isotp_receive` gave -/
  fetched : List QByteArray := []
  deriving DecidableEq, Repr

namespace LinkEnd

def send (e : LinkEnd) (u : IsoTpUser) (raw : QByteArray) : LinkEnd :=
  let outcome := isotpSend u e.link raw
  { e with
    link := outcome.link
    out := e.out ++ outcome.frames.map CanFrameData.data
    sent := if outcome.ret = .ok then e.sent ++ [raw] else e.sent }

def poll (e : LinkEnd) (u : IsoTpUser) : LinkEnd :=
  let polled := isotpPoll u e.link
  { e with link := polled.1, out := e.out ++ polled.2.map CanFrameData.data }

/-- A frame of the other end arrives. -/
def handle (e : LinkEnd) (u : IsoTpUser) (f : QByteArray) : LinkEnd :=
  let handled := isotpOnCanMessage u e.link f
  { e with link := handled.1, out := e.out ++ handled.2.map CanFrameData.data }

def fetch (e : LinkEnd) : LinkEnd :=
  let received := isotpReceive e.link e.link.receive_buf_size
  { e with link := received.2, fetched := e.fetched ++ received.1.toList }

end LinkEnd

structure Duplex where
  near : LinkEnd
  far : LinkEnd
  deriving DecidableEq, Repr

/-- What can happen at an end. -/
inductive EndCall where
  | send (u : IsoTpUser) (raw : QByteArray)
  | poll (u : IsoTpUser)
  /-- the next frame of the other end arrives -/
  | arrive (u : IsoTpUser)
  | fetch
  /-- a frame of this end is lost -/
  | lose (i : Nat)
  deriving DecidableEq, Repr

/-- The end that acts. -/
inductive WhichEnd where
  | near
  | far
  deriving DecidableEq, Repr

def WhichEnd.other : WhichEnd → WhichEnd
  | .near => .far
  | .far => .near

namespace Duplex

def swap (d : Duplex) : Duplex :=
  ⟨d.far, d.near⟩

/-- A call at the near end. -/
def call (d : Duplex) : EndCall → Duplex
  | .send u raw => { d with near := d.near.send u raw }
  | .poll u => { d with near := d.near.poll u }
  | .arrive u =>
      match d.far.out with
      | [] => d
      | f :: rest => { near := d.near.handle u f, far := { d.far with out := rest } }
  | .fetch => { d with near := d.near.fetch }
  | .lose i => { d with near := { d.near with out := d.near.out.eraseIdx i } }

def step (d : Duplex) : WhichEnd × EndCall → Duplex
  | (.near, c) => d.call c
  | (.far, c) => (d.swap.call c).swap

/-- Two links that have done nothing yet. -/
def start (near far : IsoTpLink) : Duplex :=
  ⟨{ link := near }, { link := far }⟩

def machine (near far : IsoTpLink) : Lib.Machine Duplex (WhichEnd × EndCall) Unit where
  init := start near far
  step := fun d i => (d.step i, ())

/-! ## The two ways -/

def IsFlowControl (f : QByteArray) : Prop :=
  Pci.type f = Pci.typeFlowControlFrame

instance (f : QByteArray) : Decidable (IsFlowControl f) :=
  inferInstanceAs (Decidable (_ = _))

/-- The messages of the near end. -/
def forth (d : Duplex) : Passage where
  sender := d.near.link
  receiver := d.far.link
  data := d.near.out.filter (¬ IsFlowControl ·)
  grants := d.far.out.filter (IsFlowControl ·)
  sent := d.near.sent
  fetched := d.far.fetched

/-- The send function is set, and a message is only given up when nothing of it is under way any
more: a frame takes less time than `ISO_TP_DEFAULT_RESPONSE_TIMEOUT`. -/
def Timely (d : Duplex) : EndCall → Prop
  | .send u _ | .arrive u => u.canSend = true
  | .poll u => u.canSend = true ∧ (Expires u d.near.link → d.forth.Settled)
  | .fetch | .lose _ => True

def TimelyStep (d : Duplex) : WhichEnd × EndCall → Prop
  | (.near, c) => d.Timely c
  | (.far, c) => d.swap.Timely c

instance (d : Passage) : Decidable d.Settled :=
  inferInstanceAs (Decidable (_ ∧ _))

instance (d : Duplex) : (c : EndCall) → Decidable (d.Timely c)
  | .send u _ | .arrive u => inferInstanceAs (Decidable (u.canSend = true))
  | .poll u => inferInstanceAs (Decidable (u.canSend = true ∧ (Expires u d.near.link → d.forth.Settled)))
  | .fetch | .lose _ => isTrue trivial

instance (d : Duplex) : (i : WhichEnd × EndCall) → Decidable (d.TimelyStep i)
  | (.near, c) => inferInstanceAs (Decidable (d.Timely c))
  | (.far, c) => inferInstanceAs (Decidable (d.swap.Timely c))

/-! ## Frames by kind -/

section

variable {u : IsoTpUser} {link : IsoTpLink} {f : QByteArray}

theorem filter_append_flow (out : List QByteArray) {frames : List QByteArray}
    (h : ∀ f ∈ frames, IsFlowControl f) :
    (out ++ frames).filter (¬ IsFlowControl ·) = out.filter (¬ IsFlowControl ·) ∧
      (out ++ frames).filter (IsFlowControl ·) = out.filter (IsFlowControl ·) ++ frames := by
  have hnone : frames.filter (¬ IsFlowControl ·) = [] :=
    List.filter_eq_nil_iff.2 fun f hf => by simpa using h f hf
  have hall : frames.filter (IsFlowControl ·) = frames :=
    List.filter_eq_self.2 fun f hf => by simpa using h f hf
  rw [List.filter_append, List.filter_append, hnone, hall, List.append_nil]
  exact ⟨rfl, rfl⟩

theorem filter_append_data (out : List QByteArray) {frames : List QByteArray}
    (h : ∀ f ∈ frames, ¬ IsFlowControl f) :
    (out ++ frames).filter (¬ IsFlowControl ·) = out.filter (¬ IsFlowControl ·) ++ frames ∧
      (out ++ frames).filter (IsFlowControl ·) = out.filter (IsFlowControl ·) := by
  have hall : frames.filter (¬ IsFlowControl ·) = frames :=
    List.filter_eq_self.2 fun f hf => by simpa using h f hf
  have hnone : frames.filter (IsFlowControl ·) = [] :=
    List.filter_eq_nil_iff.2 fun f hf => by simpa using h f hf
  rw [List.filter_append, List.filter_append, hnone, hall, List.append_nil]
  exact ⟨rfl, rfl⟩

theorem eq_of_mem_isotpUserSendCan {id : UInt32} {message : QByteArray}
    (h : f ∈ (isotpUserSendCan u id message).2.map CanFrameData.data) : f = message := by
  rw [isotpUserSendCan] at h
  split_ifs at h
  · exact List.mem_singleton.1 h
  · cases h

theorem isFlowControl_isotpSendFlowControl {status size : Nat} {st : UInt8} :
    ∀ f ∈ (isotpSendFlowControl u link status size st).map CanFrameData.data, IsFlowControl f := by
  intro f hf
  rcases eq_of_mem_isotpUserSendCan hf with rfl
  exact Pci.type_byte (by decide) _ _

theorem isFlowControl_onFirstFrame (message : QByteArray) (len : Nat) :
    ∀ f ∈ (onFirstFrame u link message len).2.map CanFrameData.data, IsFlowControl f := by
  rw [onFirstFrame]
  split_ifs
  · exact isFlowControl_isotpSendFlowControl
  · exact isFlowControl_isotpSendFlowControl
  · exact fun _ hf => by cases hf

theorem isFlowControl_onConsecutiveFrame (message : QByteArray) (len : Nat) :
    ∀ f ∈ (onConsecutiveFrame u link message len).2.map CanFrameData.data, IsFlowControl f := by
  rw [onConsecutiveFrame]
  generalize isotpReceiveConsecutiveFrame link message len = received
  dsimp only
  split_ifs
  · exact fun _ hf => by cases hf
  · exact fun _ hf => by cases hf
  · exact fun _ hf => by cases hf
  · exact isFlowControl_isotpSendFlowControl
  · exact fun _ hf => by cases hf
  · exact fun _ hf => by cases hf

/-- A link answers with flow control frames only. -/
theorem isFlowControl_answer (u : IsoTpUser) (link : IsoTpLink) (data : QByteArray) :
    ∀ f ∈ (isotpOnCanMessage u link data).2.map CanFrameData.data, IsFlowControl f := by
  by_cases hlen : data.length < 2 ∨ data.length > 8
  · rw [isotpOnCanMessage, if_pos hlen]
    exact fun _ hf => by cases hf
  · rw [isotpOnCanMessage_eq u link hlen]
    split_ifs
    · exact fun _ hf => by cases hf
    · exact isFlowControl_onFirstFrame _ _
    · exact isFlowControl_onConsecutiveFrame _ _
    · exact fun _ hf => by cases hf
    · exact fun _ hf => by cases hf

theorem not_isFlowControl_consecutive :
    ∀ f ∈ (isotpSendConsecutiveFrame u link).frames.map CanFrameData.data, ¬ IsFlowControl f := by
  have hmessage : ∃ sn rest, (isotpSendConsecutiveFrame u link).frames =
      (isotpUserSendCan u link.send_arbitration_id
        (Pci.byte Pci.typeConsecutiveFrame sn :: rest)).2 := by
    simp only [isotpSendConsecutiveFrame]
    split_ifs <;> exact ⟨_, _, rfl⟩
  rcases hmessage with ⟨sn, rest, hframes⟩
  intro f hf
  rw [hframes] at hf
  rcases eq_of_mem_isotpUserSendCan hf with rfl
  rw [IsFlowControl, Pci.type_byte (by decide)]
  decide

/-- A poll sends consecutive frames only. -/
theorem not_isFlowControl_poll (u : IsoTpUser) (link : IsoTpLink) :
    ∀ f ∈ (isotpPoll u link).2.map CanFrameData.data, ¬ IsFlowControl f := by
  rw [frames_isotpPoll, frames_pollSend]
  split_ifs
  · exact not_isFlowControl_consecutive
  · exact fun _ hf => by cases hf
  · exact fun _ hf => by cases hf

end

/-! ## Both ways -/

/-- Both ways carry their messages. -/
structure Sound (d : Duplex) : Prop where
  forth : ∃ g, Carries d.forth g
  back : ∃ g, Carries d.swap.forth g
  sized : Sized d.forth
  sized' : Sized d.swap.forth

theorem Sound.swap {d : Duplex} (h : Sound d) : Sound d.swap :=
  ⟨h.back, h.forth, h.sized', h.sized⟩

section

variable {d : Duplex} {u : IsoTpUser}

theorem isotpSend_frames {link : IsoTpLink} (hu : u.canSend = true) {raw : QByteArray}
    (hsize : raw.length ≤ link.send_buf_size) (hstatus : link.send_status ≠ .inprogress) :
    (isotpSend u link raw).ret = .ok ∧
      (isotpSend u link raw).frames.map CanFrameData.data = [headFrame raw] := by
  rcases Nat.lt_or_ge raw.length 8 with hshort | hlong
  · rw [isotpSend_single hu hsize hstatus hshort, headFrame_short hshort]
    exact ⟨rfl, rfl⟩
  · rw [isotpSend_first hu hsize hstatus hlong, headFrame_long hlong]
    exact ⟨rfl, rfl⟩

theorem Sized.congr {p p' : Passage} (h : Sized p) (hs : p'.sender.send_buf_size = p.sender.send_buf_size)
    (hr : p'.receiver.receive_buf_size = p.receiver.receive_buf_size)
    (hroom : p.receiver.receive_buffer.length ≤ p'.receiver.receive_buffer.length) : Sized p' :=
  ⟨hs ▸ h.sender, hr ▸ h.receiver, hr ▸ h.room.trans hroom⟩

theorem Sound.send (h : Sound d) (hu : u.canSend = true) (raw : QByteArray) :
    Sound (d.call (.send u raw)) := by
  rcases h with ⟨⟨g, hforth⟩, ⟨g', hback⟩, hsized, hsized'⟩
  have hside := receiveSide_isotpSend u d.near.link raw
  have hconfig := config_isotpSend u d.near.link raw
  simp only [config, Prod.mk.injEq] at hconfig
  have hbuffer : (isotpSend u d.near.link raw).link.receive_buffer = d.near.link.receive_buffer :=
    congrArg ReceiveSide.receive_buffer hside
  have hsized₁ : Sized (d.call (.send u raw)).forth :=
    Sized.congr hsized hconfig.2.1 rfl (Nat.le_refl _)
  have hsized₂ : Sized (d.call (.send u raw)).swap.forth :=
    Sized.congr hsized' rfl hconfig.2.2.2 (Nat.le_of_eq (congrArg List.length hbuffer.symm))
  have hrefused : isotpSend u d.near.link raw = ⟨(isotpSend u d.near.link raw).ret, d.near.link, []⟩ →
      (isotpSend u d.near.link raw).ret ≠ .ok → d.call (.send u raw) = d := by
    intro heq hret
    simp only [call, LinkEnd.send, if_neg hret]
    rw [heq]
    simp only [List.map_nil, List.append_nil]
  -- a message that the link turns down changes nothing; one that it takes begins behind the others
  by_cases hsize : raw.length ≤ d.near.link.send_buf_size
  · by_cases hstatus : d.near.link.send_status = .inprogress
    · rw [hrefused (by rw [isotpSend_inprogress hsize hstatus])
        (by rw [isotpSend_inprogress hsize hstatus]; exact fun heq => IsoTpRet.noConfusion heq)]
      exact ⟨⟨g, hforth⟩, ⟨g', hback⟩, hsized, hsized'⟩
    · rcases isotpSend_frames hu hsize hstatus with ⟨hret, hframes⟩
      -- the first frame goes this way: the other passage has no grant more
      have hdata : ∀ f ∈ [headFrame raw], ¬ IsFlowControl f := by
        intro f hf
        rw [List.mem_singleton.1 hf]
        exact type_headFrame raw
      rcases filter_append_data d.near.out hdata with ⟨hout, hgrants⟩
      refine ⟨⟨{ g with later := g.later ++ [raw], heads := g.heads ++ [raw] }, ?_⟩, ⟨g', ?_⟩, hsized₁,
        hsized₂⟩
      · have hbegun := hforth.begin hsized hu hsize hstatus
        simp only [call, LinkEnd.send, Duplex.forth, if_pos hret, hframes, hout]
        exact hbegun
      · have hsame := hback.congr (s := d.far.link) rfl hside
        simp only [call, LinkEnd.send, Duplex.swap, Duplex.forth, hframes, hgrants]
        exact hsame
  · have hover : isotpSend u d.near.link raw = ⟨.overflow, d.near.link, []⟩ :=
      isotpSend_overflow (Nat.lt_of_not_le hsize)
    rw [hrefused (by rw [hover]) (by rw [hover]; exact fun heq => IsoTpRet.noConfusion heq)]
    exact ⟨⟨g, hforth⟩, ⟨g', hback⟩, hsized, hsized'⟩

theorem Sound.poll (h : Sound d) (hu : u.canSend = true)
    (hsettled : Expires u d.near.link → d.forth.Settled) : Sound (d.call (.poll u)) := by
  rcases h with ⟨⟨g, hforth⟩, ⟨g', hback⟩, hsized, hsized'⟩
  have hconfig := config_isotpPoll u d.near.link
  simp only [config, Prod.mk.injEq] at hconfig
  rcases filter_append_data d.near.out
    (not_isFlowControl_poll u d.near.link) with ⟨hout, hgrants⟩
  refine ⟨?_, ?_, ?_, ?_⟩
  · rcases hforth.poll_sender hu hsettled with ⟨g₁, hpolled⟩
    refine ⟨g₁, ?_⟩
    simp only [call, LinkEnd.poll, Duplex.forth, hout]
    exact hpolled
  · rcases hback.poll_receiver (u := u) with ⟨g₁, hpolled⟩
    refine ⟨g₁, ?_⟩
    simp only [call, LinkEnd.poll, Duplex.swap, Duplex.forth, hgrants]
    exact hpolled
  · exact Sized.congr hsized hconfig.2.1 rfl (Nat.le_refl _)
  · refine Sized.congr hsized' rfl hconfig.2.2.2 (Nat.le_of_eq (congrArg List.length ?_))
    exact (congrArg Prod.fst (quiet_isotpPoll u d.near.link).same).symm

theorem length_le_write (buffer data : QByteArray) (pos : Nat) :
    buffer.length ≤ (buffer.write pos data).length := by
  rw [QByteArray.write, List.length_append, List.length_append, List.length_take,
    List.length_drop]
  omega

/-- No frame makes the receive buffer shorter. -/
theorem length_receive_buffer (u : IsoTpUser) (link : IsoTpLink) (f : QByteArray) :
    link.receive_buffer.length ≤ (isotpOnCanMessage u link f).1.receive_buffer.length := by
  -- every handler writes into the buffer or leaves it alone
  have hsingle : ∀ message len,
      link.receive_buffer.length ≤ (onSingleFrame link message len).receive_buffer.length := by
    intro message len
    simp only [onSingleFrame, isotpReceiveSingleFrame]
    split_ifs
    any_goals exact Nat.le_refl _
    all_goals exact length_le_write _ _ _
  have hfirst : ∀ message len,
      link.receive_buffer.length ≤ (onFirstFrame u link message len).1.receive_buffer.length := by
    intro message len
    simp only [onFirstFrame, isotpReceiveFirstFrame]
    split_ifs
    any_goals exact Nat.le_refl _
    all_goals exact length_le_write _ _ _
  have hconsecutive : ∀ message len,
      link.receive_buffer.length ≤ (onConsecutiveFrame u link message len).1.receive_buffer.length := by
    intro message len
    simp only [onConsecutiveFrame, isotpReceiveConsecutiveFrame]
    split_ifs
    any_goals exact Nat.le_refl _
    all_goals exact length_le_write _ _ _
  have hflow : ∀ message len,
      link.receive_buffer.length ≤ (onFlowControl u link message len).receive_buffer.length := by
    intro message len
    have hbuffer := congrArg ReceiveSide.receive_buffer
      (receiveSide_onFlowControl u link message len)
    exact Nat.le_of_eq (congrArg List.length hbuffer.symm)
  by_cases hlen : f.length < 2 ∨ f.length > 8
  · rw [isotpOnCanMessage, if_pos hlen]
  · rw [isotpOnCanMessage_eq u link hlen]
    split_ifs
    · exact hsingle _ _
    · exact hfirst _ _
    · exact hconsecutive _ _
    · exact hflow _ _
    · exact Nat.le_refl _

theorem Sound.arrive (h : Sound d) (hu : u.canSend = true) : Sound (d.call (.arrive u)) := by
  cases hout : d.far.out with
  | nil =>
      simp only [call, hout]
      exact h
  | cons f rest =>
      rcases h with ⟨⟨g, hforth⟩, ⟨g', hback⟩, hsized, hsized'⟩
      have hconfig := config_isotpOnCanMessage u d.near.link f
      simp only [config, Prod.mk.injEq] at hconfig
      rcases filter_append_flow d.near.out
        (isFlowControl_answer u d.near.link f) with ⟨hdata, hgrants⟩
      have hcall : d.call (.arrive u) = ⟨d.near.handle u f, { d.far with out := rest }⟩ := by
        simp only [call, hout]
      have hsized₁ : Sized (d.call (.arrive u)).forth := by
        rw [hcall]
        exact Sized.congr hsized hconfig.2.1 rfl (Nat.le_refl _)
      have hsized₂ : Sized (d.call (.arrive u)).swap.forth := by
        rw [hcall]
        exact Sized.congr hsized' rfl hconfig.2.2.2 (length_receive_buffer u d.near.link f)
      -- each passage has a side here: for the one the frame counts, for the other it does nothing
      refine ⟨?_, ?_, hsized₁, hsized₂⟩
      all_goals rw [hcall]
      all_goals by_cases hkind : IsFlowControl f
      · -- an answer to the messages of this end
        have hbus : d.forth.grants = f :: rest.filter (IsFlowControl ·) := by
          simp only [Duplex.forth, hout, List.filter_cons, hkind, decide_true, if_true]
        rcases hforth.grant (u := u) hbus with ⟨hgranted, -, -⟩
        refine ⟨g, ?_⟩
        simp only [LinkEnd.handle, Duplex.forth, hdata]
        exact hgranted
      · have hbus : d.swap.forth.data = f :: rest.filter (¬ IsFlowControl ·) := by
          simp only [Duplex.forth, Duplex.swap, hout]
          simp only [List.filter_cons, hkind, not_false_eq_true, decide_true, if_true]
        have hsame : rest.filter (IsFlowControl ·) = d.far.out.filter (IsFlowControl ·) := by
          rw [hout]
          exact (List.filter_cons_of_neg (by simpa using hkind)).symm
        rcases hback.framed (hbus ▸ List.mem_cons_self) with ⟨height, htype⟩
        have hkept := hforth.congr (r := d.far.link)
          (sendSide_isotpOnCanMessage u d.near.link height htype) rfl
        refine ⟨g, ?_⟩
        simp only [LinkEnd.handle, Duplex.forth, hdata, hsame]
        exact hkept
      · have hbus : d.forth.grants = f :: rest.filter (IsFlowControl ·) := by
          simp only [Duplex.forth, hout, List.filter_cons, hkind, decide_true, if_true]
        have hsame : rest.filter (¬ IsFlowControl ·) = d.far.out.filter (¬ IsFlowControl ·) := by
          rw [hout]
          exact (List.filter_cons_of_neg (by simpa using hkind)).symm
        rcases hforth.grant (u := u) hbus with ⟨-, height, htype⟩
        rcases isotpOnCanMessage_flowControl u d.near.link height htype with ⟨hside, hnone⟩
        have hkept := hback.congr (s := d.far.link) rfl hside
        refine ⟨g', ?_⟩
        simp only [LinkEnd.handle, Duplex.forth, Duplex.swap, hnone, List.map_nil, List.append_nil, hsame]
        exact hkept
      · -- a frame of a message for this end
        have hbus : d.swap.forth.data = f :: rest.filter (¬ IsFlowControl ·) := by
          simp only [Duplex.forth, Duplex.swap, hout]
          simp only [List.filter_cons, hkind, not_false_eq_true, decide_true, if_true]
        rcases hback.deliver hu hsized' hbus with ⟨g₁, hdelivered⟩
        refine ⟨g₁, ?_⟩
        simp only [LinkEnd.handle, Duplex.forth, Duplex.swap, hgrants]
        exact hdelivered

theorem Sound.fetch (h : Sound d) : Sound (d.call .fetch) := by
  rcases h with ⟨⟨g, hforth⟩, hback, hsized, hsized'⟩
  have hconfig := config_isotpReceive d.near.link d.near.link.receive_buf_size
  simp only [config, Prod.mk.injEq] at hconfig
  have hbuffer : (isotpReceive d.near.link d.near.link.receive_buf_size).2.receive_buffer =
      d.near.link.receive_buffer := by
    rw [isotpReceive]
    split_ifs <;> rfl
  refine ⟨⟨g, ?_⟩, ?_, ?_, ?_⟩
  · exact hforth.congr (r := d.far.link) (sendSide_isotpReceive d.near.link _) rfl
  · rcases hback with ⟨g', hback⟩
    exact hback.fetch
  · exact Sized.congr hsized hconfig.2.1 rfl (Nat.le_refl _)
  · exact Sized.congr hsized' rfl hconfig.2.2.2 (Nat.le_of_eq (congrArg List.length hbuffer.symm))

theorem Sound.lose (h : Sound d) (i : Nat) : Sound (d.call (.lose i)) := by
  rcases h with ⟨⟨g, hforth⟩, ⟨g', hback⟩, hsized, hsized'⟩
  have hsub := List.eraseIdx_sublist d.near.out i
  refine ⟨?_, ⟨g', ?_⟩, ⟨hsized.sender, hsized.receiver, hsized.room⟩,
    ⟨hsized'.sender, hsized'.receiver, hsized'.room⟩⟩
  · exact hforth.lose_data (hsub.filter _)
  · exact hback.lose_grants (hsub.filter _)

theorem Sound.call (h : Sound d) {c : EndCall} (htimely : d.Timely c) : Sound (d.call c) := by
  cases c with
  | send u raw => exact h.send htimely raw
  | poll u => exact h.poll htimely.1 htimely.2
  | arrive u => exact h.arrive htimely
  | fetch => exact h.fetch
  | lose i => exact h.lose i

theorem Sound.step (h : Sound d) {i : WhichEnd × EndCall} (htimely : d.TimelyStep i) :
    Sound (d.step i) := by
  rcases i with ⟨side, c⟩
  cases side with
  | near => exact h.call htimely
  | far => exact (h.swap.call htimely).swap

/-- The frames of the near end are whole. -/
theorem Sound.eight (h : Sound d) {f : QByteArray} (hf : f ∈ d.near.out) : f.length = 8 := by
  rcases h with ⟨⟨g, hforth⟩, ⟨g', hback⟩, -, -⟩
  by_cases hkind : IsFlowControl f
  · have hmem : f ∈ d.swap.forth.grants := List.mem_filter.2 ⟨hf, by simpa using hkind⟩
    cases hback.stage with
    | free _ grants | announced _ _ _ _ _ _ grants | sending _ _ _ _ _ _ grants =>
        rw [grants] at hmem
        cases hmem
    | refused _ _ _ _ _ _ grants | granted _ _ _ _ _ _ _ grants =>
        rw [grants] at hmem
        rw [List.mem_singleton.1 hmem]
        rfl
  · have hmem : f ∈ d.forth.data := List.mem_filter.2 ⟨hf, by simpa using hkind⟩
    exact (hforth.framed hmem).1

/-- What comes out of either end went in at the other. -/
theorem Sound.fetched (h : Sound d) :
    d.far.fetched.Sublist d.near.sent ∧ d.near.fetched.Sublist d.far.sent := by
  have hway : ∀ {p : Passage} {g : Progress}, Carries p g → p.fetched.Sublist p.sent := by
    intro p g hcarries
    calc
      p.fetched.Sublist g.settled := hcarries.fetched_left
      List.Sublist g.settled (g.settled ++ (g.current.toList ++ g.later)) :=
        List.sublist_append_left _ _
      List.Sublist _ p.sent := by
        have hsent : g.settled ++ (g.current.toList ++ g.later) = p.sent := by
          rw [hcarries.sent, List.append_assoc]
        exact hsent ▸ List.Sublist.refl _
  rcases h with ⟨⟨g, hforth⟩, ⟨g', hback⟩, -, -⟩
  exact ⟨hway hforth, hway hback⟩

/-- A link that has not been used, with buffers of a size that twelve bits can announce. -/
structure Unused (link : IsoTpLink) : Prop where
  send_status : link.send_status ≠ .inprogress
  receive_status : link.receive_status = .idle
  send_buf_size : link.send_buf_size ≤ 4096
  receive_buf_size : 8 ≤ link.receive_buf_size
  room : link.receive_buf_size ≤ link.receive_buffer.length

theorem unused_isotpInitLink (sendid : UInt32) {n : Nat} (buffers : IsoTpBuffers n) (hlow : 8 ≤ n)
    (hhigh : n ≤ 4096) : Unused (isotpInitLink sendid buffers) where
  send_status := fun heq => IsoTpSendStatus.noConfusion heq
  receive_status := rfl
  send_buf_size := hhigh
  receive_buf_size := hlow
  room := Nat.le_of_eq buffers.length_receiveBuffer.symm

theorem sound_start {near far : IsoTpLink} (hnear : Unused near) (hfar : Unused far) :
    Sound (start near far) := by
  have hway : ∀ {s r : IsoTpLink}, Unused s → Unused r →
      Carries ⟨s, r, [], [], [], []⟩ ⟨[], none, [], [], [], none⟩ := by
    intro s r hs hr
    have hidle : r.receive_status ≠ .inprogress := by
      rw [hr.receive_status]
      exact fun heq => IsoTpReceiveStatus.noConfusion heq
    have hnone : held r = [] := held_of_ne (by
      rw [hr.receive_status]
      exact fun heq => IsoTpReceiveStatus.noConfusion heq)
    exact {
      sent := rfl
      fetched := by rw [hnone]; exact List.Sublist.refl []
      data := rfl
      heads := List.Sublist.refl []
      increasing := List.Pairwise.nil
      unnumbered := fun _ => rfl
      bound := fun _ hp => absurd hp (Option.not_mem_none _)
      waits := fun _ => hidle
      taken := fun _ hk => absurd hk (Option.not_mem_none _)
      stage := .free hs.send_status rfl (fun _ hq => by cases hq) fun hne => absurd rfl hne }
  exact ⟨⟨_, hway hnear hfar⟩, ⟨_, hway hfar hnear⟩,
    ⟨hnear.send_buf_size, hfar.receive_buf_size, hfar.room⟩,
    ⟨hfar.send_buf_size, hnear.receive_buf_size, hnear.room⟩⟩

theorem sound_run {near far : IsoTpLink} (hnear : Unused near) (hfar : Unused far)
    {calls : List (WhichEnd × EndCall)}
    (htimely : (machine near far).Along TimelyStep (start near far) calls) :
    Sound ((machine near far).after calls) := by
  have hstep : ∀ d i, Sound d → TimelyStep d i → Sound ((machine near far).step d i).1 :=
    fun _ _ h hi => h.step hi
  exact (machine near far).exec_invariant_along hstep (sound_start hnear hfar) htimely

/-- Whatever is lost on the bus, every message that a link gives was taken by the other one, once and
in the same order, and as it was. -/
theorem fetched_sublist_sent {near far : IsoTpLink} (hnear : Unused near) (hfar : Unused far)
    {calls : List (WhichEnd × EndCall)}
    (htimely : (machine near far).Along TimelyStep (start near far) calls) :
    ((machine near far).after calls).far.fetched.Sublist
        ((machine near far).after calls).near.sent ∧
      ((machine near far).after calls).near.fetched.Sublist
        ((machine near far).after calls).far.sent :=
  (sound_run hnear hfar htimely).fetched

end

end Duplex
end IsoTp
end TcpCanUds
