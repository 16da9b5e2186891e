import TcpCanUds.Core.IsoTpTransfer

/-!
# IsoTpReceive — what a link does with any frame

A link is given arbitrary frames.  `takes` tells which of them it accepts, by the return value of the
function that handles their type; `ReceiveStep` lists what an accepted or refused frame does to the
receive side, and `receiveFrame_step` proves that every frame does one of that.
-/

namespace TcpCanUds
namespace IsoTp

open QByteArray

/-! ## Accepted frames -/

/-- What an accepted frame brings: a whole message, the length and the first bytes of one, or the next
bytes under a number. -/
inductive Taken where
  | single (data : QByteArray)
  | first (size : Nat) (data : QByteArray)
  | next (sn : Nat) (data : QByteArray)
  deriving DecidableEq, Repr

/-- The frame that the link accepts: its handler returns `ISOTP_RET_OK`. -/
def takes (link : IsoTpLink) (data : QByteArray) : Option Taken :=
  if data.length < 2 ∨ data.length > 8 then none
  else
    let message := padded data
    if Pci.type message = Pci.typeSingle then
      if (isotpReceiveSingleFrame link message data.length).1 = .ok then
        some (.single (message.mid 1 (Pci.low message)))
      else none
    else if Pci.type message = Pci.typeFirstFrame then
      if (isotpReceiveFirstFrame link message data.length).1 = .ok then
        some (.first (Pci.low message * 256 + (message.byteAt 1).toNat) (message.mid 2 6))
      else none
    else if Pci.type message = Pci.typeConsecutiveFrame then
      -- outside a message they are not handled at all
      if link.receive_status = .inprogress ∧
          (isotpReceiveConsecutiveFrame link message data.length).1 = .ok then
        some (.next (Pci.low message) (data.drop 1))
      else none
    else none

/-- A frame handled, and the message fetched if it completed one. -/
def receiveFrame (u : IsoTpUser) (link : IsoTpLink) (data : QByteArray) :
    Option QByteArray × IsoTpLink :=
  let handled := (isotpOnCanMessage u link data).1
  isotpReceive handled handled.receive_buf_size

/-- The `memcpy` into the receive buffer that a frame leads to: where it begins, and its bytes. -/
def receiveWrite (link : IsoTpLink) (data : QByteArray) : Option (Nat × QByteArray) :=
  match takes link data with
  | none => none
  | some (.single bytes) | some (.first _ bytes) => some (0, bytes)
  | some (.next _ bytes) =>
      some (link.receive_offset,
        bytes.take (min (link.receive_size - link.receive_offset) 7))

/-- The buffer behind that `memcpy`. -/
def bufferAfter (link : IsoTpLink) : Option (Nat × QByteArray) → QByteArray
  | none => link.receive_buffer
  | some (pos, bytes) => link.receive_buffer.write pos bytes

/-! ## What a frame does -/

/-- The receive side of a link, without its status. -/
def reception (link : IsoTpLink) : QByteArray × Nat × Nat × Nat :=
  (link.receive_buffer, link.receive_size, link.receive_offset, link.receive_sn)

/-- The receive side is as before, or given up. -/
structure Quiet (link link' : IsoTpLink) : Prop where
  same : reception link' = reception link
  status : link'.receive_status = link.receive_status ∨ link'.receive_status = .idle

theorem Quiet.refl (link : IsoTpLink) : Quiet link link :=
  ⟨rfl, Or.inl rfl⟩

/-- All that a frame can do to the receive side of a link that holds no complete message. -/
inductive ReceiveStep (link : IsoTpLink) (data : QByteArray) :
    Option QByteArray → IsoTpLink → Prop
  | refused {link' : IsoTpLink} (htakes : takes link data = none) (hquiet : Quiet link link') :
      ReceiveStep link data none link'
  | single {link' : IsoTpLink} {bytes : QByteArray} (htakes : takes link data = some (.single bytes))
      (hpos : 1 ≤ bytes.length) (hshort : bytes.length ≤ 7)
      (hbuffer : link'.receive_buffer = link.receive_buffer.write 0 bytes)
      (hstatus : link'.receive_status = .idle) :
      ReceiveStep link data (some bytes) link'
  | first {link' : IsoTpLink} {size : Nat} {bytes : QByteArray}
      (htakes : takes link data = some (.first size bytes)) (hsix : bytes.length = 6)
      (hlong : 8 ≤ size) (hfits : size ≤ link.receive_buf_size)
      (hafter : reception link' = (link.receive_buffer.write 0 bytes, size, 6, 1))
      (hstatus : link'.receive_status = .inprogress) :
      ReceiveStep link data none link'
  | next {link' : IsoTpLink} {bytes : QByteArray} {k : Nat}
      (htakes : takes link data = some (.next link.receive_sn bytes))
      (hstatus : link.receive_status = .inprogress)
      (hk : k = min (link.receive_size - link.receive_offset) 7) (hle : k ≤ bytes.length)
      (hseven : bytes.length ≤ 7)
      (hmore : link.receive_offset + k < link.receive_size)
      (hafter : reception link' =
        (link.receive_buffer.write link.receive_offset (bytes.take k), link.receive_size,
          link.receive_offset + k, (if link.receive_sn + 1 > 0x0F then 0 else link.receive_sn + 1)))
      (hstatus' : link'.receive_status = .inprogress) :
      ReceiveStep link data none link'
  | last {link' : IsoTpLink} {bytes raw : QByteArray} {k : Nat}
      (htakes : takes link data = some (.next link.receive_sn bytes))
      (hstatus : link.receive_status = .inprogress)
      (hk : k = min (link.receive_size - link.receive_offset) 7) (hle : k ≤ bytes.length)
      (hend : link.receive_size ≤ link.receive_offset + k)
      (hbuffer : link'.receive_buffer =
        link.receive_buffer.write link.receive_offset (bytes.take k))
      (hraw : raw = link'.receive_buffer.take (min link.receive_size link.receive_buf_size))
      (hstatus' : link'.receive_status = .idle) :
      ReceiveStep link data (some raw) link'

/-! ## Every frame -/

section

variable {u : IsoTpUser} {link : IsoTpLink} {data : QByteArray}

theorem isotpReceive_waits (h : link.receive_status ≠ .full) (size : Nat) :
    isotpReceive link size = (none, link) :=
  if_pos h

theorem isotpReceive_full (h : link.receive_status = .full) (size : Nat) :
    isotpReceive link size =
      (some (link.receive_buffer.take (min link.receive_size size)),
        { link with receive_status := .idle }) :=
  if_neg (not_not.2 h)

theorem takes_single (link : IsoTpLink) (hlen : ¬ (data.length < 2 ∨ data.length > 8))
    (htype : Pci.type (padded data) = Pci.typeSingle) :
    takes link data =
      if (isotpReceiveSingleFrame link (padded data) data.length).1 = .ok then
        some (.single ((padded data).mid 1 (Pci.low (padded data))))
      else none := by
  rw [takes, if_neg hlen]
  exact if_pos htype

theorem takes_firstFrame (link : IsoTpLink) (hlen : ¬ (data.length < 2 ∨ data.length > 8))
    (htype : Pci.type (padded data) = Pci.typeFirstFrame) :
    takes link data =
      if (isotpReceiveFirstFrame link (padded data) data.length).1 = .ok then
        some (.first (Pci.low (padded data) * 256 + ((padded data).byteAt 1).toNat)
          ((padded data).mid 2 6))
      else none := by
  have hsingle : Pci.type (padded data) ≠ Pci.typeSingle := by
    rw [htype]
    decide
  rw [takes, if_neg hlen]
  exact (if_neg hsingle).trans (if_pos htype)

theorem takes_consecutiveFrame (link : IsoTpLink) (hlen : ¬ (data.length < 2 ∨ data.length > 8))
    (htype : Pci.type (padded data) = Pci.typeConsecutiveFrame) :
    takes link data =
      if link.receive_status = .inprogress ∧
          (isotpReceiveConsecutiveFrame link (padded data) data.length).1 = .ok then
        some (.next (Pci.low (padded data)) (data.drop 1))
      else none := by
  have hsingle : Pci.type (padded data) ≠ Pci.typeSingle := by
    rw [htype]
    decide
  have hfirst : Pci.type (padded data) ≠ Pci.typeFirstFrame := by
    rw [htype]
    decide
  rw [takes, if_neg hlen]
  exact (if_neg hsingle).trans ((if_neg hfirst).trans (if_pos htype))

/-- A frame that leaves the receive side as it is, or gives it up, is refused. -/
theorem receiveStep_of_quiet (hfull : link.receive_status ≠ .full) (htakes : takes link data = none)
    (hquiet : Quiet link (isotpOnCanMessage u link data).1) :
    ReceiveStep link data (receiveFrame u link data).1 (receiveFrame u link data).2 := by
  have hwaits : (isotpOnCanMessage u link data).1.receive_status ≠ .full := by
    rcases hquiet.status with hsame | hidle
    · rw [hsame]
      exact hfull
    · rw [hidle]
      exact fun h => IsoTpReceiveStatus.noConfusion h
  rw [receiveFrame, isotpReceive_waits hwaits]
  exact .refused htakes hquiet

theorem mid_padded {k : Nat} (hk : 1 + k ≤ data.length) :
    (padded data).mid 1 k = (data.drop 1).take k := by
  rw [padded, mid_append hk]
  rfl

/-- A message at the front of the buffer is fetched as it was written. -/
theorem fetch_written (buffer : QByteArray) {bytes : QByteArray} {k size : Nat}
    (hk : bytes.length = k) (hsize : k ≤ size) :
    (buffer.write 0 bytes).take (min k size) = bytes := by
  rw [Nat.min_eq_left hsize, ← hk, take_write_zero]

theorem receiveStep_single (hlen : ¬ (data.length < 2 ∨ data.length > 8))
    (htype : Pci.type (padded data) = Pci.typeSingle) (hfull : link.receive_status ≠ .full)
    (hbuf : 8 ≤ link.receive_buf_size) :
    ReceiveStep link data (receiveFrame u link data).1 (receiveFrame u link data).2 := by
  have hmsg := isotpOnCanMessage_eq u link hlen
  rw [htype, if_pos rfl] at hmsg
  have htakes := takes_single link hlen htype
  by_cases hbad : Pci.low (padded data) = 0 ∨ Pci.low (padded data) > data.length - 1
  · have hret : ∀ l, isotpReceiveSingleFrame l (padded data) data.length = (.length, l) :=
      fun _ => if_pos hbad
    rw [hret, if_neg IsoTpRet.noConfusion] at htakes
    refine receiveStep_of_quiet hfull htakes ?_
    rw [hmsg, onSingleFrame, hret, if_neg IsoTpRet.noConfusion]
    exact ⟨rfl, Or.inl rfl⟩
  · have hret : ∀ l, isotpReceiveSingleFrame l (padded data) data.length =
        (.ok,
          { l with
            receive_buffer := l.receive_buffer.write 0 ((padded data).mid 1 (Pci.low (padded data)))
            receive_size := Pci.low (padded data) }) := fun _ => if_neg hbad
    rw [hret, if_pos rfl] at htakes
    have hsize : ((padded data).mid 1 (Pci.low (padded data))).length = Pci.low (padded data) := by
      rw [mid_padded (by omega), List.length_take, List.length_drop]
      omega
    rw [receiveFrame, hmsg, onSingleFrame, hret]
    simp only [if_true]
    rw [isotpReceive_full rfl]
    change ReceiveStep link data (some (List.take _ _)) _
    rw [fetch_written link.receive_buffer hsize (show _ ≤ link.receive_buf_size by omega)]
    exact .single htakes (by omega) (by omega) rfl rfl

theorem receiveStep_firstFrame (hlen : ¬ (data.length < 2 ∨ data.length > 8))
    (htype : Pci.type (padded data) = Pci.typeFirstFrame) (hfull : link.receive_status ≠ .full) :
    ReceiveStep link data (receiveFrame u link data).1 (receiveFrame u link data).2 := by
  have hmsg := isotpOnCanMessage_eq u link hlen
  rw [htype, if_neg (by decide), if_pos rfl] at hmsg
  have htakes := takes_firstFrame link hlen htype
  generalize hsize : Pci.low (padded data) * 256 + ((padded data).byteAt 1).toNat = size at htakes
  by_cases hshort : data.length ≠ 8 ∨ size ≤ 7
  · -- a bad first frame leaves the message in progress alone
    have hret : ∀ l, isotpReceiveFirstFrame l (padded data) data.length = (.length, l) := by
      intro l
      rw [isotpReceiveFirstFrame, hsize]
      by_cases height : data.length ≠ 8
      · exact if_pos height
      · exact (if_neg height).trans (if_pos (hshort.resolve_left height))
    rw [hret, if_neg IsoTpRet.noConfusion] at htakes
    refine receiveStep_of_quiet hfull htakes ?_
    rw [hmsg, onFirstFrame, hret]
    exact ⟨rfl, Or.inl rfl⟩
  · rcases not_or.1 hshort with ⟨height, hlong⟩
    by_cases hover : size > link.receive_buf_size
    · -- more than the buffer holds: the message in progress is given up
      have hret : ∀ l : IsoTpLink, l.receive_buf_size = link.receive_buf_size →
          isotpReceiveFirstFrame l (padded data) data.length = (.overflow, l) := by
        intro l hl
        rw [isotpReceiveFirstFrame, hsize, if_neg height]
        exact (if_neg hlong).trans (if_pos (hl ▸ hover))
      rw [hret link rfl, if_neg IsoTpRet.noConfusion] at htakes
      refine receiveStep_of_quiet hfull htakes ?_
      rw [hmsg, onFirstFrame]
      simp only [hret, if_true]
      exact ⟨rfl, Or.inr rfl⟩
    · have hret : ∀ l : IsoTpLink, l.receive_buf_size = link.receive_buf_size →
          isotpReceiveFirstFrame l (padded data) data.length =
            (.ok,
              { l with
                receive_buffer := l.receive_buffer.write 0 ((padded data).mid 2 6)
                receive_size := size
                receive_offset := 6
                receive_sn := 1 }) := by
        intro l hl
        rw [isotpReceiveFirstFrame, hsize, if_neg height]
        exact (if_neg hlong).trans (if_neg (hl ▸ hover))
      rw [hret link rfl, if_pos rfl] at htakes
      -- the message begins with the six bytes of the frame
      have hsix : ((padded data).mid 2 6).length = 6 := by
        rw [mid, padded, List.length_take, List.length_drop, List.length_append,
          List.length_replicate]
        omega
      rw [receiveFrame, hmsg, onFirstFrame]
      simp only [hret, reduceCtorEq, if_true, if_false]
      rw [isotpReceive_waits (by exact IsoTpReceiveStatus.noConfusion)]
      exact .first htakes hsix (by omega) (by omega) rfl rfl

/-- A consecutive frame in its turn, with enough bytes, is taken and may complete the message. -/
theorem receiveStep_inTurn {k : Nat} (hlen : ¬ (data.length < 2 ∨ data.length > 8))
    (htype : Pci.type (padded data) = Pci.typeConsecutiveFrame)
    (hfull : link.receive_status ≠ .full) (hstatus : link.receive_status = .inprogress)
    (hsn : link.receive_sn = Pci.low (padded data))
    (hk : min (link.receive_size - link.receive_offset) 7 = k) (hall : k ≤ data.length - 1) :
    ReceiveStep link data (receiveFrame u link data).1 (receiveFrame u link data).2 := by
  have hmsg := isotpOnCanMessage_eq u link hlen
  rw [htype, if_neg (by decide), if_neg (by decide), if_pos rfl] at hmsg
  have htakes := takes_consecutiveFrame link hlen htype
  have hret : isotpReceiveConsecutiveFrame link (padded data) data.length =
      (.ok,
        { link with
          receive_buffer := link.receive_buffer.write link.receive_offset ((data.drop 1).take k)
          receive_offset := link.receive_offset + k
          receive_sn := if link.receive_sn + 1 > 0x0F then 0 else link.receive_sn + 1 }) := by
    rw [isotpReceiveConsecutiveFrame, if_neg (not_not.2 hsn), hk, ← mid_padded (by omega)]
    exact if_neg (Nat.not_lt.2 hall)
  rw [hret, if_pos ⟨hstatus, rfl⟩, ← hsn] at htakes
  have hle : k ≤ (data.drop 1).length := by
    rw [List.length_drop]
    exact hall
  have hseven : (data.drop 1).length ≤ 7 := by
    rw [List.length_drop]
    omega
  rw [onConsecutiveFrame, if_neg (not_not.2 hstatus), hret] at hmsg
  by_cases hend : link.receive_offset + k ≥ link.receive_size
  · simp only [reduceCtorEq, if_true, if_false, if_pos hend] at hmsg
    rw [receiveFrame, hmsg, isotpReceive_full rfl]
    exact .last htakes hstatus hk.symm hle hend rfl rfl rfl
  · have hmore := Nat.lt_of_not_le hend
    simp only [reduceCtorEq, if_true, if_false, if_neg hend] at hmsg
    -- whether the block ends here makes no difference to what was received
    by_cases hblock : (link.receive_bs_count + 255) % 256 = 0
    · rw [if_pos hblock] at hmsg
      rw [receiveFrame, hmsg, isotpReceive_waits (by exact hfull)]
      exact .next htakes hstatus hk.symm hle hseven hmore rfl hstatus
    · rw [if_neg hblock] at hmsg
      rw [receiveFrame, hmsg, isotpReceive_waits (by exact hfull)]
      exact .next htakes hstatus hk.symm hle hseven hmore rfl hstatus

theorem receiveStep_consecutiveFrame (hlen : ¬ (data.length < 2 ∨ data.length > 8))
    (htype : Pci.type (padded data) = Pci.typeConsecutiveFrame)
    (hfull : link.receive_status ≠ .full) :
    ReceiveStep link data (receiveFrame u link data).1 (receiveFrame u link data).2 := by
  have hmsg := isotpOnCanMessage_eq u link hlen
  rw [htype, if_neg (by decide), if_neg (by decide), if_pos rfl] at hmsg
  have htakes := takes_consecutiveFrame link hlen htype
  by_cases hstatus : link.receive_status = .inprogress
  · rw [onConsecutiveFrame, if_neg (not_not.2 hstatus)] at hmsg
    by_cases hsn : link.receive_sn = Pci.low (padded data)
    · generalize hk : min (link.receive_size - link.receive_offset) 7 = k
      by_cases hfew : k > data.length - 1
      · have hret : isotpReceiveConsecutiveFrame link (padded data) data.length = (.length, link) := by
          rw [isotpReceiveConsecutiveFrame, if_neg (not_not.2 hsn), hk]
          exact if_pos hfew
        rw [hret, if_neg fun h => IsoTpRet.noConfusion h.2] at htakes
        refine receiveStep_of_quiet hfull htakes ?_
        rw [hmsg, hret]
        exact ⟨rfl, Or.inl rfl⟩
      · exact receiveStep_inTurn hlen htype hfull hstatus hsn hk (Nat.le_of_not_lt hfew)
    · -- out of turn: the message is given up
      have hret : isotpReceiveConsecutiveFrame link (padded data) data.length = (.wrongSn, link) :=
        if_pos hsn
      rw [hret, if_neg fun h => IsoTpRet.noConfusion h.2] at htakes
      refine receiveStep_of_quiet hfull htakes ?_
      rw [hmsg, hret]
      exact ⟨rfl, Or.inr rfl⟩
  · rw [if_neg fun h => hstatus h.1] at htakes
    refine receiveStep_of_quiet hfull htakes ?_
    rw [hmsg, onConsecutiveFrame, if_pos hstatus]
    exact ⟨rfl, Or.inl rfl⟩

theorem quiet_onFlowControl (u : IsoTpUser) (link : IsoTpLink) (message : QByteArray) (len : Nat) :
    Quiet link (onFlowControl u link message len) := by
  simp only [onFlowControl]
  split_ifs <;> exact ⟨rfl, Or.inl rfl⟩

/-- Every frame that a link is given does one of what `ReceiveStep` lists. -/
theorem receiveFrame_step (u : IsoTpUser) (data : QByteArray) (hfull : link.receive_status ≠ .full)
    (hbuf : 8 ≤ link.receive_buf_size) :
    ReceiveStep link data (receiveFrame u link data).1 (receiveFrame u link data).2 := by
  by_cases hlen : data.length < 2 ∨ data.length > 8
  · refine receiveStep_of_quiet hfull (if_pos hlen) ?_
    rw [isotpOnCanMessage, if_pos hlen]
    exact Quiet.refl link
  · by_cases hsingle : Pci.type (padded data) = Pci.typeSingle
    · exact receiveStep_single hlen hsingle hfull hbuf
    · by_cases hfirst : Pci.type (padded data) = Pci.typeFirstFrame
      · exact receiveStep_firstFrame hlen hfirst hfull
      · by_cases hnext : Pci.type (padded data) = Pci.typeConsecutiveFrame
        · exact receiveStep_consecutiveFrame hlen hnext hfull
        · -- flow control, and types that are none of the four
          have htakes : takes link data = none := by
            rw [takes, if_neg hlen]
            exact (if_neg hsingle).trans ((if_neg hfirst).trans (if_neg hnext))
          refine receiveStep_of_quiet hfull htakes ?_
          rw [isotpOnCanMessage_eq u link hlen, if_neg hsingle, if_neg hfirst, if_neg hnext]
          split_ifs
          · exact quiet_onFlowControl _ _ _ _
          · exact Quiet.refl link

end

/-! ## Frames by their bytes

The three kinds as ISO-TP defines them, on the bytes that came and not on the padded ones.
-/

/-- A whole message of `SF_DL` bytes, all of which came. -/
structure IsSingleFrame (bytes raw : QByteArray) : Prop where
  length : 2 ≤ bytes.length ∧ bytes.length ≤ 8
  type : Pci.type bytes = Pci.typeSingle
  size : 1 ≤ Pci.low bytes ∧ Pci.low bytes ≤ bytes.length - 1
  data : raw = (bytes.drop 1).take (Pci.low bytes)

/-- The announcement of `FF_DL` bytes, more than one frame holds, with the first six of them. -/
structure IsFirstFrame (bytes : QByteArray) (size : Nat) (six : QByteArray) : Prop where
  length : bytes.length = 8
  type : Pci.type bytes = Pci.typeFirstFrame
  announced : size = Pci.low bytes * 256 + (bytes.byteAt 1).toNat
  long : 8 ≤ size
  data : six = bytes.drop 2

/-- All bytes that came behind the sequence number. -/
structure IsConsecutiveFrame (bytes : QByteArray) (sn : Nat) (more : QByteArray) : Prop where
  length : 2 ≤ bytes.length ∧ bytes.length ≤ 8
  type : Pci.type bytes = Pci.typeConsecutiveFrame
  turn : sn = Pci.low bytes
  data : more = bytes.drop 1

/-- The first frame announces at most 4095 bytes. -/
theorem IsFirstFrame.size_lt {bytes six : QByteArray} {size : Nat} (h : IsFirstFrame bytes size six) :
    size < 4096 := by
  have hlow : Pci.low bytes < 16 := Nat.mod_lt _ (by decide)
  have hbyte : (bytes.byteAt 1).toNat < 256 := UInt8.toNat_lt _
  calc
    size = Pci.low bytes * 256 + (bytes.byteAt 1).toNat := h.announced
    _ < Pci.low bytes * 256 + 256 := Nat.add_lt_add_left hbyte _
    _ = (Pci.low bytes + 1) * 256 := (Nat.succ_mul _ _).symm
    _ ≤ 4096 := Nat.mul_le_mul_right 256 hlow

/-- The type that the handler of an accepted frame is for. -/
def Taken.type : Taken → Nat
  | .single _ => Pci.typeSingle
  | .first _ _ => Pci.typeFirstFrame
  | .next _ _ => Pci.typeConsecutiveFrame

section

variable {link : IsoTpLink} {data raw six more : QByteArray} {size sn : Nat} {t : Taken}

theorem Pci.type_padded (hlen : 2 ≤ data.length) : Pci.type (padded data) = Pci.type data :=
  Pci.type_append (List.ne_nil_of_length_pos (Nat.lt_of_lt_of_le (by decide) hlen)) _

theorem Pci.low_padded (hlen : 2 ≤ data.length) : Pci.low (padded data) = Pci.low data :=
  Pci.low_append (List.ne_nil_of_length_pos (Nat.lt_of_lt_of_le (by decide) hlen)) _

/-- What is accepted has the length and the type of its kind. -/
theorem type_of_takes (h : takes link data = some t) :
    (2 ≤ data.length ∧ data.length ≤ 8) ∧ Pci.type data = t.type := by
  rw [takes] at h
  split_ifs at h with hbad
  have hlen : 2 ≤ data.length ∧ data.length ≤ 8 := by omega
  refine ⟨hlen, ?_⟩
  rw [← Pci.type_padded hlen.1]
  dsimp only at h
  split_ifs at h with htype hok htype' hok htype'' hok
  · rw [← Option.some.inj h]
    exact htype
  · rw [← Option.some.inj h]
    exact htype'
  · rw [← Option.some.inj h]
    exact htype''

/-- The handler of single frames, on the bytes that came. -/
theorem takes_singleBytes (hlen : 2 ≤ data.length ∧ data.length ≤ 8)
    (htype : Pci.type data = Pci.typeSingle) :
    takes link data =
      if Pci.low data = 0 ∨ Pci.low data > data.length - 1 then none
      else some (.single ((data.drop 1).take (Pci.low data))) := by
  rw [takes_single link (by omega) ((Pci.type_padded hlen.1).trans htype), isotpReceiveSingleFrame,
    Pci.low_padded hlen.1]
  by_cases hbad : Pci.low data = 0 ∨ Pci.low data > data.length - 1
  · rw [if_pos hbad, if_pos hbad, if_neg IsoTpRet.noConfusion]
  · rw [if_neg hbad, if_neg hbad, if_pos rfl, mid_padded (by omega)]

/-- The handler of single frames accepts the well-formed ones, whatever the link is doing. -/
theorem takes_single_iff : takes link data = some (.single raw) ↔ IsSingleFrame data raw := by
  constructor
  · intro htakes
    rcases type_of_takes htakes with ⟨hlen, htype⟩
    rw [takes_singleBytes hlen htype] at htakes
    split_ifs at htakes with hbad
    refine ⟨hlen, htype, by omega, ?_⟩
    cases htakes
    rfl
  · intro h
    have hsize := h.size
    rw [takes_singleBytes h.length h.type, if_neg (by omega), h.data]

/-- The handler of first frames, on the bytes that came. -/
theorem takes_firstBytes (hlen : 2 ≤ data.length ∧ data.length ≤ 8)
    (htype : Pci.type data = Pci.typeFirstFrame) :
    takes link data =
      if data.length ≠ 8 ∨ Pci.low data * 256 + (data.byteAt 1).toNat ≤ 7 ∨
          Pci.low data * 256 + (data.byteAt 1).toNat > link.receive_buf_size then none
      else some (.first (Pci.low data * 256 + (data.byteAt 1).toNat) (data.drop 2)) := by
  rw [takes_firstFrame link (by omega) ((Pci.type_padded hlen.1).trans htype), isotpReceiveFirstFrame]
  by_cases height : data.length = 8
  · have hdata : data.mid 2 6 = data.drop 2 := by
      apply List.take_of_length_le
      rw [List.length_drop, height]
    rw [padded_of_eight height, hdata, if_neg (not_not.2 height)]
    -- the two tests that are left are about the announced size only
    generalize Pci.low data * 256 + (data.byteAt 1).toNat = size
    by_cases hshort : size ≤ 7
    · rw [if_pos (Or.inr (Or.inl hshort))]
      simp only [if_pos hshort, reduceCtorEq, if_false]
    · by_cases hbig : size > link.receive_buf_size
      · rw [if_pos (Or.inr (Or.inr hbig))]
        simp only [if_neg hshort, if_pos hbig, reduceCtorEq, if_false]
      · rw [if_neg (not_or.2 ⟨not_not.2 height, not_or.2 ⟨hshort, hbig⟩⟩)]
        simp only [if_neg hshort, if_neg hbig, if_true]
  · rw [if_pos height, if_neg IsoTpRet.noConfusion, if_pos (Or.inl height)]

/-- The handler of first frames accepts those whose message fits into the buffer. -/
theorem takes_first_iff : takes link data = some (.first size six) ↔
    IsFirstFrame data size six ∧ size ≤ link.receive_buf_size := by
  constructor
  · intro htakes
    rcases type_of_takes htakes with ⟨hlen, htype⟩
    rw [takes_firstBytes hlen htype] at htakes
    split_ifs at htakes with hbad
    rcases not_or.1 hbad with ⟨height, hrest⟩
    rcases not_or.1 hrest with ⟨hlong, hfits⟩
    cases htakes
    exact ⟨⟨not_not.1 height, htype, rfl, Nat.lt_of_not_le hlong, rfl⟩, Nat.le_of_not_lt hfits⟩
  · rintro ⟨h, hfits⟩
    have hlen : 2 ≤ data.length ∧ data.length ≤ 8 := by
      rw [h.length]
      decide
    have hlong := h.long
    rw [h.announced] at hlong hfits
    rw [takes_firstBytes hlen h.type, if_neg, h.announced, h.data]
    rintro (hne | hshort | hbig)
    · exact hne h.length
    · omega
    · omega

theorem consecutiveFrame_of_takes (h : takes link data = some (.next sn more)) :
    IsConsecutiveFrame data sn more := by
  rcases type_of_takes h with ⟨hlen, htype⟩
  rw [takes_consecutiveFrame link (by omega) ((Pci.type_padded hlen.1).trans htype)] at h
  split_ifs at h
  cases h
  exact ⟨hlen, htype, Pci.low_padded hlen.1, rfl⟩

end

/-! ## Calls that receive nothing -/

section

variable (u : IsoTpUser) (link : IsoTpLink)

theorem Quiet.trans {link₁ link₂ link₃ : IsoTpLink} (h₁ : Quiet link₁ link₂)
    (h₂ : Quiet link₂ link₃) : Quiet link₁ link₃ := by
  refine ⟨h₂.same.trans h₁.same, ?_⟩
  rcases h₂.status with hsame | hidle
  · rw [hsame]
    exact h₁.status
  · exact Or.inr hidle

theorem quiet_isotpSend (payload : QByteArray) : Quiet link (isotpSend u link payload).link := by
  simp only [isotpSend, isotpSendWithId, isotpSendSingleFrame, isotpSendFirstFrame]
  split_ifs <;> exact ⟨rfl, Or.inl rfl⟩

theorem quiet_pollSend : Quiet link (pollSend u link).1 := by
  simp only [pollSend, isotpSendConsecutiveFrame]
  split_ifs <;> exact ⟨rfl, Or.inl rfl⟩

theorem quiet_pollTimeoutBs : Quiet link (pollTimeoutBs u link) := by
  rw [pollTimeoutBs]
  split_ifs <;> exact ⟨rfl, Or.inl rfl⟩

/-- Of all calls only the poll gives up a message without a frame: when its timer has run out. -/
theorem quiet_pollTimeoutCr : Quiet link (pollTimeoutCr u link) := by
  rw [pollTimeoutCr]
  split_ifs
  · exact ⟨rfl, Or.inr rfl⟩
  · exact Quiet.refl link

theorem quiet_isotpPoll : Quiet link (isotpPoll u link).1 := by
  rw [isotpPoll]
  split_ifs
  · exact ((quiet_pollSend u link).trans (quiet_pollTimeoutBs u _)).trans (quiet_pollTimeoutCr u _)
  · exact quiet_pollTimeoutCr u link

end

/-! ## The receive buffer -/

/-- What holds of the receive side between two calls: the buffer has its size, no complete message
waits in it, and a message in progress is inside it. -/
structure ReceiverInv (link : IsoTpLink) : Prop where
  length : link.receive_buffer.length = link.receive_buf_size
  notFull : link.receive_status ≠ .full
  offset_le : link.receive_status = .inprogress → link.receive_offset ≤ link.receive_size
  size_le : link.receive_status = .inprogress → link.receive_size ≤ link.receive_buf_size

theorem config_receiveFrame (u : IsoTpUser) (link : IsoTpLink) (data : QByteArray) :
    config (receiveFrame u link data).2 = config link := by
  rw [receiveFrame, config_isotpReceive, config_isotpOnCanMessage]

theorem receive_buf_size_of_config {link link' : IsoTpLink} (h : config link' = config link) :
    link'.receive_buf_size = link.receive_buf_size :=
  congrArg (fun c => c.2.2.2) h

section

variable {link link' : IsoTpLink} {data : QByteArray} {out : Option QByteArray}

theorem Quiet.reception_eq (h : Quiet link link') :
    link'.receive_buffer = link.receive_buffer ∧ link'.receive_size = link.receive_size ∧
      link'.receive_offset = link.receive_offset ∧ link'.receive_sn = link.receive_sn := by
  have hsame := h.same
  simp only [reception, Prod.mk.injEq] at hsame
  exact hsame

theorem Quiet.inprogress (h : Quiet link link') (hstatus : link'.receive_status = .inprogress) :
    link.receive_status = .inprogress := by
  rcases h.status with hsame | hidle
  · rw [← hsame]
    exact hstatus
  · rw [hidle] at hstatus
    cases hstatus

theorem ReceiverInv.quiet (h : ReceiverInv link) (hconfig : config link' = config link)
    (hquiet : Quiet link link') : ReceiverInv link' := by
  rcases hquiet.reception_eq with ⟨hbuffer, hsize, hoffset, -⟩
  have hbuf := receive_buf_size_of_config hconfig
  refine ⟨?_, ?_, ?_, ?_⟩
  · rw [hbuffer, hbuf]
    exact h.length
  · rcases hquiet.status with hsame | hidle
    · rw [hsame]
      exact h.notFull
    · rw [hidle]
      exact fun heq => IsoTpReceiveStatus.noConfusion heq
  · intro hstatus
    rw [hoffset, hsize]
    exact h.offset_le (hquiet.inprogress hstatus)
  · intro hstatus
    rw [hsize, hbuf]
    exact h.size_le (hquiet.inprogress hstatus)

/-- The `memcpy` of a frame stays inside the receive buffer. -/
theorem ReceiverInv.write_le (h : ReceiverInv link) (hbuf : 8 ≤ link.receive_buf_size)
    (hstep : ReceiveStep link data out link') {pos : Nat} {bytes : QByteArray}
    (hwrite : receiveWrite link data = some (pos, bytes)) :
    pos + bytes.length ≤ link.receive_buf_size := by
  rw [receiveWrite] at hwrite
  cases hstep with
  | refused htakes =>
      rw [htakes] at hwrite
      cases hwrite
  | single htakes hpos hshort =>
      rw [htakes] at hwrite
      cases hwrite
      omega
  | first htakes hsix =>
      rw [htakes] at hwrite
      cases hwrite
      omega
  | next htakes hstatus hk | last htakes hstatus hk =>
      rw [htakes] at hwrite
      cases hwrite
      have hoffset := h.offset_le hstatus
      have hsize := h.size_le hstatus
      rw [List.length_take]
      omega

/-- It is all that a frame changes in the receive buffer. -/
theorem ReceiveStep.buffer_eq (hstep : ReceiveStep link data out link') :
    link'.receive_buffer = bufferAfter link (receiveWrite link data) := by
  rw [receiveWrite]
  cases hstep with
  | refused htakes hquiet =>
      rw [htakes]
      exact hquiet.reception_eq.1
  | single htakes _ _ hbuffer =>
      rw [htakes]
      exact hbuffer
  | first htakes _ _ _ hafter =>
      rw [htakes]
      exact congrArg Prod.fst hafter
  | next htakes _ hk _ _ _ hafter =>
      rw [htakes, ← hk]
      exact congrArg Prod.fst hafter
  | last htakes _ hk _ _ hbuffer =>
      rw [htakes, ← hk]
      exact hbuffer

/-- `isotp_receive` copies a message onto the front of the buffer it is in, which changes nothing. -/
theorem ReceiveStep.fetched {raw : QByteArray} (hbuf : 8 ≤ link.receive_buf_size)
    (hstep : ReceiveStep link data (some raw) link') :
    raw.length ≤ link.receive_buf_size ∧ link'.receive_buffer.write 0 raw = link'.receive_buffer := by
  have hself : ∀ buffer : QByteArray, ∀ k, buffer.take k = raw → buffer.write 0 raw = buffer := by
    intro buffer k hraw
    have hlen : raw = buffer.take raw.length := by
      rw [← hraw, List.length_take, List.take_eq_take_min]
    calc
      buffer.write 0 raw = raw ++ buffer.drop raw.length := by
        rw [write, List.take_zero, List.nil_append, Nat.zero_add]
      _ = buffer.take raw.length ++ buffer.drop raw.length := by rw [← hlen]
      _ = buffer := List.take_append_drop _ _
  cases hstep with
  | single _ hpos hshort hbuffer =>
      refine ⟨by omega, hself _ raw.length ?_⟩
      rw [hbuffer, take_write_zero]
  | last _ _ _ _ _ _ hraw =>
      refine ⟨?_, hself _ _ hraw.symm⟩
      rw [hraw, List.length_take]
      omega

theorem ReceiverInv.step (h : ReceiverInv link) (hbuf : 8 ≤ link.receive_buf_size)
    (hconfig : config link' = config link) (hstep : ReceiveStep link data out link') :
    ReceiverInv link' := by
  have hsame := receive_buf_size_of_config hconfig
  have hlength : link'.receive_buffer.length = link'.receive_buf_size := by
    rw [hstep.buffer_eq, hsame, ← h.length]
    cases hwrite : receiveWrite link data with
    | none => rfl
    | some w =>
        refine length_write ?_
        rw [h.length]
        exact h.write_le hbuf hstep hwrite
  -- whole messages have been fetched behind the call, so none is in progress then
  cases hstep with
  | refused htakes hquiet => exact h.quiet hconfig hquiet
  | single _ _ _ _ hstatus | last _ _ _ _ _ _ _ hstatus =>
      have hno : link'.receive_status ≠ .inprogress := by
        rw [hstatus]
        exact fun heq => IsoTpReceiveStatus.noConfusion heq
      refine ⟨hlength, ?_, fun heq => absurd heq hno, fun heq => absurd heq hno⟩
      rw [hstatus]
      exact fun heq => IsoTpReceiveStatus.noConfusion heq
  | first _ _ hlong hfits hafter hstatus =>
      simp only [reception, Prod.mk.injEq] at hafter
      refine ⟨hlength, ?_, fun _ => ?_, fun _ => ?_⟩
      · rw [hstatus]
        exact fun heq => IsoTpReceiveStatus.noConfusion heq
      · omega
      · omega
  | next _ hstatus _ _ _ hmore hafter hstatus' =>
      simp only [reception, Prod.mk.injEq] at hafter
      have hsize := h.size_le hstatus
      refine ⟨hlength, ?_, fun _ => ?_, fun _ => ?_⟩
      · rw [hstatus']
        exact fun heq => IsoTpReceiveStatus.noConfusion heq
      · omega
      · omega

end

/-! ## A message in progress -/

/-- The link is in a message of `total` bytes: it holds the bytes `bytes`, from the first frame and `n`
consecutive ones. -/
structure Collects (total : Nat) (bytes : QByteArray) (n : Nat) (link : IsoTpLink) : Prop where
  size : link.receive_size = total
  offset : link.receive_offset = bytes.length
  sn : link.receive_sn = (n + 1) % 16
  buffer : link.receive_buffer.take bytes.length = bytes
  more : bytes.length < total

section

variable {link link' : IsoTpLink} {data bytes more : QByteArray} {total n sn : Nat}
  {out : Option QByteArray}

theorem Collects.quiet (h : Collects total bytes n link) (hquiet : Quiet link link') :
    Collects total bytes n link' := by
  rcases hquiet.reception_eq with ⟨hbuffer, hsize, hoffset, hsn⟩
  exact ⟨hsize.trans h.size, hoffset.trans h.offset, hsn.trans h.sn, hbuffer ▸ h.buffer, h.more⟩

theorem ReceiveStep.of_none (hstep : ReceiveStep link data out link')
    (htakes : takes link data = none) : out = none ∧ Quiet link link' := by
  cases hstep with
  | refused h hquiet => exact ⟨rfl, hquiet⟩
  | single h | first h | next h | last h =>
      rw [htakes] at h
      cases h

/-- An accepted single frame is a message, and ends what was in progress. -/
theorem ReceiveStep.of_single (hstep : ReceiveStep link data out link')
    (htakes : takes link data = some (.single bytes)) :
    out = some bytes ∧ 1 ≤ bytes.length ∧ link'.receive_status = .idle := by
  cases hstep with
  | refused h | first h | next h | last h =>
      rw [htakes] at h
      cases h
  | single h hpos _ _ hstatus =>
      rw [htakes] at h
      cases h
      exact ⟨rfl, hpos, hstatus⟩

theorem ReceiveStep.inprogress_of_next (hstep : ReceiveStep link data out link')
    (htakes : takes link data = some (.next sn more)) : link.receive_status = .inprogress := by
  cases hstep with
  | refused h | single h | first h =>
      rw [htakes] at h
      cases h
  | next _ hstatus | last _ hstatus => exact hstatus

/-- An accepted first frame begins a message, whatever was in progress. -/
theorem ReceiveStep.collects_first (hstep : ReceiveStep link data out link')
    (htakes : takes link data = some (.first total bytes)) :
    out = none ∧ link'.receive_status = .inprogress ∧ bytes.length = 6 ∧
      Collects total bytes 0 link' := by
  cases hstep with
  | refused h | single h | next h | last h =>
      rw [htakes] at h
      cases h
  | first h hsix hlong hfits hafter hstatus =>
      rw [htakes] at h
      cases h
      simp only [reception, Prod.mk.injEq] at hafter
      rcases hafter with ⟨hbuffer, hsize, hoffset, hsn⟩
      refine ⟨rfl, hstatus, hsix, hsize, by rw [hoffset, hsix], hsn, ?_, by omega⟩
      rw [hbuffer]
      exact take_write_zero _ _

/-- An accepted consecutive frame brings the bytes that are missing, or seven of them. -/
theorem Collects.next (h : Collects total bytes n link) (hI : ReceiverInv link)
    (hstep : ReceiveStep link data out link') (htakes : takes link data = some (.next sn more)) :
    sn = (n + 1) % 16 ∧
      ((bytes ++ more).length < total ∧ out = none ∧ Collects total (bytes ++ more) (n + 1) link' ∨
        total ≤ (bytes ++ more).length ∧ out = some ((bytes ++ more).take total) ∧
          link'.receive_status = .idle) := by
  have hsize := h.size
  have hoffset := h.offset
  have hmore := h.more
  cases hstep with
  | refused hother | single hother | first hother =>
      rw [htakes] at hother
      cases hother
  | @next _ _ k hother hstatus hk hle hseven hopen hafter hstatus' =>
      rw [htakes] at hother
      cases hother
      simp only [reception, Prod.mk.injEq] at hafter
      rcases hafter with ⟨hbuffer, hsize', hoffset', hsn'⟩
      -- more than seven bytes were missing, so the frame is full and all of it is taken
      have hall : more.take k = more := List.take_of_length_le (by omega)
      have hroom := hI.length
      have hfit := hI.size_le hstatus
      have hlen : more.length = k := by omega
      rw [hall] at hbuffer
      refine ⟨h.sn, Or.inl ⟨?_, rfl, hsize'.trans hsize, ?_, ?_, ?_, ?_⟩⟩
      · rw [List.length_append]
        omega
      · rw [hoffset', List.length_append]
        omega
      · rw [hsn', h.sn]
        split_ifs <;> omega
      · rw [hbuffer, List.length_append, ← hoffset, take_write (by omega), hoffset, h.buffer]
      · rw [List.length_append]
        omega
  | @last _ _ _ k hother hstatus hk hle hend hbuffer hraw hstatus' =>
      rw [htakes] at hother
      cases hother
      have hroom := hI.length
      have hfit := hI.size_le hstatus
      have hlen : (more.take k).length = k := List.length_take_of_le hle
      have hwhole : total = bytes.length + k := by omega
      refine ⟨h.sn, Or.inr ⟨?_, ?_, hstatus'⟩⟩
      · rw [List.length_append]
        omega
      · rw [hraw, hbuffer, Nat.min_eq_left (by omega), hsize]
        congr 1
        calc
          (link.receive_buffer.write link.receive_offset (more.take k)).take total =
              (link.receive_buffer.write link.receive_offset (more.take k)).take
                (link.receive_offset + (more.take k).length) := by
            rw [hlen, hoffset, hwhole]
          _ = bytes ++ more.take k := by
            rw [take_write (by omega), hoffset, h.buffer]
          _ = (bytes ++ more).take total := by
            rw [hwhole, List.take_length_add_append]

end

end IsoTp
end TcpCanUds
