import TcpCanUds.Client.TcpConnection
import TcpCanUds.System.Transport
import Mathlib.Data.Nat.Find

/-!
# Reconnect — the client's next connection after a broken one

A connection that breaks in the middle of a packet leaves its bytes in the client's parser, and the
next connection is read behind them.  Left-over bytes without a magic number are skipped; with one,
some response of the next connection is lost.
-/

namespace TcpCanUds
namespace System

open Lib Scanner QByteArray Client Client.TcpConnection Client.ProtocolParser

/-- Some position of the bytes holds the magic number. -/
def HoldsMagic (b : QByteArray) : Prop :=
  ∃ i < b.length, HasMagic (b.drop i)

instance : DecidablePred HoldsMagic :=
  fun b => inferInstanceAs (Decidable (∃ i < b.length, HasMagic (b.drop i)))

/-- The bytes a server writes for its responses. -/
def responseBytes (responses : List (FittingMessage 65535)) : QByteArray :=
  responses.flatMap fun m => Server.constructUdsPacket m.msg

/-- Whatever responses come over the next connection, the client emits their messages. -/
def StartsClean (mem : UDSMessage.Memory) (s : TcpWorkerState) : Prop :=
  ∀ (quiet : List TcpEvent) (responses : List (FittingMessage 65535)) (chunks : List QByteArray),
    Quiet quiet → chunks.flatten = responseBytes responses →
      emitted mem s (quiet ++ chunks.map .readyRead) =
        responses.map fun m => deserializeUDSMessage mem m.raw

/-! ## The parser on bytes with and without a magic number -/

theorem hasMagic_drop_append {r : QByteArray} {j : Nat} (h : j + 1 < r.length) (x : QByteArray) :
    HasMagic ((r ++ x).drop j) ↔ HasMagic (r.drop j) := by
  rw [List.drop_append_of_le_length (by omega), HasMagic, HasMagic,
    byteAt_append (by rw [List.length_drop]; omega), byteAt_append (by rw [List.length_drop]; omega)]

theorem not_hasMagic_of_length_le_one {b : QByteArray} (h : b.length ≤ 1) : ¬ HasMagic b := by
  rintro ⟨-, hsecond⟩
  rw [byteAt, List.getD_eq_default _ _ h] at hsecond
  exact absurd hsecond (by decide)

theorem holdsMagic_of_drop {b : QByteArray} {i : Nat} (h : HasMagic (b.drop i)) : HoldsMagic b := by
  refine ⟨i, ?_, h⟩
  by_contra hge
  refine not_hasMagic_of_length_le_one ?_ h
  rw [List.length_drop]
  omega

/-- Up to position `n` no magic number begins, and seven bytes are left: the bytes are skipped. -/
theorem reads_skip {w : QByteArray} {n : Nat} (h : ∀ j < n, ¬ HasMagic (w.drop j))
    (hlen : n + 7 ≤ w.length) : Reads parser w [] (w.drop n) := by
  refine Reads.skip ?_
  intro j hj
  exact (Looks.badMagic (by rw [List.length_drop]; omega) (h j hj)).look_eq

/-- Without a magic number nothing is emitted. -/
theorem out_nil_of_reads {w rest : QByteArray} {os : List Outcome} (h : Reads parser w os rest)
    (hno : ¬ HoldsMagic w) : os = [] := by
  induction h with
  | refl w => rfl
  | @advance w n o os rest hv _ ih =>
      have hl := looks_look w
      rw [show look w = .advance n o from hv] at hl
      cases hl with
      | badMagic hlen hmagic =>
          refine ih ?_
          rintro ⟨i, -, hi⟩
          rw [List.drop_drop] at hi
          exact hno (holdsMagic_of_drop hi)
      | badCrc hmagic | packet hmagic =>
          exact absurd (holdsMagic_of_drop (i := 0) hmagic) hno

theorem drain_out_nil {w : QByteArray} (h : ¬ HoldsMagic w) : (parser.drain w).out = [] :=
  out_nil_of_reads (parser.reads_of_not_flushed (drain_not_flushed w)) h

/-- What a new connection emits is what the parser makes of the old bytes and the new. -/
theorem emitted_eq_drain (mem : UDSMessage.Memory) {s : TcpWorkerState}
    (hwait : look s.m_buffer = .wait) {quiet : List TcpEvent} (hquiet : Quiet quiet)
    (chunks : List QByteArray) :
    emitted mem s (quiet ++ chunks.map .readyRead) =
      udsMessages mem (parser.drain (s.m_buffer ++ chunks.flatten)).out := by
  rcases quiet_run mem s hquiet with ⟨hbuf, hout⟩
  rw [emitted_append, hout, List.nil_append, emitted_reads, hbuf]
  rw [parser.feedAll_eq_drain hwait fun w x _ _ => drain_not_flushed (s.m_buffer ++ w)]

/-! ## Left-over bytes without a magic number -/

theorem udsMessages_dispatch (mem : UDSMessage.Memory) (responses : List (FittingMessage 65535)) :
    udsMessages mem (responses.map fun m => .dispatch 3 m.raw) =
      responses.map fun m => deserializeUDSMessage mem m.raw := by
  rw [udsMessages, List.flatMap_map, List.map_eq_flatMap]
  rfl

theorem drain_responseBytes (responses : List (FittingMessage 65535)) :
    (parser.drain (responseBytes responses)).out = responses.map fun m => .dispatch 3 m.raw := by
  have hall := @responses_arrive responses [responseBytes responses] (List.append_nil _)
  simpa [pushAll, feedAll, feed] using hall

theorem seven_le_responseBytes (m : FittingMessage 65535) (rest : List (FittingMessage 65535)) :
    7 ≤ (responseBytes (m :: rest)).length ∧ (responseBytes (m :: rest)).byteAt 0 = 0xCD := by
  rw [responseBytes, List.flatMap_cons, Server.constructUdsPacket_eq_frame m.msg m.fits]
  refine ⟨?_, Frame.byteAt_zero _ _⟩
  rw [List.length_append, Frame.length_bytes]
  omega

theorem startsClean_of_no_magic (mem : UDSMessage.Memory) {s : TcpWorkerState}
    (hwait : look s.m_buffer = .wait) (hno : ¬ HoldsMagic s.m_buffer) : StartsClean mem s := by
  intro quiet responses chunks hquiet hchunks
  rw [emitted_eq_drain mem hwait hquiet, hchunks]
  cases responses with
  | nil =>
      rw [responseBytes, List.flatMap_nil, List.append_nil, parser.drain_wait hwait]
      rfl
  | cons m rest =>
      rcases seven_le_responseBytes m rest with ⟨hlen, hhead⟩
      have hreads : Reads parser (s.m_buffer ++ responseBytes (m :: rest)) []
          ((s.m_buffer ++ responseBytes (m :: rest)).drop s.m_buffer.length) := by
        refine reads_skip ?_ (by rw [List.length_append]; omega)
        intro j hj hmagic
        by_cases hin : j + 1 < s.m_buffer.length
        · exact hno (holdsMagic_of_drop ((hasMagic_drop_append hin _).1 hmagic))
        · -- the last left-over byte and the first of the new packet are no magic number
          have hlast : (s.m_buffer ++ responseBytes (m :: rest)).drop j =
              s.m_buffer.drop j ++ responseBytes (m :: rest) :=
            List.drop_append_of_le_length (by omega)
          have hone : (s.m_buffer.drop j).length = 1 := by
            rw [List.length_drop]
            omega
          rcases List.length_eq_one_iff.1 hone with ⟨a, ha⟩
          rw [hlast, ha] at hmagic
          have hsecond : (responseBytes (m :: rest)).byteAt 0 = 0xAB := hmagic.2
          rw [hhead] at hsecond
          exact absurd hsecond (by decide)
      rw [List.drop_left] at hreads
      rw [hreads.drain_eq, drain_responseBytes]
      exact udsMessages_dispatch mem (m :: rest)

/-! ## Left-over bytes with a magic number -/

/-- The response to `10 01`, three bytes long. -/
def sessionResponse : FittingMessage 65535 where
  msg := { UDSMessage.declare {} with serviceId := 0x50, subFunction := 0x01, payload := [0x00] }
  fits := by decide

/-- A response to `27 01`, six bytes long. -/
def seedResponse : FittingMessage 65535 where
  msg :=
    { UDSMessage.declare {} with
      serviceId := 0x67
      subFunction := 0x01
      payload := [0x01, 0x00, 0x00, 0x00] }
  fits := by decide

/-- A response that is not `n` bytes long. -/
def probe (n : Nat) : FittingMessage 65535 :=
  if n = 3 then seedResponse else sessionResponse

/-- What makes a probe a probe: it differs in length, and behind its first byte its packet holds no
magic number. -/
structure IsProbe (n : Nat) (m : FittingMessage 65535) (x : QByteArray) : Prop where
  length_ne : m.raw.length ≠ n
  three_le : 3 ≤ m.raw.length
  positive : m.raw.byteAt 0 ≠ UdsSid.negativeResponse
  head : x.byteAt 0 = 0xCD ∧ x.byteAt 1 = 0xAB ∧ x.byteAt 2 = 3
  short : 7 ≤ x.length ∧ x.length ≤ 13
  tail : ¬ HoldsMagic (x.drop 1)

theorem isProbe_probe (n : Nat) : IsProbe n (probe n) (responseBytes [probe n]) := by
  by_cases h : n = 3
  · rw [probe, if_pos h]
    exact ⟨by rw [h]; decide, by decide, by decide, by decide +kernel, by decide +kernel,
      by decide +kernel⟩
  · rw [probe, if_neg h]
    exact ⟨fun heq => h heq.symm, by decide, by decide, by decide +kernel, by decide +kernel,
      by decide +kernel⟩

/-- The client decodes payloads of different lengths to different messages. -/
theorem deserialize_ne (mem : UDSMessage.Memory) {raw raw' : QByteArray} (hlong : 3 ≤ raw.length)
    (hpos : raw.byteAt 0 ≠ UdsSid.negativeResponse) (hne : raw.length ≠ raw'.length) :
    deserializeUDSMessage mem raw' ≠ deserializeUDSMessage mem raw := by
  intro heq
  rcases Client.deserialize_fields mem (by omega) hpos with ⟨-, -, hpay, hneg⟩
  rw [← heq] at hpay hneg
  by_cases hshort : raw'.length < 2
  · have hnil : (deserializeUDSMessage mem raw').payload = [] := by
      simp only [deserializeUDSMessage, apply_ite UDSMessage.payload, UDSMessage.declare]
      split_ifs <;> first | rfl | omega
    rw [hnil] at hpay
    have hlen := congrArg List.length hpay
    simp only [midFrom, List.length_drop, List.length_nil] at hlen
    omega
  · by_cases hneg' : raw'.byteAt 0 = UdsSid.negativeResponse
    · have htrue := (Client.deserialize_negative mem (Nat.le_of_not_lt hshort) hneg').1
      rw [htrue] at hneg
      cases hneg
    · have hpay' := (Client.deserialize_fields mem (Nat.le_of_not_lt hshort) hneg').2.2.1
      rw [hpay'] at hpay
      have hlen := congrArg List.length hpay
      simp only [midFrom, List.length_drop] at hlen
      omega

/-- The first magic number among unread bytes begins a frame that is not complete. -/
theorem first_magic {r : QByteArray} (hwait : look r = .wait) (hmagic : HoldsMagic r) :
    ∃ i, (∀ j < i, ¬ HasMagic (r.drop j)) ∧ HasMagic (r.drop i) ∧
      (r.drop i).length < totalLen (r.drop i) := by
  have hl := looks_look r
  rw [hwait] at hl
  cases hl with
  | incomplete hlen hm hpart => exact ⟨0, by simp, hm, hpart⟩
  | short hlen =>
      have hex : ∃ i, HasMagic (r.drop i) := hmagic.imp fun i hi => hi.2
      refine ⟨Nat.find hex, fun j hj => Nat.find_min hex hj, Nat.find_spec hex, ?_⟩
      have htotal := le_totalLen (r.drop (Nat.find hex))
      rw [List.length_drop]
      omega

/-- Fewer than five left-over bytes from a magic number on take their length from the bytes of the
new packet, and announce more than it has. -/
theorem announced_of_short {r x : QByteArray} (hr : HasMagic r) (hlen : r.length < 5)
    (hx : x.byteAt 0 = 0xCD ∧ x.byteAt 1 = 0xAB ∧ x.byteAt 2 = 3) : 939 ≤ announced (r ++ x) := by
  have htwo : 2 ≤ r.length := by
    by_contra hlt
    exact not_hasMagic_of_length_le_one (by omega) hr
  have hright : ∀ i, r.length ≤ i → (r ++ x).byteAt i = x.byteAt (i - r.length) := by
    intro i hi
    rw [byteAt, byteAt, List.getD_append_right _ _ _ _ hi]
  rw [announced, word16At, toNat_word16]
  have hcases : r.length = 2 ∨ r.length = 3 ∨ r.length = 4 := by omega
  rcases hcases with h | h | h
  · rw [hright 3 (by omega), hright 4 (by omega), h, hx.2.1, hx.2.2]
    decide
  · rw [hright 3 (by omega), hright 4 (by omega), h, hx.1, hx.2.1]
    decide
  · rw [hright 4 (by omega), h, hx.1]
    have hbyte : (205 : UInt8).toNat = 205 := rfl
    omega

theorem udsMessages_of_type_ne (mem : UDSMessage.Memory) {type : UInt8} {payload : QByteArray}
    (h : type ≠ 3) : udsMessages mem [.dispatch type payload] = [] := by
  simp only [udsMessages, Outcome.signals, List.flatMap_cons, List.flatMap_nil, if_neg h]
  split_ifs <;> rfl

/-- A frame that starts in the left-over bytes takes at least one byte of the new packet. -/
theorem length_lt_totalLen {r x : QByteArray} (hr : HasMagic r) (hpart : r.length < totalLen r)
    (hx : x.byteAt 0 = 0xCD ∧ x.byteAt 1 = 0xAB ∧ x.byteAt 2 = 3) :
    r.length < totalLen (r ++ x) := by
  by_cases hlen : r.length < 5
  · have hannounced := announced_of_short hr hlen hx
    rw [totalLen]
    omega
  · rwa [totalLen_append x (Nat.le_of_not_lt hlen)]

/-- Behind left-over bytes that begin a frame, the probe's packet does not give the probe. -/
theorem udsMessages_ne_probe (mem : UDSMessage.Memory) {r x : QByteArray}
    {m : FittingMessage 65535} (hr : HasMagic r) (hpart : r.length < totalLen r)
    (hx : IsProbe (announced r) m x) :
    udsMessages mem (parser.drain (r ++ x)).out ≠ [deserializeUDSMessage mem m.raw] := by
  have htwo : 2 ≤ r.length := by
    by_contra hlt
    exact not_hasMagic_of_length_le_one (by omega) hr
  have hmagic : HasMagic (r ++ x) := by
    rw [HasMagic, byteAt_append (by omega), byteAt_append (by omega)]
    exact hr
  by_cases hwhole : totalLen (r ++ x) ≤ (r ++ x).length
  · -- the frame is complete, so its length comes from the left-over bytes alone
    have hfive : 5 ≤ r.length := by
      by_contra hlt
      have hannounced := announced_of_short hr (Nat.lt_of_not_le hlt) hx.head
      have hshort := hx.short.2
      rw [totalLen, List.length_append] at hwhole
      omega
    have hannounced : announced (r ++ x) = announced r := announced_append x hfive
    have hpay : ((r ++ x).mid 5 (announced (r ++ x))).length = announced r := by
      rw [totalLen] at hwhole
      rw [mid, List.length_take, List.length_drop, hannounced]
      omega
    -- what follows the frame is a part of the probe's packet without its first byte
    have hrest : (parser.drain ((r ++ x).drop (totalLen (r ++ x)))).out = [] := by
      refine drain_out_nil ?_
      have hcut := length_lt_totalLen hr hpart hx.head
      rintro ⟨k, -, hk⟩
      rw [List.drop_append, List.drop_eq_nil_of_le (Nat.le_of_lt hcut), List.nil_append] at hk
      have hdrop : x.drop (totalLen (r ++ x) - r.length) =
          (x.drop 1).drop (totalLen (r ++ x) - r.length - 1) := by
        rw [List.drop_drop]
        congr 1
        omega
      rw [hdrop, List.drop_drop] at hk
      exact hx.tail (holdsMagic_of_drop hk)
    have hlook : ∃ o, look (r ++ x) = .advance (totalLen (r ++ x)) [o] ∧
        udsMessages mem [o] ≠ [deserializeUDSMessage mem m.raw] := by
      by_cases hcrc : CrcMatches (r ++ x)
      · refine ⟨_, (Looks.packet hmagic hwhole hcrc).look_eq, ?_⟩
        by_cases htype : (r ++ x).byteAt 2 = 3
        · rw [htype]
          intro heq
          refine deserialize_ne mem hx.three_le hx.positive ?_ (List.singleton_inj.1 heq)
          rw [hpay]
          exact hx.length_ne
        · rw [udsMessages_of_type_ne mem htype]
          exact List.cons_ne_nil _ _ ∘ Eq.symm
      · exact ⟨_, (Looks.badCrc hmagic hwhole hcrc).look_eq, fun heq => by cases heq⟩
    rcases hlook with ⟨o, hlook, hne⟩
    rw [parser.drain_advance hlook, hrest]
    exact hne
  · have hv : look (r ++ x) = .wait := by
      have hshort := hx.short.1
      refine (Looks.incomplete ?_ hmagic (Nat.lt_of_not_le hwhole)).look_eq
      rw [List.length_append]
      omega
    rw [parser.drain_wait hv]
    exact List.cons_ne_nil _ _ ∘ Eq.symm

theorem magic_of_startsClean (mem : UDSMessage.Memory) {s : TcpWorkerState}
    (hwait : look s.m_buffer = .wait) (hmagic : HoldsMagic s.m_buffer) : ¬ StartsClean mem s := by
  intro hclean
  rcases first_magic hwait hmagic with ⟨i, hmin, hi, hpart⟩
  have hprobe := isProbe_probe (announced (s.m_buffer.drop i))
  have hout := hclean [] [probe (announced (s.m_buffer.drop i))]
    [responseBytes [probe (announced (s.m_buffer.drop i))]] (by simp [Quiet]) (List.append_nil _)
  rw [emitted_eq_drain mem hwait (by simp [Quiet])] at hout
  generalize probe (announced (s.m_buffer.drop i)) = m at hprobe hout
  rw [List.flatten_singleton] at hout
  have hlt : i + 1 < s.m_buffer.length := by
    by_contra hge
    refine not_hasMagic_of_length_le_one ?_ hi
    rw [List.length_drop]
    omega
  have hskip : Reads parser (s.m_buffer ++ responseBytes [m]) []
      (s.m_buffer.drop i ++ responseBytes [m]) := by
    have hshort := hprobe.short.1
    rw [← List.drop_append_of_le_length (by omega)]
    refine reads_skip ?_ (by rw [List.length_append]; omega)
    intro j hj
    rw [hasMagic_drop_append (by omega)]
    exact hmin j hj
  rw [hskip.drain_eq] at hout
  exact udsMessages_ne_probe mem hi hpart hprobe hout

/-- After a broken connection the next one starts clean exactly when no magic number was left in
the parser. -/
theorem startsClean_iff (mem : UDSMessage.Memory) (history : List TcpEvent) :
    StartsClean mem ((tcpWorker mem).after (history ++ [.disconnected])) ↔
      ¬ HoldsMagic ((tcpWorker mem).after history).m_buffer := by
  have hwait := look_after mem (history ++ [.disconnected])
  have hbuf : ((tcpWorker mem).after (history ++ [.disconnected])).m_buffer =
      ((tcpWorker mem).after history).m_buffer := by
    rw [Machine.after_snoc]
    rfl
  rw [← hbuf]
  exact ⟨fun hclean hmagic => magic_of_startsClean mem hwait hmagic hclean,
    startsClean_of_no_magic mem hwait⟩

/-- The connection breaks behind the first five bytes of a response. -/
def brokenConnection : List TcpEvent :=
  [.connectToServer, .connected, .readyRead [0xCD, 0xAB, 0x03, 0x03, 0x00]]

theorem broken_packet_joined :
    ¬ ∀ (mem : UDSMessage.Memory) (history : List TcpEvent),
      StartsClean mem ((tcpWorker mem).after (history ++ [.disconnected])) := by
  intro h
  have hout := h {} brokenConnection [.reconnectTimeout, .connected] [seedResponse]
    [responseBytes [seedResponse]] (by simp [Quiet, IsRead]) (List.append_nil _)
  exact absurd hout (by decide +kernel)

end System
end TcpCanUds
