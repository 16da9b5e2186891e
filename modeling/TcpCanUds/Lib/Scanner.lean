import Mathlib.Data.List.Basic

/-!
# Scanner — incremental scanners over a growing buffer

An incremental scanner keeps the unread part of a stream in a buffer.  Whenever a chunk arrives it
is appended, and a loop looks at the front of the buffer until it has to wait for more input.  One
look gives a `Verdict`: wait, drop a positive number of elements and emit something, or throw the
whole buffer away.  A `Scanner` is such a look whose decisions are *stable*: once made, they do not
change when more input arrives behind.

The module defines the loop (`drain`), the runs over chunks (`feedAll`), the judgement `Reads` of
what lies between two positions of a stream, and relates them.  The main result says exactly when
the cut into chunks does not matter (`feedAll_eq_iff`).
-/

namespace TcpCanUds
namespace Lib

universe u v

/-- What one look at the front of the buffer decides. -/
inductive Verdict (ε : Type v)
  | wait
  | advance (n : Nat) (out : List ε)
  | flush
  deriving DecidableEq, Repr

/-- A look at the buffer whose decisions are stable and always consume something. -/
structure Scanner (α : Type u) (ε : Type v) where
  verdict : List α → Verdict ε
  wait_nil : verdict [] = .wait
  advance_bounds : ∀ {b n out}, verdict b = .advance n out → 0 < n ∧ n ≤ b.length
  stable : ∀ b x, verdict b ≠ .wait → verdict (b ++ x) = verdict b

structure Drained (α : Type u) (ε : Type v) where
  out : List ε
  rest : List α
  flushed : Bool
  deriving DecidableEq, Repr

namespace Scanner

variable {α : Type u} {ε : Type v} (S : Scanner α ε)

/-! ## The loop -/

/-- The loop on a buffer, cut off after `fuel` rounds. -/
def drainFuel : Nat → List α → Drained α ε
  | 0, b => { out := [], rest := b, flushed := false }
  | fuel + 1, b =>
      match S.verdict b with
      | .wait => { out := [], rest := b, flushed := false }
      | .flush => { out := [], rest := [], flushed := true }
      | .advance n out =>
          let d := drainFuel fuel (b.drop n)
          { d with out := out ++ d.out }

/-- The loop on a buffer.  Every round consumes an element, so `b.length` rounds are enough. -/
def drain (b : List α) : Drained α ε :=
  S.drainFuel b.length b

/-- More fuel than the buffer is long changes nothing: the loop has stopped by itself. -/
theorem drainFuel_eq_drain {fuel : Nat} {b : List α} (h : b.length ≤ fuel) :
    S.drainFuel fuel b = S.drain b := by
  -- two amounts of fuel that both cover the buffer run in step
  have key : ∀ k m (b : List α), b.length ≤ k → b.length ≤ m →
      S.drainFuel k b = S.drainFuel m b := by
    intro k
    induction k with
    | zero =>
        intro m b hk _
        obtain rfl : b = [] := List.length_eq_zero_iff.1 (Nat.le_zero.1 hk)
        cases m with
        | zero => rfl
        | succ m => simp [drainFuel, S.wait_nil]
    | succ k ih =>
        intro m b hk hm
        cases m with
        | zero =>
            obtain rfl : b = [] := List.length_eq_zero_iff.1 (Nat.le_zero.1 hm)
            simp [drainFuel, S.wait_nil]
        | succ m =>
            simp only [drainFuel]
            cases hv : S.verdict b with
            | wait => rfl
            | flush => rfl
            | advance n out =>
                rcases S.advance_bounds hv with ⟨hpos, hle⟩
                have hdrop := ih m (b.drop n) (by rw [List.length_drop]; omega)
                  (by rw [List.length_drop]; omega)
                simp only [hdrop]
  exact key fuel b.length b h (Nat.le_refl _)

theorem drain_wait {b : List α} (h : S.verdict b = .wait) :
    S.drain b = { out := [], rest := b, flushed := false } := by
  unfold drain
  cases b.length with
  | zero => rfl
  | succ k => simp [drainFuel, h]

theorem drain_flush {b : List α} (h : S.verdict b = .flush) :
    S.drain b = { out := [], rest := [], flushed := true } := by
  rw [← S.drainFuel_eq_drain (Nat.le_succ b.length)]
  simp [drainFuel, h]

theorem drain_advance {b : List α} {n : Nat} {out : List ε} (h : S.verdict b = .advance n out) :
    S.drain b = { S.drain (b.drop n) with out := out ++ (S.drain (b.drop n)).out } := by
  rw [← S.drainFuel_eq_drain (Nat.le_succ b.length)]
  have hlen : (b.drop n).length ≤ b.length := by rw [List.length_drop]; omega
  simp only [drainFuel, h, S.drainFuel_eq_drain hlen]

/-- `Loops S b k out rest`: entered with the buffer `b`, the loop ends by itself after `k` rounds that
take something off the buffer, having emitted `out` and left `rest`. -/
inductive Loops : List α → Nat → List ε → List α → Prop
  | wait {b : List α} : S.verdict b = .wait → Loops b 0 [] b
  | flush {b : List α} : S.verdict b = .flush → Loops b 1 [] []
  | advance {b : List α} {n k : Nat} {o os : List ε} {rest : List α} :
      S.verdict b = .advance n o → Loops (b.drop n) k os rest → Loops b (k + 1) (o ++ os) rest

/-- The loop ends from every buffer, after no more rounds than the buffer is long. -/
theorem loops_drain (b : List α) :
    ∃ k ≤ b.length, Loops S b k (S.drain b).out (S.drain b).rest := by
  induction hlen : b.length using Nat.strongRecOn generalizing b with
  | ind m ih =>
      cases hv : S.verdict b with
      | wait =>
          rw [S.drain_wait hv]
          exact ⟨0, Nat.zero_le _, .wait hv⟩
      | flush =>
          rw [S.drain_flush hv]
          have hpos : 0 < b.length := by
            rw [List.length_pos_iff]
            intro hnil
            rw [hnil, S.wait_nil] at hv
            cases hv
          exact ⟨1, by omega, .flush hv⟩
      | advance n o =>
          rcases S.advance_bounds hv with ⟨hpos, hle⟩
          have hlt : (b.drop n).length < m := by rw [List.length_drop]; omega
          rcases ih _ hlt (b.drop n) rfl with ⟨k, hk, hloops⟩
          rw [S.drain_advance hv]
          exact ⟨k + 1, by omega, .advance hv hloops⟩

/-! ## Reading between two positions of a stream -/

/-- `Reads S w out rest`: from the front of `w` the scanner gets to `rest`, emitting `out`. -/
inductive Reads : List α → List ε → List α → Prop
  | refl (w : List α) : Reads w [] w
  | advance {w : List α} {n : Nat} {o os : List ε} {rest : List α} :
      S.verdict w = .advance n o → Reads (w.drop n) os rest → Reads w (o ++ os) rest

namespace Reads

variable {S}

theorem single {w : List α} {n : Nat} {o : List ε} (h : S.verdict w = .advance n o) :
    Reads S w o (w.drop n) := by
  simpa using Reads.advance h (Reads.refl _)

theorem trans {w m rest : List α} {os ps : List ε} (h₁ : Reads S w os m)
    (h₂ : Reads S m ps rest) : Reads S w (os ++ ps) rest := by
  induction h₁ with
  | refl w => exact h₂
  | advance hv _ ih =>
      rw [List.append_assoc]
      exact Reads.advance hv (ih h₂)

theorem skip {w : List α} {n : Nat} (h : ∀ j < n, S.verdict (w.drop j) = .advance 1 []) :
    Reads S w [] (w.drop n) := by
  induction n with
  | zero => exact Reads.refl w
  | succ n ih =>
      have hn := (ih fun j hj => h j (Nat.lt_succ_of_lt hj)).trans (single (h n (by omega)))
      simpa using hn

/-- Input that arrives behind does not change what was read. -/
theorem append {w rest : List α} {os : List ε} (h : Reads S w os rest) (x : List α) :
    Reads S (w ++ x) os (rest ++ x) := by
  induction h with
  | refl w => exact Reads.refl _
  | @advance w n o os rest hv _ ih =>
      have hle := (S.advance_bounds hv).2
      have hv' : S.verdict (w ++ x) = .advance n o := by
        rw [S.stable w x (by simp [hv]), hv]
      refine Reads.advance hv' ?_
      rwa [List.drop_append_of_le_length hle]

theorem drain_eq {w rest : List α} {os : List ε} (h : Reads S w os rest) :
    S.drain w = { S.drain rest with out := os ++ (S.drain rest).out } := by
  induction h with
  | refl w => simp
  | advance hv _ ih =>
      rw [S.drain_advance hv, ih]
      simp [List.append_assoc]

theorem drain_flushed {w rest : List α} {os : List ε} (h : Reads S w os rest) :
    (S.drain w).flushed = (S.drain rest).flushed := by
  rw [h.drain_eq]

end Reads

/-- The loop ends at a position where the scanner waits or flushes. -/
theorem drain_spec (w : List α) :
    ∃ os rest, Reads S w os rest ∧
      ((S.verdict rest = .wait ∧ S.drain w = { out := os, rest := rest, flushed := false }) ∨
        (S.verdict rest = .flush ∧ S.drain w = { out := os, rest := [], flushed := true })) := by
  -- on the length of the buffer: every advance shortens it
  induction hlen : w.length using Nat.strongRecOn generalizing w with
  | ind k ih =>
      cases hv : S.verdict w with
      | wait => exact ⟨[], w, Reads.refl w, Or.inl ⟨hv, S.drain_wait hv⟩⟩
      | flush => exact ⟨[], w, Reads.refl w, Or.inr ⟨hv, S.drain_flush hv⟩⟩
      | advance n o =>
          rcases S.advance_bounds hv with ⟨hpos, hle⟩
          have hlt : (w.drop n).length < k := by rw [List.length_drop]; omega
          rcases ih _ hlt (w.drop n) rfl with ⟨os, rest, hreads, hend⟩
          refine ⟨o ++ os, rest, Reads.advance hv hreads, ?_⟩
          rw [S.drain_advance hv]
          rcases hend with ⟨hw, hd⟩ | ⟨hf, hd⟩
          · exact Or.inl ⟨hw, by rw [hd]⟩
          · exact Or.inr ⟨hf, by rw [hd]⟩

theorem verdict_rest (w : List α) : S.verdict (S.drain w).rest = .wait := by
  rcases S.drain_spec w with ⟨os, rest, -, ⟨hw, hd⟩ | ⟨-, hd⟩⟩
  · rw [hd]
    exact hw
  · rw [hd]
    exact S.wait_nil

theorem reads_of_not_flushed {w : List α} (h : (S.drain w).flushed = false) :
    Reads S w (S.drain w).out (S.drain w).rest := by
  rcases S.drain_spec w with ⟨os, rest, hr, ⟨-, hd⟩ | ⟨-, hd⟩⟩
  · rw [hd]
    exact hr
  · rw [hd] at h
    cases h

theorem flushed_iff (w : List α) :
    (S.drain w).flushed = true ↔ ∃ os b, Reads S w os b ∧ S.verdict b = .flush := by
  constructor
  · intro h
    rcases S.drain_spec w with ⟨os, rest, hr, ⟨-, hd⟩ | ⟨hf, -⟩⟩
    · rw [hd] at h
      cases h
    · exact ⟨os, rest, hr, hf⟩
  · rintro ⟨os, b, hr, hf⟩
    rw [hr.drain_flushed, S.drain_flush hf]

/-- Once flushed, a stream stays flushed however it goes on. -/
theorem drain_append_of_flushed {w : List α} (h : (S.drain w).flushed = true) (x : List α) :
    S.drain (w ++ x) = S.drain w := by
  rcases S.drain_spec w with ⟨os, rest, hr, ⟨-, hd⟩ | ⟨hf, hd⟩⟩
  · rw [hd] at h
    cases h
  · -- the flush is met again at the same position, before anything of `x` counts
    have hfx : S.verdict (rest ++ x) = .flush := by
      rw [S.stable rest x (by simp [hf]), hf]
    rw [(hr.append x).drain_eq, hd, S.drain_flush hfx]
    simp

/-! ## Feeding chunks -/

/-- One chunk arrives: it is appended and the loop runs. -/
def feed (b x : List α) : List ε × List α :=
  ((S.drain (b ++ x)).out, (S.drain (b ++ x)).rest)

/-- Feed chunks one after another into a buffer: what is emitted, and the buffer at the end. -/
def feedAll (b : List α) : List (List α) → List ε × List α
  | [] => ([], b)
  | x :: xs =>
      let r := feedAll (S.feed b x).2 xs
      ((S.feed b x).1 ++ r.1, r.2)

theorem feedAll_snoc (b : List α) (xs : List (List α)) (x : List α) :
    S.feedAll b (xs ++ [x]) =
      ((S.feedAll b xs).1 ++ (S.feed (S.feedAll b xs).2 x).1, (S.feed (S.feedAll b xs).2 x).2) := by
  induction xs generalizing b with
  | nil => simp [feedAll]
  | cons y ys ih => simp [feedAll, ih, List.append_assoc]

theorem feedAll_of_flatten_nil {b : List α} (hb : S.verdict b = .wait) {xs : List (List α)}
    (hxs : xs.flatten = []) : S.feedAll b xs = ([], b) := by
  induction xs with
  | nil => rfl
  | cons x xs ih =>
      rcases List.append_eq_nil_iff.1 hxs with ⟨rfl, htail⟩
      simp [feedAll, feed, S.drain_wait hb, ih htail]

/-- As long as no flush is met before the stream ends, feeding chunks is one run of the loop on
the whole stream. -/
theorem feedAll_eq_drain {b : List α} (hb : S.verdict b = .wait) {xs : List (List α)}
    (h : ∀ w x, xs.flatten = w ++ x → x ≠ [] → (S.drain (b ++ w)).flushed = false) :
    S.feedAll b xs =
      ((S.drain (b ++ xs.flatten)).out, (S.drain (b ++ xs.flatten)).rest) := by
  induction xs generalizing b with
  | nil => simp [feedAll, S.drain_wait hb]
  | cons x xs ih =>
      simp only [feedAll, feed, List.flatten_cons]
      by_cases htail : xs.flatten = []
      · rw [S.feedAll_of_flatten_nil (S.verdict_rest _) htail, htail]
        simp
      · -- the first chunk is a proper prefix, so the loop on it waits at some position `r`
        have hnf : (S.drain (b ++ x)).flushed = false := h x xs.flatten rfl htail
        have hr := S.reads_of_not_flushed hnf
        have hrec := ih (S.verdict_rest (b ++ x)) (by
          intro w y hwy hy
          have hflag := h (x ++ w) y (by simp [hwy]) hy
          rwa [← List.append_assoc, (hr.append w).drain_flushed] at hflag)
        rw [hrec, ← List.append_assoc, (hr.append xs.flatten).drain_eq]

theorem feedAll_of_not_flushed {xs : List (List α)}
    (h : (S.drain xs.flatten).flushed = false) :
    S.feedAll [] xs = ((S.drain xs.flatten).out, (S.drain xs.flatten).rest) := by
  refine S.feedAll_eq_drain S.wait_nil ?_
  intro w x hwx _
  cases hf : (S.drain ([] ++ w)).flushed with
  | false => rfl
  | true =>
      have hstay := S.drain_append_of_flushed hf x
      rw [List.nil_append] at hf hstay
      rw [hwx, hstay, hf] at h
      cases h

/-- Feeding a stream that reads through to its end emits what was read and leaves nothing. -/
theorem feedAll_of_reads {xs : List (List α)} {os : List ε} {rest : List α}
    (h : Reads S xs.flatten os rest) (hrest : S.verdict rest = .wait) :
    S.feedAll [] xs = (os, rest) := by
  have hd : S.drain xs.flatten = { out := os, rest := rest, flushed := false } := by
    rw [h.drain_eq, S.drain_wait hrest]
    simp
  rw [S.feedAll_of_not_flushed (by rw [hd]), hd]

/-- The cut into chunks does not matter exactly when no flush is met before the stream ends. -/
theorem feedAll_eq_iff (hone : ∀ a, S.verdict [a] = .wait) (w : List α) :
    (∀ xs ys : List (List α), xs.flatten = w → ys.flatten = w →
        S.feedAll [] xs = S.feedAll [] ys) ↔
      ∀ p x, w = p ++ x → x ≠ [] → (S.drain p).flushed = false := by
  constructor
  · intro hall p x hw hx
    by_contra hf
    have hflush : (S.drain p).flushed = true := by simpa using hf
    obtain ⟨y, a, rfl⟩ : ∃ y a, x = y ++ [a] :=
      ⟨x.dropLast, x.getLast hx, (List.dropLast_concat_getLast hx).symm⟩
    -- one chunk loses everything behind the flush, two chunks keep the last element
    have hone' := hall [w] [p ++ y, [a]] (by simp) (by simp [hw])
    have hpy := S.drain_append_of_flushed hflush y
    have hw' : S.drain w = S.drain p := by rw [hw]; exact S.drain_append_of_flushed hflush _
    rcases S.drain_spec p with ⟨os, rest, -, ⟨-, hd⟩ | ⟨-, hd⟩⟩
    · rw [hd] at hflush
      cases hflush
    · simp [feedAll, feed, hpy, hw', hd, S.drain_wait (hone a)] at hone'
  · intro hno xs ys hxs hys
    have hrun : ∀ zs : List (List α), zs.flatten = w →
        S.feedAll [] zs = ((S.drain w).out, (S.drain w).rest) := by
      intro zs hzs
      have hcut : ∀ p x, zs.flatten = p ++ x → x ≠ [] →
          (S.drain ([] ++ p)).flushed = false := by
        intro p x hpx hx
        rw [List.nil_append]
        exact hno p x (hzs ▸ hpx) hx
      have hdrain := S.feedAll_eq_drain S.wait_nil hcut
      rwa [List.nil_append, hzs] at hdrain
    rw [hrun xs hxs, hrun ys hys]

end Scanner

/-! ## What the emitted items were read from -/

/-- The items lie in the stream one behind another and without overlap, each as a piece of it that
`R` relates to the item. -/
inductive Embedded {α : Type u} {β : Type v} (R : β → List α → Prop) : List β → List α → Prop
  | nil : Embedded R [] []
  | skip (gap : List α) {ps : List β} {w : List α} : Embedded R ps w → Embedded R ps (gap ++ w)
  | item {p : β} {piece : List α} {ps : List β} {w : List α} :
      R p piece → Embedded R ps w → Embedded R (p :: ps) (piece ++ w)

namespace Embedded

variable {α : Type u} {β : Type v} {R : β → List α → Prop}

theorem gap (w : List α) : Embedded R [] w := by
  have h := Embedded.skip (R := R) w .nil
  rwa [List.append_nil] at h

theorem single {p : β} {piece : List α} (h : R p piece) : Embedded R [p] piece := by
  have hitem := Embedded.item h .nil
  rwa [List.append_nil] at hitem

theorem append {ps qs : List β} {w v : List α} (h : Embedded R ps w) (h' : Embedded R qs v) :
    Embedded R (ps ++ qs) (w ++ v) := by
  induction h with
  | nil => exact h'
  | skip gap _ ih =>
      rw [List.append_assoc]
      exact .skip gap ih
  | item hp _ ih =>
      rw [List.append_assoc]
      exact .item hp ih

end Embedded

namespace Scanner

variable {α ε : Type u} {β : Type v} {S : Scanner α ε} {R : β → List α → Prop}
  {g : ε → Option β}

/-- Every look that consumes a piece emits nothing that `g` selects, or the one item that the piece
stands for. -/
def ReadsPieces (S : Scanner α ε) (R : β → List α → Prop) (g : ε → Option β) : Prop :=
  ∀ b n out, S.verdict b = .advance n out →
    out.filterMap g = [] ∨ ∃ p, out.filterMap g = [p] ∧ R p (b.take n)

theorem ReadsPieces.embedded_reads (h : ReadsPieces S R g) {w rest : List α} {os : List ε}
    (hr : Reads S w os rest) : ∃ u, w = u ++ rest ∧ Embedded R (os.filterMap g) u := by
  induction hr with
  | refl w => exact ⟨[], rfl, .nil⟩
  | @advance w n o os rest hv _ ih =>
      rcases ih with ⟨u, hu, hos⟩
      refine ⟨w.take n ++ u, ?_, ?_⟩
      · rw [List.append_assoc, ← hu, List.take_append_drop]
      · rw [List.filterMap_append]
        rcases h w n o hv with hnone | ⟨p, hp, hR⟩
        · rw [hnone]
          exact (Embedded.gap _).append hos
        · rw [hp]
          exact (Embedded.single hR).append hos

theorem ReadsPieces.embedded_drain (h : ReadsPieces S R g) (w : List α) :
    ∃ u, w = u ++ (S.drain w).rest ∧ Embedded R ((S.drain w).out.filterMap g) u := by
  rcases S.drain_spec w with ⟨os, rest, hr, ⟨-, hd⟩ | ⟨-, hd⟩⟩
  · rw [hd]
    exact h.embedded_reads hr
  · -- what a flush throws away is a gap
    rcases h.embedded_reads hr with ⟨u, hu, hos⟩
    rw [hd]
    have hall := hos.append (Embedded.gap rest)
    rw [List.append_nil, ← hu] at hall
    exact ⟨w, (List.append_nil w).symm, hall⟩

/-- Whatever the stream and its cut into chunks, the emitted items were read from pieces of it that
lie one behind another. -/
theorem ReadsPieces.embedded_feedAll (h : ReadsPieces S R g) (b : List α) (xs : List (List α)) :
    ∃ u, b ++ xs.flatten = u ++ (S.feedAll b xs).2 ∧
      Embedded R ((S.feedAll b xs).1.filterMap g) u := by
  induction xs generalizing b with
  | nil => exact ⟨[], List.append_nil b, .nil⟩
  | cons x xs ih =>
      rcases h.embedded_drain (b ++ x) with ⟨u, hu, hout⟩
      rcases ih (S.drain (b ++ x)).rest with ⟨v, hv, hrest⟩
      refine ⟨u ++ v, ?_, ?_⟩
      · calc
          b ++ (x :: xs).flatten = b ++ x ++ xs.flatten := by
            rw [List.flatten_cons, List.append_assoc]
          _ = u ++ ((S.drain (b ++ x)).rest ++ xs.flatten) := by
            rw [← List.append_assoc, ← hu]
          _ = u ++ v ++ (S.feedAll b (x :: xs)).2 := by
            rw [hv, List.append_assoc]
            rfl
      · change Embedded R (((S.drain (b ++ x)).out ++ _).filterMap g) _
        rw [List.filterMap_append]
        exact hout.append hrest

end Scanner
end Lib
end TcpCanUds
