import TcpCanUds.Client.CanWorker
import TcpCanUds.Core.IsoTpSides
import TcpCanUds.Lib.Machine
import TcpCanUds.Lib.PastTime

/-!
# CanConnection — when the client is on the bus, and when its window hears it

`Can_worker::init` makes the connections to the window, and `Can_InterFace::tryReconnect` opens the
device again without them.  What the CAN thread does is therefore told by two histories: that of the
user's attempts, and that of all attempts.

* `flags_after` — the flags of the thread as past-time formulas over its run;
* `request_written_iff` — a request goes out by the second history and the state of the link;
* `window_hears_iff` — a response reaches the window by the first history alone.
-/

namespace TcpCanUds
namespace Client

open Lib IsoTp

/-! ## The CAN thread -/

inductive CanThreadEvent where
  | init (result : DeviceResult)
  | sendUdsData (ms : UInt32) (data : QByteArray)
  | sendUdsMessage (ms : UInt32) (msg : UDSMessage)
  | framesReceived (ms : UInt32) (mem : UDSMessage.Memory) (qFrame : QCanBusFrame)
  | pollTimeout (ms : UInt32) (mem : UDSMessage.Memory)
  | errorOccurred
  | tryReconnect (result : DeviceResult)
  deriving DecidableEq, Repr

/-- The CAN thread alone; `memory` is where the instance of `Can_InterFace` will be made. -/
def canThread (memory : IsoTpBuffers isoTpBufferSize) :
    Machine CanWorker CanThreadEvent CanWorkerOutcome where
  init := {}
  step w
    | .init result => w.init memory result
    | .sendUdsData ms data => w.sendUdsData ms data
    | .sendUdsMessage ms msg => w.sendUdsMessage ms msg
    | .framesReceived ms mem qFrame => w.onFramesReceived ms mem qFrame
    | .pollTimeout ms mem => w.pollTimeout ms mem
    | .errorOccurred => w.errorOccurred
    | .tryReconnect result => w.tryReconnect result

namespace CanWorker

/-! ## Flags and histories -/

/-- The device is there: it may be open or not. -/
def HasDevice (w : CanWorker) : Prop :=
  ∃ c ∈ w.m_instance, c.m_device = true

/-- `m_pollTimer` runs, which it does from `connectDevice` on. -/
def Polls (w : CanWorker) : Prop :=
  ∃ c ∈ w.m_instance, c.m_pollTimer = true

/-- `m_reconnectTimer` runs. -/
def Retries (w : CanWorker) : Prop :=
  ∃ c ∈ w.m_instance, c.m_reconnectTimer = true

/-- An error comes from a device, `tryReconnect` from its timer, and a device can be created: the program
would end with the null pointer. -/
def Possible (w : CanWorker) : CanThreadEvent → Prop
  | .init result => result ≠ .noDevice
  | .errorOccurred => w.HasDevice
  | .tryReconnect result => w.Retries ∧ result ≠ .noDevice
  | .sendUdsData _ _ | .sendUdsMessage _ _ | .framesReceived _ _ _ | .pollTimeout _ _ => True

instance (o : Option CanInterFaceObject) (f : CanInterFaceObject → Bool) :
    Decidable (∃ c ∈ o, f c = true) :=
  match o with
  | none => isFalse fun ⟨_, hmem, _⟩ => nomatch hmem
  | some c =>
      decidable_of_iff (f c = true)
        ⟨fun h => ⟨c, rfl, h⟩, fun ⟨_, hmem, h⟩ => Option.some.inj hmem ▸ h⟩

instance (w : CanWorker) : Decidable w.HasDevice :=
  inferInstanceAs (Decidable (∃ c ∈ w.m_instance, c.m_device = true))

instance (w : CanWorker) : Decidable w.Retries :=
  inferInstanceAs (Decidable (∃ c ∈ w.m_instance, c.m_reconnectTimer = true))

instance (w : CanWorker) (e : CanThreadEvent) : Decidable (w.Possible e) :=
  match e with
  | .init result => inferInstanceAs (Decidable (result ≠ .noDevice))
  | .errorOccurred => inferInstanceAs (Decidable w.HasDevice)
  | .tryReconnect result => inferInstanceAs (Decidable (w.Retries ∧ result ≠ .noDevice))
  | .sendUdsData _ _ | .sendUdsMessage _ _ | .framesReceived _ _ _ | .pollTimeout _ _ => isTrue trivial

end CanWorker

namespace CanThreadEvent

/-- The user's attempt to connect succeeds. -/
def UserUp : CanThreadEvent → Prop
  | .init result => result = .connected
  | _ => False

def UserDown : CanThreadEvent → Prop
  | .init result => result ≠ .connected
  | _ => False

/-- An attempt of the user or of the timer succeeds. -/
def Up : CanThreadEvent → Prop
  | .init result | .tryReconnect result => result = .connected
  | _ => False

def Down : CanThreadEvent → Prop
  | .init result | .tryReconnect result => result ≠ .connected
  | _ => False

def DeviceError : CanThreadEvent → Prop
  | .errorOccurred => True
  | _ => False

def Attempt : CanThreadEvent → Prop
  | .init _ | .tryReconnect _ => True
  | _ => False

end CanThreadEvent

namespace CanInterFaceObject

/-! ## What a call leaves alone -/

/-- The flags are the same, and the link is set up as it was. -/
structure SameFlags (c c' : CanInterFaceObject) : Prop where
  device : c'.m_device = c.m_device
  pollTimer : c'.m_pollTimer = c.m_pollTimer
  reconnectTimer : c'.m_reconnectTimer = c.m_reconnectTimer
  link : config c'.m_iso_link = config c.m_iso_link

theorem SameFlags.trans {c c' c'' : CanInterFaceObject} (h : SameFlags c c') (h' : SameFlags c' c'') :
    SameFlags c c'' :=
  ⟨h'.device.trans h.device, h'.pollTimer.trans h.pollTimer,
    h'.reconnectTimer.trans h.reconnectTimer, h'.link.trans h.link⟩

/-- Another link is put in and sends. -/
theorem sameFlags_sendFrames (c : CanInterFaceObject) {link : IsoTpLink}
    (hconfig : config link = config c.m_iso_link) (frames : List CanFrameData) :
    SameFlags c (sendFrames { c with m_iso_link := link } frames).1 := by
  have hlink : SameFlags c { c with m_iso_link := link } := ⟨rfl, rfl, rfl, hconfig⟩
  refine hlink.trans ?_
  generalize { c with m_iso_link := link } = sender
  induction frames generalizing sender with
  | nil => exact ⟨rfl, rfl, rfl, rfl⟩
  | cons frame frames ih =>
      have hframe : SameFlags sender (sender.sendFunction frame).1 := by
        unfold sendFunction flushSendBuffer
        split_ifs <;> exact ⟨rfl, rfl, rfl, rfl⟩
      exact hframe.trans (ih _)

theorem sameFlags_sendUdsRawData (c : CanInterFaceObject) (ms : UInt32) (raw : QByteArray) :
    SameFlags c (c.sendUdsRawData ms raw).1 := by
  apply sameFlags_sendFrames
  exact (config_isotpPoll _ _).trans (config_isotpSend _ _ _)

theorem config_pollAndReceive (link : IsoTpLink) (ms : UInt32) (mem : UDSMessage.Memory) :
    config (CanInterFace.pollAndReceive link ms mem).1.m_iso_link = config link :=
  (config_isotpReceive _ _).trans (config_isotpPoll _ _)

theorem sameFlags_onFrameReceived (c : CanInterFaceObject) (ms : UInt32) (mem : UDSMessage.Memory)
    (qFrame : QCanBusFrame) : SameFlags c (c.onFrameReceived ms mem qFrame).1 := by
  unfold onFrameReceived
  split_ifs with htaken
  · apply sameFlags_sendFrames
    unfold linkReceive CanInterFace.onFrame
    split_ifs with hother
    · rfl
    · exact (config_pollAndReceive _ ms mem).trans (config_isotpOnCanMessage _ _ _)
  · exact ⟨rfl, rfl, rfl, rfl⟩

theorem sameFlags_pollTimeout (c : CanInterFaceObject) (ms : UInt32) (mem : UDSMessage.Memory) :
    SameFlags c (c.pollTimeout ms mem).1 := by
  unfold pollTimeout
  split_ifs with htimer
  · exact sameFlags_sendFrames c (config_pollAndReceive c.m_iso_link ms mem) _
  · exact ⟨rfl, rfl, rfl, rfl⟩

end CanInterFaceObject

/-! ## What the run says -/

namespace CanWorker

open CanThreadEvent

/-- An instance that `init` has set up: the worker points to it, no frame waits in its send buffer, and
its link sends requests and listens to responses. -/
structure SetUp (w : CanWorker) (c : CanInterFaceObject) : Prop where
  interface : w.m_interface = true
  ready : c.Ready
  link : config c.m_iso_link = (CanId.udsReq, isoTpBufferSize, CanId.udsResp, isoTpBufferSize)

/-- The flags, told by the events so far. -/
structure Told (w : CanWorker) (run : List CanThreadEvent) : Prop where
  connected : w.connected = true ↔ Since UserUp UserDown run
  device : w.HasDevice ↔ Once Attempt run
  polls : w.Polls ↔ Since Up Down run
  retries : w.Retries ↔ Since DeviceError Up run
  setUp : ∀ c ∈ w.m_instance, SetUp w c

/-- An event that is no attempt and no error. -/
structure Plain (e : CanThreadEvent) : Prop where
  userUp : ¬ UserUp e
  userDown : ¬ UserDown e
  up : ¬ Up e
  down : ¬ Down e
  deviceError : ¬ DeviceError e
  attempt : ¬ Attempt e

section

variable {w w' : CanWorker} {c c' : CanInterFaceObject} {run : List CanThreadEvent} {e : CanThreadEvent}
  {memory : IsoTpBuffers isoTpBufferSize}

theorem exists_mem_some (f : CanInterFaceObject → Bool) (h : w.m_instance = some c) :
    (∃ c ∈ w.m_instance, f c = true) ↔ f c = true := by
  rw [h]
  constructor
  · rintro ⟨c', hmem, hf⟩
    rwa [Option.some.inj hmem]
  · exact fun hf => ⟨c, rfl, hf⟩

/-- A flag of the next instance, from that of this one. -/
theorem exists_mem_congr {f : CanInterFaceObject → Bool} (h : w.m_instance = some c)
    (h' : w'.m_instance = some c') (hsame : f c' = f c) :
    (∃ c ∈ w'.m_instance, f c = true) ↔ ∃ c ∈ w.m_instance, f c = true := by
  rw [exists_mem_some f h, exists_mem_some f h', hsame]

theorem since_plain {p q : CanThreadEvent → Prop} (hp : ¬ p e) (hq : ¬ q e) :
    Since p q (run ++ [e]) ↔ Since p q run := by
  rw [since_snoc, or_iff_right hp, and_iff_left hq]

theorem once_plain {p : CanThreadEvent → Prop} (hp : ¬ p e) : Once p (run ++ [e]) ↔ Once p run := by
  rw [once_append, once_cons, or_iff_left not_once_nil, or_iff_left hp]

/-- Neither the flags nor what is told of them moves. -/
theorem Told.same (h : Told w run) (he : Plain e) : Told w (run ++ [e]) where
  connected := by
    rw [since_plain he.userUp he.userDown]
    exact h.connected
  device := by
    rw [once_plain he.attempt]
    exact h.device
  polls := by
    rw [since_plain he.up he.down]
    exact h.polls
  retries := by
    rw [since_plain he.deviceError he.up]
    exact h.retries
  setUp := h.setUp

theorem Told.plain (h : Told w run) (he : Plain e) (hinstance : w.m_instance = some c)
    (hinstance' : w'.m_instance = some c') (hsame : CanInterFaceObject.SameFlags c c')
    (hready : c.Ready → c'.Ready) (hconnected : w'.connected = w.connected)
    (hinterface : w'.m_interface = w.m_interface) : Told w' (run ++ [e]) where
  connected := hconnected ▸ (h.same he).connected
  device := (exists_mem_congr hinstance hinstance' hsame.device).trans (h.same he).device
  polls := (exists_mem_congr hinstance hinstance' hsame.pollTimer).trans (h.same he).polls
  retries := (exists_mem_congr hinstance hinstance' hsame.reconnectTimer).trans (h.same he).retries
  setUp := by
    intro d hmem
    rw [hinstance'] at hmem
    rw [← Option.some.inj hmem]
    have hsetUp := h.setUp c hinstance
    exact ⟨hinterface.trans hsetUp.interface, hready hsetUp.ready, hsame.link.trans hsetUp.link⟩

/-- An attempt that opens the device, or does not. -/
theorem Told.attempted (h : Told w run) (memory : IsoTpBuffers isoTpBufferSize) {result : DeviceResult}
    {success : Bool} (hinit : (w.Instance memory).init result = some (c, success))
    (hup : Up e ↔ result = .connected) (hdown : Down e ↔ result ≠ .connected) (herror : ¬ DeviceError e)
    (hinstance' : w'.m_instance = some c) (hinterface' : w'.m_interface = true) (hattempt : Attempt e)
    (hconnected : w'.connected = true ↔ Since UserUp UserDown (run ++ [e])) :
    Told w' (run ++ [e]) := by
  have hretries : w.Retries ↔ (w.Instance memory).m_reconnectTimer = true := by
    rw [Instance]
    cases hinstance : w.m_instance with
    | none =>
        refine ⟨fun hretries => ?_, fun hnew => nomatch hnew⟩
        rcases hretries with ⟨d, hmem, -⟩
        rw [hinstance] at hmem
        cases hmem
    | some d => exact exists_mem_some _ hinstance
  -- what `init` leaves: the device, the poll timer of a success, and the reconnect timer of a failure
  have hflags : c.m_device = true ∧ (c.m_pollTimer = true ↔ result = .connected) ∧
      (c.m_reconnectTimer = true ↔ w.Retries ∧ result ≠ .connected) ∧
      config c.m_iso_link = (CanId.udsReq, isoTpBufferSize, CanId.udsResp, isoTpBufferSize) := by
    rw [hretries]
    cases result with
    | noDevice => cases hinit
    | notConnected =>
        rcases Prod.mk.inj (Option.some.inj hinit) with ⟨rfl, -⟩
        exact ⟨rfl, ⟨nofun, nofun⟩, (and_iff_left nofun).symm, rfl⟩
    | connected =>
        rcases Prod.mk.inj (Option.some.inj hinit) with ⟨rfl, -⟩
        exact ⟨rfl, ⟨fun _ => rfl, fun _ => rfl⟩, ⟨nofun, fun hboth => absurd rfl hboth.2⟩, rfl⟩
  rcases hflags with ⟨hhas, hpolls, hreconnect, hlink⟩
  exact {
    connected := hconnected
    device :=
      ⟨fun _ => once_append.2 (.inr (once_cons.2 (.inl hattempt))),
        fun _ => (exists_mem_some _ hinstance').2 hhas⟩
    polls := by
      rw [since_snoc, hup, hdown, not_not]
      refine (exists_mem_some _ hinstance').trans (hpolls.trans ⟨.inl, ?_⟩)
      exact fun hor => hor.elim id And.right
    retries := by
      rw [since_snoc, or_iff_right herror, hup, ← h.retries]
      exact (exists_mem_some _ hinstance').trans hreconnect
    setUp := by
      intro d hmem
      rw [hinstance'] at hmem
      rw [← Option.some.inj hmem]
      exact ⟨hinterface', CanInterFaceObject.ready_init hinit, hlink⟩ }

theorem Told.init (h : Told w run) (memory : IsoTpBuffers isoTpBufferSize) {result : DeviceResult}
    (hresult : result ≠ .noDevice) : Told (w.init memory result).1 (run ++ [.init result]) := by
  have hconnected : ∀ w' : CanWorker, w'.connected = decide (result = .connected) →
      (w'.connected = true ↔ Since UserUp UserDown (run ++ [.init result])) := by
    intro w' hw'
    rw [hw', decide_eq_true_iff, since_snoc]
    -- a failed attempt ends what stood before it
    exact ⟨.inl, fun hor => hor.elim id fun hboth => not_not.1 hboth.2⟩
  cases result with
  | noDevice => exact absurd rfl hresult
  | notConnected | connected =>
      exact h.attempted memory rfl Iff.rfl Iff.rfl id rfl rfl trivial (hconnected _ rfl)

/-- Only the reconnect timer starts. -/
theorem Told.errorOccurred (h : Told w run) (hdevice : w.HasDevice) :
    Told w.errorOccurred.1 (run ++ [.errorOccurred]) := by
  rcases hdevice with ⟨c, hmem, hdevice⟩
  have hinstance : w.m_instance = some c := hmem
  have hinstance' : w.errorOccurred.1.m_instance = some { c with m_reconnectTimer := true } := by
    rw [CanWorker.errorOccurred, hinstance, Option.map_some, CanInterFaceObject.onErrorOccurred,
      if_pos hdevice]
  exact {
    connected := by
      rw [since_plain id id]
      exact h.connected
    device := by
      rw [once_plain id]
      exact (exists_mem_congr hinstance hinstance' rfl).trans h.device
    polls := by
      rw [since_plain id id]
      exact (exists_mem_congr hinstance hinstance' rfl).trans h.polls
    retries := by
      rw [since_snoc]
      exact ⟨fun _ => .inl trivial, fun _ => (exists_mem_some _ hinstance').2 rfl⟩
    setUp := by
      intro d hmem
      rw [hinstance'] at hmem
      rw [← Option.some.inj hmem]
      rcases h.setUp c hinstance with ⟨hinterface, hready, hlink⟩
      exact ⟨hinterface, ⟨hready.buffer, hready.id⟩, hlink⟩ }

theorem Told.tryReconnect (h : Told w run) (hretries : w.Retries) {result : DeviceResult}
    (hresult : result ≠ .noDevice) : Told (w.tryReconnect result).1 (run ++ [.tryReconnect result]) := by
  rcases hretries with ⟨c, hmem, htimer⟩
  have hinstance : w.m_instance = some c := hmem
  -- the object is there, so it does not matter where a new one would be made
  have hold : w.Instance (IsoTpBuffers.zero _) = c := by
    rw [Instance, hinstance]
    rfl
  have hconnected : ∀ w' : CanWorker, w'.connected = w.connected →
      (w'.connected = true ↔ Since UserUp UserDown (run ++ [.tryReconnect result])) := by
    intro w' hw'
    rw [hw', since_plain id id]
    exact h.connected
  unfold CanWorker.tryReconnect
  rw [hinstance]
  simp only
  rw [CanInterFaceObject.tryReconnect, if_pos htimer, ← hold]
  cases result with
  | noDevice => exact absurd rfl hresult
  | notConnected | connected =>
      exact h.attempted _ rfl Iff.rfl Iff.rfl id rfl (h.setUp c hmem).interface trivial
        (hconnected _ rfl)

/-- Every event that can happen moves the flags as it is told. -/
theorem Told.next (h : Told w run) (he : w.Possible e) :
    Told ((canThread memory).step w e).1 (run ++ [e]) := by
  cases e with
  | init result =>
      change Told (w.init memory result).1 _
      exact h.init memory he
  | sendUdsData ms data =>
      have hplain : Plain (.sendUdsData ms data) := ⟨id, id, id, id, id, id⟩
      change Told (w.sendUdsData ms data).1 _
      -- without the pointer or the instance nothing is done
      unfold sendUdsData interface
      split_ifs with hinterface
      · cases hinstance : w.m_instance with
        | none => exact h.same hplain
        | some c =>
            exact h.plain hplain hinstance rfl (c.sameFlags_sendUdsRawData ms data)
              (fun hready => (CanInterFaceObject.sendUdsRawData_of_ready hready ms data).1) rfl rfl
      · exact h.same hplain
  | sendUdsMessage ms msg =>
      have hplain : Plain (.sendUdsMessage ms msg) := ⟨id, id, id, id, id, id⟩
      change Told (w.sendUdsMessage ms msg).1 _
      unfold sendUdsMessage interface
      split_ifs with hinterface
      · cases hinstance : w.m_instance with
        | none => exact h.same hplain
        | some c =>
            exact h.plain hplain hinstance rfl (c.sameFlags_sendUdsRawData ms _)
              (fun hready => (CanInterFaceObject.sendUdsRawData_of_ready hready ms _).1) rfl rfl
      · exact h.same hplain
  | framesReceived ms mem qFrame =>
      have hplain : Plain (.framesReceived ms mem qFrame) := ⟨id, id, id, id, id, id⟩
      change Told (w.onFramesReceived ms mem qFrame).1 _
      unfold onFramesReceived
      cases hinstance : w.m_instance with
      | none => exact h.same hplain
      | some c =>
          exact h.plain hplain hinstance rfl (c.sameFlags_onFrameReceived ms mem qFrame)
            (fun hready => (CanInterFaceObject.onFrameReceived_of_ready hready ms mem qFrame).1) rfl rfl
  | pollTimeout ms mem =>
      have hplain : Plain (.pollTimeout ms mem) := ⟨id, id, id, id, id, id⟩
      change Told (w.pollTimeout ms mem).1 _
      unfold pollTimeout
      cases hinstance : w.m_instance with
      | none => exact h.same hplain
      | some c =>
          exact h.plain hplain hinstance rfl (c.sameFlags_pollTimeout ms mem)
            (fun hready => (CanInterFaceObject.pollTimeout_of_ready hready ms mem).1) rfl rfl
  | errorOccurred =>
      change Told w.errorOccurred.1 _
      exact h.errorOccurred he
  | tryReconnect result =>
      change Told (w.tryReconnect result).1 _
      exact h.tryReconnect he.1 he.2

theorem told_init : Told (canThread memory).init [] where
  connected := ⟨fun h => (nomatch h), fun h => absurd h not_since_nil⟩
  device := ⟨fun ⟨_, hmem, _⟩ => (nomatch hmem), fun h => absurd h not_once_nil⟩
  polls := ⟨fun ⟨_, hmem, _⟩ => (nomatch hmem), fun h => absurd h not_since_nil⟩
  retries := ⟨fun ⟨_, hmem, _⟩ => (nomatch hmem), fun h => absurd h not_since_nil⟩
  setUp c hmem := absurd hmem (Option.not_mem_none c)

theorem told_after (h : (canThread memory).Along Possible (canThread memory).init run) :
    Told ((canThread memory).after run) run := by
  induction run using List.reverseRecOn with
  | nil => exact told_init
  | append_singleton run e ih =>
      rcases (canThread memory).along_snoc.1 h with ⟨hbefore, he⟩
      rw [Machine.after_snoc]
      exact (ih hbefore).next he

end

/-- The flags of the CAN thread, from its past alone.  The window hears it since the user's last attempt
succeeded, whatever the timer has done; the link is polled since the last attempt of either succeeded; and
the timer tries again from an error until an attempt succeeds. -/
theorem flags_after (memory : IsoTpBuffers isoTpBufferSize) {run : List CanThreadEvent}
    (h : (canThread memory).Along Possible (canThread memory).init run) :
    let w := (canThread memory).after run
    (w.connected = true ↔ Since UserUp UserDown run) ∧ (w.HasDevice ↔ Once Attempt run) ∧
      (w.Polls ↔ Since Up Down run) ∧ (w.Retries ↔ Since DeviceError Up run) :=
  ⟨(told_after h).connected, (told_after h).device, (told_after h).polls, (told_after h).retries⟩

/-- The user's attempt fails, the device reports it, and the timer's first attempt succeeds. -/
def deafRun : List CanThreadEvent :=
  [.init .notConnected, .errorOccurred, .tryReconnect .connected]

/-- The link is polled, and the window does not hear it. -/
theorem flags_after_deafRun :
    let w := (canThread (IsoTpBuffers.zero _)).after deafRun
    w.connected = false ∧ (w.Polls ↔ Since Up Down deafRun) ∧ ¬ Since UserUp UserDown deafRun := by
  intro w
  have hpossible : (canThread (IsoTpBuffers.zero _)).Along Possible
      (canThread (IsoTpBuffers.zero _)).init deafRun := by decide
  have hflags := flags_after (IsoTpBuffers.zero _) hpossible
  have hdeaf : w.connected = false := rfl
  exact ⟨hdeaf, hflags.2.2.1, fun hsince => nomatch hdeaf.symm.trans (hflags.1.2 hsince)⟩

/-! ## Requests -/

/-- What a request finds on the link: its bytes can begin, or the message under way goes on. -/
def SendsNow (c : CanInterFaceObject) (ms : UInt32) (raw : QByteArray) : Prop :=
  (raw.length % 65536 ≤ isoTpBufferSize ∧ c.m_iso_link.send_status ≠ .inprogress) ∨
    (c.m_iso_link.send_status = .inprogress ∧ MaySend { ms := ms } c.m_iso_link)

/-- A set-up instance hands frames to a device that is there. -/
theorem SetUp.sends_iff {w : CanWorker} {c : CanInterFaceObject} (h : SetUp w c) (ms : UInt32)
    (raw : QByteArray) :
    (c.sendUdsRawData ms raw).2 ≠ [] ↔ c.m_device = true ∧ SendsNow c ms raw := by
  have hsize : c.m_iso_link.send_buf_size = isoTpBufferSize :=
    congrArg (fun parts => parts.2.1) h.link
  have hlink := CanInterFaceObject.linkSend_ne_nil_iff c ms raw
  rw [hsize] at hlink
  rw [(CanInterFaceObject.sendUdsRawData_of_ready h.ready ms raw).2, CanInterFaceObject.handed, Ne,
    List.map_eq_nil_iff]
  split_ifs with hdevice
  · rw [SendsNow, ← hlink]
    exact (and_iff_right hdevice).symm
  · exact ⟨fun hne => absurd rfl hne, fun hboth => absurd hboth.1 hdevice⟩

/-- The instance is what the worker points to. -/
theorem Told.interface_eq {w : CanWorker} {run : List CanThreadEvent} (h : Told w run) :
    w.interface = w.m_instance := by
  rw [interface]
  cases hinstance : w.m_instance with
  | none => exact ite_self _
  | some c => exact if_pos (h.setUp c hinstance).interface

/-- Whether bytes given to the interface come out of it. -/
theorem Told.written_iff {w : CanWorker} {run : List CanThreadEvent} (h : Told w run) (ms : UInt32)
    (raw : QByteArray) :
    (∃ c ∈ w.interface, (c.sendUdsRawData ms raw).2 ≠ []) ↔
      Once Attempt run ∧ ∃ c ∈ w.m_instance, SendsNow c ms raw := by
  rw [← h.device, h.interface_eq]
  constructor
  · rintro ⟨c, hmem, hwritten⟩
    rcases ((h.setUp c hmem).sends_iff ms raw).1 hwritten with ⟨hdevice, hnow⟩
    exact ⟨⟨c, hmem, hdevice⟩, c, hmem, hnow⟩
  · rintro ⟨hdevice, c, hmem, hnow⟩
    have hdevice := (exists_mem_some _ hmem).1 hdevice
    exact ⟨c, hmem, ((h.setUp c hmem).sends_iff ms raw).2 ⟨hdevice, hnow⟩⟩

/-- What the worker hands to the device is what its interface hands over. -/
theorem written_ne_nil_iff (w : CanWorker) (f : CanInterFaceObject → List QCanBusFrame) :
    (match w.interface with | none => [] | some c => f c) ≠ [] ↔ ∃ c ∈ w.interface, f c ≠ [] := by
  cases w.interface with
  | none => exact ⟨fun hne => absurd rfl hne, fun ⟨_, hmem, _⟩ => (nomatch hmem)⟩
  | some c => exact ⟨fun hne => ⟨c, rfl, hne⟩, fun ⟨_, hmem, hne⟩ => Option.some.inj hmem ▸ hne⟩

/-- A request, in either form, goes out if and only if somebody has ever tried to connect, with or without
success, and the link sends now. -/
theorem request_written_iff (memory : IsoTpBuffers isoTpBufferSize) {run : List CanThreadEvent}
    (h : (canThread memory).Along Possible (canThread memory).init run) (ms : UInt32) :
    let w := (canThread memory).after run
    let written := fun e => ((canThread memory).step w e).2.written
    (∀ data, written (.sendUdsData ms data) ≠ [] ↔
        Once Attempt run ∧ ∃ c ∈ w.m_instance, SendsNow c ms data) ∧
      ∀ msg, written (.sendUdsMessage ms msg) ≠ [] ↔
        Once Attempt run ∧ ∃ c ∈ w.m_instance, SendsNow c ms (serializeUDSMessage msg) := by
  intro w written
  have htold := told_after h
  constructor
  · intro data
    rw [← htold.written_iff ms data, ← written_ne_nil_iff w fun c => (c.sendUdsRawData ms data).2]
    change (w.sendUdsData ms data).2.written ≠ [] ↔ _
    rw [sendUdsData]
    cases w.interface <;> rfl
  · intro msg
    rw [← htold.written_iff ms (serializeUDSMessage msg),
      ← written_ne_nil_iff w fun c => (c.sendUdsRawData ms (serializeUDSMessage msg)).2]
    change (w.sendUdsMessage ms msg).2.written ≠ [] ↔ _
    rw [sendUdsMessage]
    cases w.interface <;> rfl

/-- A tester present goes out where the window does not hear the answer, and not before the first
attempt. -/
theorem request_written_iff_deafRun :
    let thread := canThread (IsoTpBuffers.zero _)
    let written := fun run => (thread.step (thread.after run) (.sendUdsData 0 [0x3E, 0])).2.written
    written deafRun ≠ [] ∧ written [] = [] := by
  intro thread written
  have hdeaf : thread.Along Possible thread.init deafRun := by decide
  have hfresh : thread.Along Possible thread.init [] := by decide
  have hiff := fun run (h : thread.Along Possible thread.init run) =>
    (request_written_iff (IsoTpBuffers.zero _) h 0).1 [0x3E, 0]
  refine ⟨(hiff _ hdeaf).2 ⟨⟨_, List.mem_cons_self, trivial⟩, _, rfl, .inl ⟨by decide, nofun⟩⟩, ?_⟩
  exact not_not.1 fun hne => absurd ((hiff _ hfresh).1 hne).1 not_once_nil

/-! ## Responses -/

/-- A complete message is there behind a poll, whatever the link sends. -/
theorem received_pollAndReceive {p : QByteArray} {link : IsoTpLink} (h : Received p link)
    (hpos : 0 < p.length) (hsize : p.length ≤ isoTpBufferSize) (ms : UInt32)
    (mem : UDSMessage.Memory) :
    (CanInterFace.pollAndReceive link ms mem).2.received = some (deserializeUDSMessage mem p) := by
  have hpolled : Received p (isotpPoll { ms := ms } link).1 := by
    rcases receiveSide_isotpPoll { ms := ms } link with hside | ⟨hstatus, -⟩
    · exact h.congr hside
    · exact nomatch h.status.symm.trans hstatus
  rw [CanInterFace.pollAndReceive]
  simp only [hpolled.isotpReceive hsize, Option.bind_some, if_pos hpos]

theorem received_linkReceive {c : CanInterFaceObject} {p : QByteArray} {qFrame : QCanBusFrame}
    (hlink : c.m_iso_link.receive_arbitration_id = CanId.udsResp) (hpos : 0 < p.length)
    (hshort : p.length ≤ 7) (hid : qFrame.frameId = CanId.udsResp)
    (hpayload : qFrame.payload = singleFrame p) (ms : UInt32) (mem : UDSMessage.Memory) :
    (c.linkReceive ms mem qFrame).2.received = some (deserializeUDSMessage mem p) := by
  have hbytes : CanFrameData.bytes
      { id := qFrame.frameId, data := qFrame.payload, len := UInt8.ofNat qFrame.payload.length } =
      singleFrame p := by
    rw [CanFrameData.bytes, hpayload, length_singleFrame hshort]
    exact List.take_of_length_le (Nat.le_of_eq (length_singleFrame hshort))
  rcases received_singleFrame { ms := ms } c.m_iso_link hshort hpos with ⟨hreceived, -, -⟩
  rw [CanInterFaceObject.linkReceive, CanInterFace.onFrame, if_neg (not_not.2 (hid.trans hlink.symm)),
    hbytes]
  exact received_pollAndReceive hreceived hpos (Nat.le_trans hshort (by decide)) ms mem

/-- A window that hears has a device. -/
theorem Told.hasDevice {w : CanWorker} {run : List CanThreadEvent} (h : Told w run)
    (hsince : Since UserUp UserDown run) : w.HasDevice := by
  rcases hsince.once with ⟨e, hmem, hup⟩
  refine h.device.2 ⟨e, hmem, ?_⟩
  cases e with
  | init result | tryReconnect result => trivial
  | _ => exact hup.elim

/-- What the connections of `init` make of the signals of a frame. -/
theorem mem_forward_iff (w : CanWorker) (qFrame : QCanBusFrame) (msg : UDSMessage) :
    .udsMessageReceived msg ∈ w.forward [.frameReceivedSignal qFrame, .udsMessageReceived msg] ↔
      w.connected = true ∧ msg.serviceId ≠ 0 := by
  unfold forward
  split_ifs with hconnected
  · rw [List.flatMap_cons, List.flatMap_cons, List.flatMap_nil, onSignal, onSignal,
      onUdsMessageReceived, List.append_nil]
    split_ifs with hzero
    · exact ⟨fun hmem => by simp at hmem, fun hboth => absurd hzero hboth.2⟩
    · exact ⟨fun _ => ⟨hconnected, hzero⟩, fun _ => by simp⟩
  · exact ⟨fun hmem => absurd hmem List.not_mem_nil, fun hboth => absurd hboth.1 hconnected⟩

/-- A response of one frame reaches the window if and only if the user's last attempt succeeded: not after
a failed one that the timer has made good, and again after the next one. -/
theorem window_hears_iff (memory : IsoTpBuffers isoTpBufferSize) {run : List CanThreadEvent}
    (h : (canThread memory).Along Possible (canThread memory).init run) {p : QByteArray}
    (hpos : 0 < p.length) (hshort : p.length ≤ 7) {qFrame : QCanBusFrame} (hvalid : qFrame.IsValid)
    (hid : qFrame.frameId = CanId.udsResp) (hpayload : qFrame.payload = singleFrame p) (ms : UInt32)
    (mem : UDSMessage.Memory) :
    let msg := deserializeUDSMessage mem p
    let done := (canThread memory).step ((canThread memory).after run) (.framesReceived ms mem qFrame)
    .udsMessageReceived msg ∈ done.2.signals ↔ Since UserUp UserDown run ∧ msg.serviceId ≠ 0 := by
  intro msg done
  have htold := told_after h
  have hdone : done = ((canThread memory).after run).onFramesReceived ms mem qFrame := rfl
  by_cases hdevice : ((canThread memory).after run).HasDevice
  · rcases hdevice with ⟨c, hmem, hdevice⟩
    have hinstance : ((canThread memory).after run).m_instance = some c := hmem
    have hlink := congrArg (fun parts => parts.2.2.1) (htold.setUp c hmem).link
    have hreceived := received_linkReceive hlink hpos hshort hid hpayload ms mem
    have hsignals : done.2.signals = ((canThread memory).after run).forward
        [.frameReceivedSignal qFrame, .udsMessageReceived msg] := by
      rw [hdone, onFramesReceived, hinstance]
      simp only
      rw [CanInterFaceObject.onFrameReceived, if_pos ⟨hdevice, hvalid⟩]
      simp only [hreceived, Option.toList_some, List.map_singleton]
      rfl
    rw [hsignals, mem_forward_iff, htold.connected]
  · -- before the first attempt there is nothing to hear
    have hsignals : done.2.signals = [] := by
      rw [hdone, onFramesReceived]
      cases hinstance : ((canThread memory).after run).m_instance with
      | none => rfl
      | some c =>
          have hnone : ¬ (c.m_device = true ∧ qFrame.IsValid) :=
            fun hboth => hdevice ⟨c, hinstance, hboth.1⟩
          simp only
          rw [CanInterFaceObject.onFrameReceived, if_neg hnone]
          unfold forward
          split_ifs <;> rfl
    rw [hsignals]
    exact ⟨fun hmem => absurd hmem List.not_mem_nil, fun hboth => absurd (htold.hasDevice hboth.1) hdevice⟩

/-- The positive response to a tester present, as the driver reads it. -/
def presentFrame : QCanBusFrame :=
  QCanBusFrame.ofCanFrame { id := CanId.udsResp, data := singleFrame [0x7E, 0], len := 8 }

/-- It is not heard after the timer's attempt, and it is after the user's next one. -/
theorem window_hears_iff_deafRun :
    let thread := canThread (IsoTpBuffers.zero _)
    let msg := deserializeUDSMessage {} [0x7E, 0]
    let heard := fun run => (thread.step (thread.after run) (.framesReceived 0 {} presentFrame)).2.signals
    .udsMessageReceived msg ∉ heard deafRun ∧
      .udsMessageReceived msg ∈ heard (deafRun ++ [.init .connected]) := by
  intro thread msg heard
  have hdeaf : thread.Along Possible thread.init deafRun := by decide
  have hagain : thread.Along Possible thread.init (deafRun ++ [.init .connected]) := by decide
  have hvalid : presentFrame.IsValid := by decide
  have hheard := fun run (h : thread.Along Possible thread.init run) =>
    window_hears_iff (IsoTpBuffers.zero _) h (p := [0x7E, 0]) (by decide) (by decide) hvalid rfl rfl 0 {}
  refine ⟨fun hmem => ?_, (hheard _ hagain).2 ⟨since_snoc.2 (.inl rfl), by decide⟩⟩
  have hsince := ((hheard _ hdeaf).1 hmem).1
  have hconnected := (told_after hdeaf).connected.2 hsince
  exact absurd hconnected (by decide)

end CanWorker

end Client
end TcpCanUds
