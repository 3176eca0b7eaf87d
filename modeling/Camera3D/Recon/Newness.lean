import Camera3D.Hub.Remembered
import Camera3D.Recon.Watcher

/-! Which captures the burst watcher takes for new, over any number of hub processes: it remembers one
capture id, and the ids may start again. -/
namespace Camera3D.Recon
open Camera Serial Grpc Hub Ipc Transition

/-- A hub process, restarted now and then, and the watcher that polls it. Completed captures are
numbered from 1, over all hub processes. -/
structure Hubs (α π θ : Type*) where
  server : Server α π θ
  watcher : Watcher := {}
  /-- History: the number of the last capture that a hub has completed, and what it published. -/
  born : ℕ := 0
  last : Option CapturePublication := none
  /-- History: the number of the capture whose frames the watcher is saving. -/
  saving : ℕ := 0
  /-- History: the captures that the watcher has booked as saved, newest first. -/
  saved : List ℕ := []

/-- What comes next: a step of the hub, a new hub process, or a step of the watcher. A poll is answered
by the hub, or fails in gRPC. -/
inductive HubsEvent (α π θ : Type*) where
  | hub (e : ServerEvent α π θ)
  | restart (prototypes : AList fun _ : String => α) (port : π) (b : Boot) (cursor : θ → UInt32)
  | connected (reply : Rpc (Option ConnectReply))
  | poll (fault : Option GrpcStatus) (shmOpens mkdir : Bool)
  | item (shm : Mapping) (io : FileIo)

namespace Hubs
variable {α π θ : Type*}

/-- The answer of the hub to a poll. -/
def depthReply (s : Hubs α π θ) (sessionId : String) : DepthReply :=
  s.server.hub.getDepth (Watcher.depthRequest sessionId)

def pollReply (s : Hubs α π θ) (sessionId : String) : Option GrpcStatus → Rpc (Option DepthReply)
  | some st => .error st
  | none => .ok (some (s.depthReply sessionId))

def onPoll (s : Hubs α π θ) (fault : Option GrpcStatus) (shmOpens mkdir : Bool) : Hubs α π θ :=
  match s.watcher.pc with
  | .polling sessionId =>
    let watcher := s.watcher.step (.depth (s.pollReply sessionId fault) shmOpens mkdir)
    { s with watcher, saving := s.born }
  | _ => s

def onItem (s : Hubs α π θ) (shm : Mapping) (io : FileIo) : Hubs α π θ :=
  match s.watcher.pc with
  | .saving _ b =>
    { s with
      watcher := s.watcher.step (.item shm io)
      saved := if b.i < b.frames.length ∨ b.okN = 0 then s.saved else s.saving :: s.saved }
  | _ => s

/-- A poll that finds a capture with raw frames, and a place to save them. -/
structure Offers (s : Hubs α π θ) (sessionId : String) (fault : Option GrpcStatus)
    (shmOpens mkdir : Bool) : Prop where
  polling : s.watcher.pc = .polling sessionId
  answered : fault = none
  code : (s.depthReply sessionId).status.code = 0
  frames : ∃ first rest, (s.depthReply sessionId).cameraRawFrames = first :: rest ∧
    first.frame.regionName ≠ ""
  opens : shmOpens = true
  mkdir : mkdir = true

/-- What holds between the numbers of captures, the hub's store and the watcher. -/
structure Counted (s : Hubs α π θ) : Prop where
  keyed : s.server.hub.store.Keyed
  last : ∀ pub, s.server.hub.store.publications.lookup s.server.hub.store.latestClientCaptureId =
    some pub → s.last = some pub
  le : ∀ n ∈ s.saved, n ≤ s.born
  nodup : s.saved.Nodup
  -- The capture that the hub answers with is saved only if its id is the one remembered.
  latest : s.born ∈ s.saved → s.server.hub.store.latestClientCaptureId ≠ 0 →
    s.watcher.lastSavedCaptureId = s.server.hub.store.latestClientCaptureId
  batch : ∀ sessionId b, s.watcher.pc = .saving sessionId b → b.frames ≠ [] ∧
    b.okN = b.files.length ∧ s.saving ≤ s.born ∧ (∀ n ∈ s.saved, n < s.saving) ∧
    (s.saving = s.born → s.server.hub.store.latestClientCaptureId ≠ 0 →
      s.server.hub.store.latestClientCaptureId = b.captureKey)

namespace Counted
variable {s : Hubs α π θ}

/-- A hub without publications: it has just started, or its session has ended. -/
theorem emptied (h : s.Counted) {server : Server α π θ} (hstore : server.hub.store = {}) :
    ({ s with server } : Hubs α π θ).Counted := by
  refine ⟨?_, ?_, h.le, h.nodup, ?_, ?_⟩
  · show server.hub.store.Keyed
    rw [hstore]
    exact PublicationStore.keyed_empty
  · intro pub hpub
    dsimp only at hpub
    rw [hstore] at hpub
    cases hpub
  · intro _ hne
    dsimp only at hne
    rw [hstore] at hne
    exact absurd rfl hne
  · intro sessionId b hpc
    obtain ⟨hframes, hfiles, hle, hlt, _⟩ := h.batch sessionId b hpc
    refine ⟨hframes, hfiles, hle, hlt, fun _ hne => ?_⟩
    dsimp only at hne
    rw [hstore] at hne
    exact absurd rfl hne

/-- A reply for a capture is the one for the last capture that a hub has completed. -/
theorem named (h : s.Counted) {sessionId : String}
    (hid : ¬ ((s.depthReply sessionId).clientCaptureId = 0 ∧
      (s.depthReply sessionId).cameraRawFrames = [])) :
    s.server.hub.store.latestClientCaptureId ≠ 0 ∧
      (s.depthReply sessionId).clientCaptureId = s.server.hub.store.latestClientCaptureId ∧
      ∃ pub, s.last = some pub ∧ s.depthReply sessionId = s.server.hub.depthReply pub := by
  obtain ⟨hkey, pub, hpub, hreply⟩ := (State.getDepth_cases _ _).resolve_left hid
  have hlatest : s.server.hub.depthKey (Watcher.depthRequest sessionId) =
      s.server.hub.store.latestClientCaptureId := by
    simp [State.depthKey, Watcher.depthRequest]
  rw [hlatest] at hkey hpub
  refine ⟨hkey, ?_, pub, h.last pub hpub, hreply⟩
  have hnamed : (s.depthReply sessionId).clientCaptureId = pub.clientCaptureId :=
    congrArg DepthReply.clientCaptureId hreply
  rw [hnamed, h.keyed _ pub hpub]

/-- The id that the watcher remembers is not given up while its capture is the last one. -/
theorem remembered (h : s.Counted) (hlatest : s.server.hub.store.latestClientCaptureId ≠ 0)
    (hsaved : s.born ∈ s.saved) :
    s.watcher.remembered s.server.hub.store.latestClientCaptureId = s.watcher := by
  unfold Watcher.remembered
  rw [h.latest hsaved hlatest, if_neg (UInt64.lt_irrefl _)]

/-- The watcher goes on outside the saving loop, and with what it remembered. -/
theorem goto (h : s.Counted) {watcher : Watcher} (n : ℕ)
    (hpc : ∀ sessionId b, watcher.pc ≠ .saving sessionId b)
    (hlast : s.born ∈ s.saved → s.server.hub.store.latestClientCaptureId ≠ 0 →
      watcher.lastSavedCaptureId = s.watcher.lastSavedCaptureId) :
    ({ s with watcher, saving := n } : Hubs α π θ).Counted := by
  refine ⟨h.keyed, h.last, h.le, h.nodup, fun hsaved hlatest => ?_, fun sessionId b hb => ?_⟩
  · exact (hlast hsaved hlatest).trans (h.latest hsaved hlatest)
  · exact absurd hb (hpc sessionId b)

theorem poll (h : s.Counted) (fault : Option GrpcStatus) (shmOpens mkdir : Bool) :
    (s.onPoll fault shmOpens mkdir).Counted := by
  unfold onPoll
  split
  case h_2 => exact h
  case h_1 sessionId hpc =>
    have hstep : s.watcher.step (.depth (s.pollReply sessionId fault) shmOpens mkdir) =
        s.watcher.onDepth sessionId (s.pollReply sessionId fault) shmOpens mkdir := by
      simp only [Watcher.step, hpc]
    dsimp only
    rw [hstep]
    have hidle : ∀ sessionId b, s.watcher.pc ≠ .saving sessionId b := by
      intro sessionId' b hb
      rw [hpc] at hb
      cases hb
    rcases s.watcher.onDepth_cases sessionId (s.pollReply sessionId fault) shmOpens mkdir with
      (he | he) | ⟨drpl, hreply, hcode, hid, hcases⟩
    · rw [he]
      exact h.goto _ hidle fun _ _ => rfl
    · rw [he]
      exact h.goto _ (fun _ _ hb => by cases hb) fun _ _ => rfl
    · have hdrpl : drpl = s.depthReply sessionId := by
        cases fault with
        | some st => cases hreply
        | none => exact (Option.some.inj (Except.ok.inj hreply)).symm
      subst hdrpl
      obtain ⟨hlatest, hkey, _⟩ := h.named fun hnone => hid hnone.1
      rw [hkey] at hcases
      rcases hcases with he | ⟨b, hbegins, hnew, he⟩
      · rw [he]
        refine h.goto _ ?_ fun hsaved _ => by rw [h.remembered hlatest hsaved]
        rw [Watcher.remembered_pc]
        exact hidle
      · -- The capture is not saved yet, or its id would be the one remembered.
        have hfresh : s.born ∉ s.saved := by
          intro hsaved
          rw [h.remembered hlatest hsaved, h.latest hsaved hlatest] at hnew
          exact UInt64.lt_irrefl _ hnew
        have hlt : ∀ n ∈ s.saved, n < s.born := by
          intro n hn
          exact Nat.lt_of_le_of_ne (h.le n hn) fun heq => hfresh (heq ▸ hn)
        rw [he]
        refine ⟨h.keyed, h.last, h.le, h.nodup, fun hsaved => absurd hsaved hfresh, ?_⟩
        intro sessionId' b' hb'
        obtain ⟨rfl, rfl⟩ := WatcherPc.saving.inj hb'
        obtain ⟨_, first, rest, hframes, _, rfl⟩ := hbegins
        refine ⟨?_, rfl, Nat.le_refl _, hlt, fun _ _ => hkey.symm⟩
        dsimp only
        rw [hframes]
        exact List.cons_ne_nil first rest

/-- A capture that is offered is saved exactly if its id is not the one remembered. -/
theorem poll_begins (h : s.Counted) {sessionId : String} {fault : Option GrpcStatus}
    {shmOpens mkdir : Bool} (ho : s.Offers sessionId fault shmOpens mkdir) :
    (∃ b, Watcher.Begins (s.depthReply sessionId) b ∧
        (s.onPoll fault shmOpens mkdir).watcher.pc = .saving sessionId b ∧
        (s.onPoll fault shmOpens mkdir).saving = s.born) ↔
      s.server.hub.store.latestClientCaptureId ≠ s.watcher.lastSavedCaptureId := by
  obtain ⟨hpc, rfl, hcode, hframes, rfl, rfl⟩ := ho
  have hlisted : ¬ ((s.depthReply sessionId).clientCaptureId = 0 ∧
      (s.depthReply sessionId).cameraRawFrames = []) := by
    rintro ⟨_, hnil⟩
    obtain ⟨first, rest, hlist, _⟩ := hframes
    rw [hnil] at hlist
    cases hlist
  obtain ⟨hlatest, hkey, _⟩ := h.named hlisted
  have hpoll : s.onPoll none true true =
      { s with
        watcher := s.watcher.onCapture sessionId (s.depthReply sessionId) true true
        saving := s.born } := by
    unfold onPoll
    rw [hpc]
    simp only [Watcher.step, hpc, pollReply, Watcher.onDepth, hcode, ne_eq, not_true, if_false]
  rw [← hkey] at hlatest ⊢
  rw [← Watcher.onCapture_begins hpc hlatest hframes, hpoll]
  constructor
  · rintro ⟨b, hbegins, hb, _⟩
    exact ⟨b, hbegins, hb⟩
  · rintro ⟨b, hbegins, hb⟩
    exact ⟨b, hbegins, hb, rfl⟩

/-- When all frames of a batch are in their files, its capture is booked. -/
theorem item_saved (h : s.Counted) (shm : Mapping) (io : FileIo) {sessionId : String} {b : Batch}
    (hpc : s.watcher.pc = .saving sessionId b) (hend : b.frames.length ≤ b.i)
    (hall : b.okN = b.frames.length) :
    b.files.length = b.frames.length ∧ s.saving ∈ (s.onItem shm io).saved := by
  obtain ⟨hframes, hfiles, _⟩ := h.batch sessionId b hpc
  refine ⟨hfiles.symm.trans hall, ?_⟩
  have hsome : ¬ (b.i < b.frames.length ∨ b.okN = 0) := by
    rw [hall, List.length_eq_zero_iff]
    exact fun hor => hor.elim (Nat.not_lt.mpr hend) hframes
  unfold onItem
  rw [hpc]
  dsimp only
  rw [if_neg hsome]
  exact List.mem_cons_self

theorem item (h : s.Counted) (shm : Mapping) (io : FileIo) : (s.onItem shm io).Counted := by
  unfold onItem
  split
  case h_2 => exact h
  case h_1 sessionId b hpc =>
    have hstep : s.watcher.step (.item shm io) = s.watcher.onItem sessionId b shm io := by
      simp only [Watcher.step, hpc]
    obtain ⟨hframes, hfiles, hle, hlt, hkey⟩ := h.batch sessionId b hpc
    rw [hstep]
    unfold Watcher.onItem
    by_cases hmore : b.i < b.frames.length
    · rw [if_pos hmore, if_pos (Or.inl hmore)]
      refine ⟨h.keyed, h.last, h.le, h.nodup, h.latest, fun sessionId' b' hb' => ?_⟩
      obtain ⟨rfl, rfl⟩ := WatcherPc.saving.inj hb'
      obtain ⟨hkey', _, hframes'⟩ := b.next_frame shm io
      refine ⟨?_, Batch.next_counts hfiles shm io, hle, hlt, fun heq hlatest => ?_⟩
      · rw [hframes']
        exact hframes
      · rw [hkey']
        exact hkey heq hlatest
    rw [if_neg hmore]
    have hidle : ∀ sessionId' b', (s.watcher.finish sessionId b).pc ≠ .saving sessionId' b' := by
      intro sessionId' b' hb'
      cases hb'
    by_cases hnone : b.okN = 0
    · rw [if_pos (Or.inr hnone)]
      refine h.goto s.saving hidle fun _ _ => ?_
      simp [Watcher.finish, hnone]
    · rw [if_neg fun hor => hor.elim hmore hnone]
      constructor
      case keyed => exact h.keyed
      case last => exact h.last
      case le =>
        intro n hn
        rcases List.mem_cons.mp hn with rfl | hn
        · exact hle
        · exact h.le n hn
      case nodup =>
        refine List.nodup_cons.mpr ⟨fun hmem => ?_, h.nodup⟩
        exact Nat.lt_irrefl _ (hlt _ hmem)
      case latest =>
        intro hsaved hlatest
        have hborn : s.saving = s.born := by
          rcases List.mem_cons.mp hsaved with heq | hmem
          · exact heq.symm
          · exact absurd (hlt _ hmem) (Nat.not_lt.mpr hle)
        show (s.watcher.finish sessionId b).lastSavedCaptureId = _
        rw [Watcher.finish, if_pos (Nat.pos_of_ne_zero hnone)]
        exact (hkey hborn hlatest).symm
      case batch =>
        intro sessionId' b' hb'
        exact absurd hb' (hidle sessionId' b')

end Counted

theorem onConnect_pc {w : Watcher} (hpc : w.pc = .connecting) (reply : Rpc (Option ConnectReply)) :
    (∀ sessionId b, (w.onConnect reply).pc ≠ .saving sessionId b) ∧
      (w.onConnect reply).lastSavedCaptureId = w.lastSavedCaptureId := by
  have hidle : ∀ sessionId b, w.pc ≠ .saving sessionId b := by
    intro sessionId b hb
    rw [hpc] at hb
    cases hb
  unfold Watcher.onConnect
  split
  · split_ifs
    · exact ⟨hidle, rfl⟩
    · exact ⟨fun _ _ hb => (by cases hb), rfl⟩
  · exact ⟨hidle, rfl⟩
  · exact ⟨hidle, rfl⟩

variable [ICameraAdapter α] [ICameraControls α] [ISerialPort π] [DecidableEq θ]

def step (s : Hubs α π θ) : HubsEvent α π θ → Hubs α π θ
  | .hub e =>
    match s.server.completed e with
    | none => { s with server := s.server.step e }
    | some pub =>
      { s with
        server := s.server.step e
        born := s.born + 1
        last := some { pub with clientCaptureId := s.server.hub.awaitingClientCaptureId } }
  | .restart prototypes port b cursor => { s with server := Server.booted prototypes port b cursor }
  | .connected reply => { s with watcher := s.watcher.step (.connected reply) }
  | .poll fault shmOpens mkdir => s.onPoll fault shmOpens mkdir
  | .item shm io => s.onItem shm io

def start (prototypes : AList fun _ : String => α) (port : π) (b : Boot) (cursor : θ → UInt32) :
    Hubs α π θ :=
  { server := Server.booted prototypes port b cursor }

/-- A capture that was not saved before is saved: a poll that offers it begins with all its frames,
and when they all are in their files, it is booked. And no capture is booked twice. -/
def SavesNew (s : Hubs α π θ) (e : HubsEvent α π θ) : Prop :=
  (s.step e).saved.Nodup ∧ match e with
    | .poll fault shmOpens mkdir => ∀ sessionId, s.Offers sessionId fault shmOpens mkdir →
      s.born ∉ s.saved → ∃ b, Watcher.Begins (s.depthReply sessionId) b ∧
        (s.step e).watcher.pc = .saving sessionId b ∧ (s.step e).saving = s.born
    | .item _ _ => ∀ sessionId b, s.watcher.pc = .saving sessionId b →
      b.frames.length ≤ b.i → b.okN = b.frames.length →
        b.files.length = b.frames.length ∧ s.saving ∈ (s.step e).saved
    | _ => True

/-- The id of a capture that is offered for the first time is not the one that the watcher remembers. -/
def OtherId (s : Hubs α π θ) : HubsEvent α π θ → Prop
  | .poll fault shmOpens mkdir => ∀ sessionId, s.Offers sessionId fault shmOpens mkdir →
    s.born ∉ s.saved → s.server.hub.store.latestClientCaptureId ≠ s.watcher.lastSavedCaptureId
  | _ => True

theorem Counted.hub {s : Hubs α π θ} (h : s.Counted) (e : ServerEvent α π θ) : (s.step (.hub e)).Counted := by
  dsimp only [Hubs.step]
  rcases s.server.step_store e with ⟨pub, hcompleted, hstore⟩ | ⟨hcompleted, hstore | hstore⟩
  · rw [hcompleted]
    have hborn : s.born + 1 ∉ s.saved := by
      intro hmem
      have hle := h.le _ hmem
      omega
    constructor
    case keyed =>
      dsimp only
      rw [hstore]
      exact h.keyed.remember _ pub
    case last =>
      intro pub' hpub'
      dsimp only at hpub'
      rw [hstore] at hpub'
      rcases PublicationStore.lookup_remember hpub' with ⟨_, rfl⟩ | ⟨hne, _⟩
      · rfl
      · exact absurd rfl hne
    case le =>
      intro n hn
      exact Nat.le_succ_of_le (h.le n hn)
    case nodup => exact h.nodup
    case latest =>
      intro hmem
      exact absurd hmem hborn
    case batch =>
      intro sessionId b hpc
      obtain ⟨hframes, hfiles, hle, hlt, _⟩ := h.batch sessionId b hpc
      refine ⟨hframes, hfiles, Nat.le_succ_of_le hle, hlt, fun heq => ?_⟩
      dsimp only at heq
      omega
  · rw [hcompleted]
    constructor
    case keyed =>
      dsimp only
      rw [hstore]
      exact h.keyed
    case last =>
      dsimp only
      rw [hstore]
      exact h.last
    case le => exact h.le
    case nodup => exact h.nodup
    case latest =>
      dsimp only
      rw [hstore]
      exact h.latest
    case batch =>
      dsimp only
      rw [hstore]
      exact h.batch
  · rw [hcompleted]
    exact h.emptied hstore

theorem Counted.step {s : Hubs α π θ} (h : s.Counted) (e : HubsEvent α π θ) : (s.step e).Counted := by
  cases e with
  | hub e => exact h.hub e
  | restart prototypes port b cursor => exact h.emptied (Service.boot_unused prototypes port b).store
  | poll fault shmOpens mkdir => exact h.poll fault shmOpens mkdir
  | item shm io => exact h.item shm io
  | connected reply =>
    dsimp only [Hubs.step, Watcher.step]
    split
    case h_1 hpc =>
      obtain ⟨hidle, hlast⟩ := onConnect_pc hpc reply
      exact h.goto s.saving hidle fun _ _ => hlast
    case h_2 => exact h

theorem Counted.savesNew_iff {s : Hubs α π θ} (h : s.Counted) (e : HubsEvent α π θ) :
    s.SavesNew e ↔ s.OtherId e := by
  have hnodup := (h.step e).nodup
  cases e with
  | hub e => exact ⟨fun _ => trivial, fun _ => ⟨hnodup, trivial⟩⟩
  | restart => exact ⟨fun _ => trivial, fun _ => ⟨hnodup, trivial⟩⟩
  | connected reply => exact ⟨fun _ => trivial, fun _ => ⟨hnodup, trivial⟩⟩
  | item shm io =>
    refine ⟨fun _ => trivial, fun _ => ⟨hnodup, fun sessionId b hpc hend hall => ?_⟩⟩
    exact h.item_saved shm io hpc hend hall
  | poll fault shmOpens mkdir =>
    constructor
    · intro hsaves sessionId ho hnew
      exact (h.poll_begins ho).mp (hsaves.2 sessionId ho hnew)
    · intro hother
      exact ⟨hnodup, fun sessionId ho hnew => (h.poll_begins ho).mpr (hother sessionId ho hnew)⟩

omit [ICameraControls α] [DecidableEq θ] in
theorem start_counted (prototypes : AList fun _ : String => α) (port : π) (b : Boot)
    (cursor : θ → UInt32) : (start prototypes port b cursor).Counted := by
  have hstore : (Server.booted prototypes port b cursor).hub.store = {} :=
    (Service.boot_unused prototypes port b).store
  constructor
  case keyed =>
    show (Server.booted prototypes port b cursor).hub.store.Keyed
    rw [hstore]
    exact PublicationStore.keyed_empty
  case last =>
    show ∀ pub, (Server.booted prototypes port b cursor).hub.store.publications.lookup
      (Server.booted prototypes port b cursor).hub.store.latestClientCaptureId = some pub → _
    rw [hstore]
    intro pub hpub
    cases hpub
  case le =>
    intro n hn
    cases hn
  case nodup => exact List.nodup_nil
  case latest =>
    intro hn
    cases hn
  case batch =>
    intro sessionId b hb
    cases hb

/-- The watcher saves each new capture once, in exactly the runs in which no new capture that it is
offered has the id it remembers. -/
theorem along_savesNew_iff (prototypes : AList fun _ : String => α) (port : π) (b : Boot)
    (cursor : θ → UInt32) (es : List (HubsEvent α π θ)) :
    Along step SavesNew (start prototypes port b cursor) es ↔
      Along step OtherId (start prototypes port b cursor) es :=
  along_congr (I := fun s : Hubs α π θ => s.Counted) (fun _ e h => h.step e)
    (fun _ e h => h.savesNew_iff e) (start_counted prototypes port b cursor) es

section Bench

/-- The first capture of a client process, which asks for the id 1. -/
def firstOfClient : List (HubsEvent ReadyCamera EchoPort Bool) :=
  let frame : Event ReadyCamera EchoPort Bool :=
    .cameraFrame true "cam-1" { bytes := [7], width := 1, height := 1 }
  (World.captureEvents { sessionId := "cam-1", async := true, clientCaptureId := 1 } ++ [frame]).map
    fun e => .hub (.world e)

/-- The watcher saves that capture; then the hub and its client are started again. -/
def restarted : List (HubsEvent ReadyCamera EchoPort Bool) :=
  firstOfClient ++ [.connected (.ok (some ⟨⟨0, ""⟩, "cam-1"⟩)), .poll none true true, .item zeroed {},
    .item zeroed {}, .item zeroed {}, .restart (AList.singleton "daheng" {}) {}
      (.started oneCamera (.mapped zeroed)) fun _ => 0] ++ firstOfClient

def afterRestart : Hubs ReadyCamera EchoPort Bool :=
  run step (start (AList.singleton "daheng" {}) {} (.started oneCamera (.mapped zeroed)) fun _ => 0)
    restarted

/-- The second capture has the id 1 again, and the watcher takes it for the one that it has saved. -/
theorem id_comes_again :
    ¬ ∀ (prototypes : AList fun _ : String => ReadyCamera) (port : EchoPort) b (cursor : Bool → UInt32)
      es, Along step SavesNew (start prototypes port b cursor) es := by
  intro hall
  obtain ⟨_, ⟨_, hpoll⟩, _⟩ := (along_append step SavesNew _ _ _).mp
    (hall (AList.singleton "daheng" {}) {} (.started oneCamera (.mapped zeroed)) (fun _ => 0)
      (restarted ++ [.poll none true true]))
  have hbooked : afterRestart.born = 2 ∧ afterRestart.saved = [1] := by decide +kernel
  have hpc : afterRestart.watcher.pc = .polling "cam-1" := by decide +kernel
  have hcode : (afterRestart.depthReply "cam-1").status.code = 0 := by decide +kernel
  have hregion : (afterRestart.depthReply "cam-1").cameraRawFrames.map (·.frame.regionName) =
      ["camera3d_hub_ring"] := by decide +kernel
  have hstays : (afterRestart.onPoll none true true).watcher.pc = .polling "cam-1" := by decide +kernel
  obtain ⟨first, rest, hframes⟩ := List.exists_cons_of_ne_nil (l :=
    (afterRestart.depthReply "cam-1").cameraRawFrames) (by
      intro hnil
      rw [hnil] at hregion
      cases hregion)
  rw [hframes, List.map_cons] at hregion
  have hname : first.frame.regionName ≠ "" := by
    rw [(List.cons.inj hregion).1]
    decide
  obtain ⟨b, _, hb, _⟩ := hpoll "cam-1" ⟨hpc, rfl, hcode, ⟨first, rest, hframes, hname⟩, rfl, rfl⟩ (by
    change afterRestart.born ∉ afterRestart.saved
    rw [hbooked.1, hbooked.2]
    decide)
  cases hstays.symm.trans hb

end Bench

end Hubs
end Camera3D.Recon
