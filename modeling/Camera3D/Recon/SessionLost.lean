import Camera3D.Hub.Gate
import Camera3D.Recon.Newness

/-! The burst watcher after the hub has lost its session: which refusals make it connect again. -/
namespace Camera3D.Recon
open Camera Serial Grpc Hub Ipc Transition HubServiceStateCode

namespace Hubs
variable {α π θ : Type*}

/-- The hub has no session, or another one. -/
def Unrecognised (s : Hubs α π θ) (sessionId : String) : Prop :=
  s.server.hub.sessionId = "" ∨ s.server.hub.sessionId ≠ sessionId

/-- The status that a `GetDepth` with an unrecognised session gets: the runtime state of a hub that is
not ready, 1011 without a session, or else 3. -/
theorem refusal {s : Hubs α π θ} {sessionId : String} (h : s.Unrecognised sessionId) :
    s.depthReply sessionId = { status :=
      if s.server.hub.hubRuntime.code ≠ kReady then s.server.hub.hubRuntime
      else if s.server.hub.sessionId = "" then
        ⟨kSessionNotEstablished, "call Connect to establish session with hub"⟩
      else ⟨3, ""⟩ } := by
  have hun : s.server.hub.sessionId = "" ∨ sessionId ≠ s.server.hub.sessionId :=
    h.imp_right fun hne => hne.symm
  unfold depthReply
  rw [State.getDepth_of_unrecognised hun]
  unfold State.refusal State.fillUnifiedGateLocked
  split_ifs
  · rfl
  · rfl
  · rfl

/-- The watcher connects again after code 3, and not after another code. -/
theorem onDepth_refused {w : Watcher} {sessionId : String} (hpc : w.pc = .polling sessionId)
    {status : Status} (hcode : status.code ≠ 0) (shmOpens mkdir : Bool) :
    (w.onDepth sessionId (.ok (some { status })) shmOpens mkdir).pc = .connecting ↔ status.code = 3 := by
  unfold Watcher.onDepth
  dsimp only
  rw [if_pos hcode]
  split_ifs with height hthree
  · refine iff_of_false ?_ ?_
    · rw [hpc]
      exact WatcherPc.noConfusion
    · rw [height]
      decide
  · exact iff_of_true rfl hthree
  · refine iff_of_false ?_ hthree
    rw [hpc]
    exact WatcherPc.noConfusion

variable [ICameraAdapter α] [ICameraControls α] [ISerialPort π] [DecidableEq θ]

/-- A poll that is refused because its session is unknown ends in front of `Connect`, and there the
watcher stays until it has called it. -/
def Reconnects (s : Hubs α π θ) (e : HubsEvent α π θ) : Prop :=
  (s.watcher.pc = .connecting → (∀ reply, e ≠ .connected reply) →
    (s.step e).watcher.pc = .connecting) ∧ match e with
    | .poll fault _ _ => ∀ sessionId, s.watcher.pc = .polling sessionId → fault = none →
      s.Unrecognised sessionId → (s.step e).watcher.pc = .connecting
    | _ => True

/-- A poll with an unknown session meets a hub that is ready, with a session of its own. -/
def MeetsSession (s : Hubs α π θ) : HubsEvent α π θ → Prop
  | .poll fault _ _ => ∀ sessionId, s.watcher.pc = .polling sessionId → fault = none →
    s.Unrecognised sessionId → s.server.hub.hubRuntime.code = kReady ∧ s.server.hub.sessionId ≠ ""
  | _ => True

theorem connecting_step {s : Hubs α π θ} (hpc : s.watcher.pc = .connecting) {e : HubsEvent α π θ}
    (hne : ∀ reply, e ≠ .connected reply) : (s.step e).watcher.pc = .connecting := by
  cases e with
  | hub e =>
    dsimp only [step]
    cases s.server.completed e with
    | none => exact hpc
    | some pub => exact hpc
  | restart prototypes port b cursor => exact hpc
  | connected reply => exact absurd rfl (hne reply)
  | poll fault shmOpens mkdir =>
    show (s.onPoll fault shmOpens mkdir).watcher.pc = .connecting
    unfold onPoll
    rw [hpc]
    exact hpc
  | item shm io =>
    show (s.onItem shm io).watcher.pc = .connecting
    unfold onItem
    rw [hpc]
    exact hpc

omit [ICameraAdapter α] [ICameraControls α] [ISerialPort π] [DecidableEq θ] in
theorem onPoll_refused {s : Hubs α π θ} (hthree : s.server.hub.hubRuntime.code ≠ 3) {sessionId : String}
    (hpc : s.watcher.pc = .polling sessionId) (hun : s.Unrecognised sessionId) (shmOpens mkdir : Bool) :
    (s.onPoll none shmOpens mkdir).watcher.pc = .connecting ↔
      s.server.hub.hubRuntime.code = kReady ∧ s.server.hub.sessionId ≠ "" := by
  have hpoll : (s.onPoll none shmOpens mkdir).watcher =
      s.watcher.onDepth sessionId (.ok (some (s.depthReply sessionId))) shmOpens mkdir := by
    unfold onPoll
    rw [hpc]
    simp only [Watcher.step, hpc, pollReply]
  rw [hpoll, refusal hun]
  by_cases hready : s.server.hub.hubRuntime.code ≠ kReady
  · rw [if_pos hready, onDepth_refused hpc hready]
    exact iff_of_false hthree fun h => hready h.1
  rw [if_neg hready]
  by_cases hnone : s.server.hub.sessionId = ""
  · rw [if_pos hnone, onDepth_refused hpc (by decide)]
    exact iff_of_false (by decide) fun h => h.2 hnone
  · rw [if_neg hnone, onDepth_refused hpc (by decide)]
    exact iff_of_true rfl ⟨not_not.mp hready, hnone⟩

theorem reconnects_iff {s : Hubs α π θ} (h : s.server.Reachable) (e : HubsEvent α π θ) :
    s.Reconnects e ↔ s.MeetsSession e := by
  have hstays := fun hpc hne => connecting_step (s := s) (e := e) hpc hne
  have hthree : s.server.hub.hubRuntime.code ≠ 3 := by
    intro heq
    have hmem := h.runtime
    rw [heq] at hmem
    revert hmem
    decide
  cases e with
  | poll fault shmOpens mkdir =>
    constructor
    · rintro ⟨_, hrec⟩ sessionId hpc rfl hun
      exact (onPoll_refused hthree hpc hun shmOpens mkdir).mp (hrec sessionId hpc rfl hun)
    · intro hmeets
      refine ⟨hstays, ?_⟩
      rintro sessionId hpc rfl hun
      exact (onPoll_refused hthree hpc hun shmOpens mkdir).mpr (hmeets sessionId hpc rfl hun)
  | hub | restart | connected | item => exact ⟨fun _ => trivial, fun _ => ⟨hstays, trivial⟩⟩

theorem step_reachable {s : Hubs α π θ} (h : s.server.Reachable) (e : HubsEvent α π θ) :
    (s.step e).server.Reachable := by
  cases e with
  | hub e =>
    have hstep : (s.server.step e).Reachable := h.next e
    dsimp only [step]
    cases s.server.completed e with
    | none => exact hstep
    | some pub => exact hstep
  | restart prototypes port b cursor => exact ⟨prototypes, port, b, cursor, [], rfl⟩
  | connected reply => exact h
  | poll fault shmOpens mkdir =>
    show (s.onPoll fault shmOpens mkdir).server.Reachable
    unfold onPoll
    split
    · exact h
    · exact h
  | item shm io =>
    show (s.onItem shm io).server.Reachable
    unfold onItem
    split
    · exact h
    · exact h

/-- The watcher connects again after every refusal of its session, in exactly the runs in which each
such refusal comes from a hub that is ready and has a session. -/
theorem along_reconnects_iff (prototypes : AList fun _ : String => α) (port : π) (b : Boot)
    (cursor : θ → UInt32) (es : List (HubsEvent α π θ)) :
    Along step Reconnects (start prototypes port b cursor) es ↔
      Along step MeetsSession (start prototypes port b cursor) es :=
  along_congr (I := fun s : Hubs α π θ => s.server.Reachable) (fun _ e h => step_reachable h e)
    (fun _ e h => reconnects_iff h e) ⟨prototypes, port, b, cursor, [], rfl⟩ es

section Bench

/-- A client of the bench disconnects while the watcher polls with the same session. -/
def disconnected : List (HubsEvent ReadyCamera EchoPort Bool) :=
  [.connected (.ok (some ⟨⟨0, ""⟩, "cam-1"⟩)), .hub (.world (.call 0 (.disconnect "cam-1"))),
    .hub (.world (.step 0))]

def afterDisconnect : Hubs ReadyCamera EchoPort Bool :=
  run step (start (AList.singleton "daheng" {}) {} (.started oneCamera (.mapped zeroed)) fun _ => 0)
    disconnected

/-- The hub asks for `Connect` with the code 1011, and the watcher polls on. -/
theorem polls_on_without_session :
    ¬ ∀ (prototypes : AList fun _ : String => ReadyCamera) (port : EchoPort) b (cursor : Bool → UInt32)
      es, Along step Reconnects (start prototypes port b cursor) es := by
  intro hall
  obtain ⟨_, ⟨_, hpoll⟩, _⟩ := (along_append step Reconnects _ _ _).mp
    (hall (AList.singleton "daheng" {}) {} (.started oneCamera (.mapped zeroed)) (fun _ => 0)
      (disconnected ++ [.poll none true true]))
  have hpc : afterDisconnect.watcher.pc = .polling "cam-1" := by decide +kernel
  have hnone : afterDisconnect.server.hub.sessionId = "" := by decide +kernel
  have hstays : (afterDisconnect.onPoll none true true).watcher.pc = .polling "cam-1" := by decide +kernel
  have hconnecting := hpoll "cam-1" hpc rfl (.inl hnone)
  cases hstays.symm.trans hconnecting

end Bench

end Hubs
end Camera3D.Recon
