import Camera3D.Recon.Loopback

/-! What `ProcessHubRaw` saves is what was published under the number it checked, as long as nobody
writes the slot between the check and the use of the payload. -/
namespace Camera3D.Recon
open Grpc Hub Ipc Transition

variable {ι θ : Type*}

theorem HubRawFrameRef.Published.mono {fr : HubRawFrameRef} {hub : ι} {log log' : List (Logged ι θ)}
    {bytes : List UInt8} (h : fr.Published hub log bytes) (hlog : log ⊆ log') :
    fr.Published hub log' bytes := by
  obtain ⟨c, hmem, hring, hbytes⟩ := h
  exact ⟨c, hlog hmem, hring, hbytes⟩

/-- A slot that passes the check holds a payload published under the item's number. -/
theorem HubRawFrameRef.check_ok [DecidableEq ι] {fr : HubRawFrameRef} {w : Writers ι θ} {log : List (Logged ι θ)} {hub : ι}
    (hf : w.Follows log hub) {place : String} {v : SlotView}
    (h : fr.check (w.rings hub) place = .ok v) :
    (w.rings hub).InPayload fr.hubSlotIndex v.outPayload v.outPayloadLen ∧ fr.Published hub log
      (Memory.read (w.rings hub).bytes v.outPayload.toNat v.outPayloadLen.toNat) := by
  unfold HubRawFrameRef.check at h
  cases hread : (w.rings hub).tryReadSlot fr.hubSlotIndex with
  | none =>
    rw [hread] at h
    cases h
  | some v' =>
    rw [hread] at h
    dsimp only at h
    split_ifs at h with hseq
    obtain rfl := Except.ok.inj h
    obtain ⟨hin, c, hmem, hring, hbytes⟩ := hf.tryReadSlot hread
    rw [not_not.mp hseq] at hmem
    exact ⟨hin, c, hmem, hring, hbytes⟩

namespace Process

/-- The payload the call will read, if it holds one. -/
def view (p : Process ι θ) : Option SlotView :=
  match p.pc with
  | .saving _ held => some held
  | .openingEcho held => some held
  | .writingEcho held => some held
  | _ => none

/-- What the call has saved so far was published, and so is what it holds. -/
structure Saves (request : ProcessHubRawRequest) (hub : ι) (rings : ι → Mapping)
    (log : List (Logged ι θ)) (p : Process ι θ) : Prop where
  request_eq : p.request = request
  hub_eq : p.hub = hub
  held : ∀ v, p.view = some v → ∃ fr, p.held = some fr ∧
    (rings hub).InPayload fr.hubSlotIndex v.outPayload v.outPayloadLen ∧
    fr.Published hub log (Memory.read (rings hub).bytes v.outPayload.toNat v.outPayloadLen.toNat)
  files : ∀ f ∈ p.files, ∃ fr, request.items[f.index]? = some fr ∧ f.cameraIndex = fr.cameraIndex ∧
    f.burstFrameIndex = fr.burstFrameIndex ∧ fr.Published hub log f.content
  echoed : ∀ bytes, p.echoed = some bytes →
    ∃ fr, request.items[0]? = some fr ∧ fr.Published hub log bytes

namespace Saves
variable {request : ProcessHubRawRequest} {hub : ι} {w : Writers ι θ} {log : List (Logged ι θ)}
  {p : Process ι θ}

/-- The call goes on without a payload in hand. -/
theorem goto (h : Saves request hub w.rings log p) {pc : ProcessPc}
    (hpc : ({ p with pc } : Process ι θ).view = none) : Saves request hub w.rings log { p with pc } := by
  refine ⟨h.request_eq, h.hub_eq, fun v hv => ?_, h.files, h.echoed⟩
  rw [hpc] at hv
  cases hv

theorem reply (h : Saves request hub w.rings log p) (code : Int32) (message : String) :
    Saves request hub w.rings log (p.reply code message) := h.goto rfl

/-- The call goes on with the payload that it has just checked. -/
theorem hold [DecidableEq ι] (h : Saves request hub w.rings log p) (hf : w.Follows log hub) {pc : ProcessPc}
    {fr : HubRawFrameRef} {place : String} {v : SlotView}
    (hcheck : fr.check (w.rings p.hub) place = .ok v)
    (hview : ({ p with pc } : Process ι θ).view = some v)
    (hheld : ({ p with pc } : Process ι θ).held = some fr) :
    Saves request hub w.rings log { p with pc } := by
  refine ⟨h.request_eq, h.hub_eq, fun v' hv => ?_, h.files, h.echoed⟩
  obtain rfl := Option.some.inj (hview.symm.trans hv)
  rw [h.hub_eq] at hcheck
  exact ⟨fr, hheld, fr.check_ok hf hcheck⟩

theorem onCheck [DecidableEq ι] (h : Saves request hub w.rings log p) (hf : w.Follows log hub) (i : ℕ) :
    Saves request hub w.rings log (p.onCheck w.rings i) := by
  unfold Process.onCheck
  cases hitem : p.request.items[i]? with
  | none => exact h
  | some fr =>
    dsimp only
    generalize hplace : (if p.burst = true then " at burst item " ++ toString i else "") = place
    cases hcheck : fr.check (w.rings p.hub) place with
    | error reply => exact h.goto rfl
    | ok v => exact h.hold hf hcheck rfl hitem

theorem onCheckFirst [DecidableEq ι] (h : Saves request hub w.rings log p) (hf : w.Follows log hub) :
    Saves request hub w.rings log (p.onCheckFirst w.rings) := by
  unfold Process.onCheckFirst
  cases hitem : p.request.items[0]? with
  | none => exact h
  | some fr =>
    dsimp only
    cases hcheck : fr.check (w.rings p.hub) " for echo (first slot)" with
    | error reply => exact h.goto rfl
    | ok v => exact h.hold hf hcheck rfl hitem

theorem save (h : Saves request hub w.rings log p) {i : ℕ} {v : SlotView} (hpc : p.pc = .saving i v)
    {fr : HubRawFrameRef} (hitem : p.request.items[i]? = some fr) :
    Saves request hub w.rings log (p.save w.rings i fr v) := by
  refine ⟨h.request_eq, h.hub_eq, h.held, fun f hmem => ?_, h.echoed⟩
  rcases List.mem_cons.mp hmem with rfl | hmem
  · have hview : p.view = some v := by rw [view, hpc]
    have hheld : p.held = some fr := by
      rw [Process.held, hpc]
      exact hitem
    obtain ⟨fr', hfr', _, hpublished⟩ := h.held v hview
    obtain rfl := Option.some.inj (hheld.symm.trans hfr')
    rw [h.request_eq] at hitem
    refine ⟨fr, hitem, rfl, rfl, ?_⟩
    show fr.Published hub log (p.payload w.rings v)
    rw [payload, h.hub_eq]
    exact hpublished
  · exact h.files f hmem

/-- A call that is not a burst has one item only. -/
theorem index_of_single {i : ℕ} (hburst : ¬ p.burst = true) {fr : HubRawFrameRef}
    (hitem : p.request.items[i]? = some fr) : i = 0 := by
  unfold Process.burst at hburst
  simp only [decide_eq_true_eq, ne_eq, not_not] at hburst
  unfold ProcessHubRawRequest.items at hitem
  rw [if_pos hburst] at hitem
  obtain ⟨hlt, _⟩ := List.getElem?_eq_some_iff.mp hitem
  exact Nat.lt_one_iff.mp hlt

theorem onFile (h : Saves request hub w.rings log p) {i : ℕ} {v : SlotView} (hpc : p.pc = .saving i v)
    (path : String) (io : FileIo) : Saves request hub w.rings log (p.onFile w.rings i v path io) := by
  unfold Process.onFile
  cases hitem : p.request.items[i]? with
  | none => exact h
  | some fr =>
    have hsaved := h.save hpc hitem
    dsimp only
    split_ifs with hburst
    · exact h.reply _ _
    · exact h.reply _ _
    · exact hsaved.goto rfl
    · exact hsaved.goto rfl
    · exact h.reply _ _
    · -- The single slot is not checked again: the echo takes the payload that the file got.
      have hzero := index_of_single hburst hitem
      subst hzero
      refine ⟨h.request_eq, h.hub_eq, fun v' hv => ?_, hsaved.files, h.echoed⟩
      obtain rfl := Option.some.inj hv
      have hview : p.view = some v := by rw [view, hpc]
      obtain ⟨fr', hheld, hrest⟩ := h.held v hview
      rw [Process.held, hpc] at hheld
      exact ⟨fr', hheld, hrest⟩

theorem onHubReply (h : Saves request hub w.rings log p) (reply : Rpc (Option Status)) :
    Saves request hub w.rings log (p.onHubReply reply) := by
  unfold Process.onHubReply
  split
  · exact h.reply _ _
  · exact h.reply _ _
  · split_ifs
    · exact h.reply _ _
    · exact h.reply _ _

theorem onReadBack (h : Saves request hub w.rings log p) (echoSeq : UInt64) (echoSlot : UInt32) :
    Saves request hub w.rings log (p.onReadBack w.rings echoSeq echoSlot) := by
  unfold Process.onReadBack
  cases (w.rings p.echo).tryReadSlot echoSlot with
  | none => exact h.reply _ _
  | some v => exact h.goto rfl

theorem step [DecidableEq ι] (h : Saves request hub w.rings log p) (hf : w.Follows log hub) (input : ProcessInput) :
    Saves request hub w.rings log (p.step w.rings input) := by
  unfold Process.step
  split
  case h_1 hpc =>
    split_ifs
    · exact h.reply _ _
    · exact h.goto rfl
    · exact h.goto rfl
  case h_2 error hpc =>
    cases error with
    | some what => exact h.reply _ _
    | none => exact h.goto rfl
  case h_3 i hpc => exact h.onCheck hf i
  case h_4 i v path io hpc => exact h.onFile hpc path io
  case h_5 hpc => exact h.onCheckFirst hf
  case h_6 v ok hpc =>
    split_ifs
    · exact h.reply _ _
    · refine ⟨h.request_eq, h.hub_eq, fun v' hv => ?_, h.files, h.echoed⟩
      obtain rfl := Option.some.inj hv
      have hview : p.view = some v := by rw [view, hpc]
      obtain ⟨fr, hheld, hrest⟩ := h.held v hview
      rw [Process.held, hpc] at hheld
      exact ⟨fr, hheld, hrest⟩
  case h_7 echoSeq echoSlot hpc => exact h.onReadBack echoSeq echoSlot
  case h_8 reply hpc => exact h.onHubReply reply
  case h_9 => exact h

/-- A write that leaves the slot of the held item alone. -/
theorem write [DecidableEq ι] [DecidableEq θ] (h : Saves request hub w.rings log p) (hf : w.Follows log hub)
    {c : Call ι θ} (hc : ∀ fr ∈ p.held, w.Leaves c p.hub fr.hubSlotIndex) :
    Saves request hub (w.step c).rings (log ++ [(c, (w.result c).published)]) p := by
  have hlog := List.subset_append_left log [(c, (w.result c).published)]
  refine ⟨h.request_eq, h.hub_eq, fun v hv => ?_, fun f hmem => ?_, fun bytes he => ?_⟩
  · obtain ⟨fr, hheld, hin, hpublished⟩ := h.held v hv
    have hleaves := hc fr hheld
    rw [h.hub_eq] at hleaves
    refine ⟨fr, hheld, Writers.step_inPayload c hf.wellFormed hin, ?_⟩
    rw [Writers.step_read hf.wellFormed hin hleaves]
    exact hpublished.mono hlog
  · obtain ⟨fr, hitem, hcamera, hframe, hpublished⟩ := h.files f hmem
    exact ⟨fr, hitem, hcamera, hframe, hpublished.mono hlog⟩
  · obtain ⟨fr, hitem, hpublished⟩ := h.echoed bytes he
    exact ⟨fr, hitem, hpublished.mono hlog⟩

/-- The payload that the call holds goes into the echo ring. -/
theorem onEchoed (h : Saves request hub w.rings log p) {v : SlotView} (hpc : p.pc = .writingEcho v)
    {log' : List (Logged ι θ)} (hlog : log ⊆ log') {rings : ι → Mapping}
    (published : Option (UInt64 × UInt32)) :
    Saves request hub rings log' (p.onEchoed (p.payload w.rings v) published) := by
  have hview : p.view = some v := by rw [view, hpc]
  obtain ⟨fr, hheld, _, hpublished⟩ := h.held v hview
  rw [Process.held, hpc] at hheld
  have hfiles : ∀ f ∈ p.files, ∃ fr, request.items[f.index]? = some fr ∧ f.cameraIndex = fr.cameraIndex ∧
      f.burstFrameIndex = fr.burstFrameIndex ∧ fr.Published hub log' f.content := by
    intro f hmem
    obtain ⟨fr, hitem, hcamera, hframe, hpublished⟩ := h.files f hmem
    exact ⟨fr, hitem, hcamera, hframe, hpublished.mono hlog⟩
  cases published with
  | none =>
    refine ⟨h.request_eq, h.hub_eq, fun v' hv => (by cases hv), hfiles, fun bytes he => ?_⟩
    obtain ⟨fr, hitem, hpublished⟩ := h.echoed bytes he
    exact ⟨fr, hitem, hpublished.mono hlog⟩
  | some published =>
    refine ⟨h.request_eq, h.hub_eq, fun v' hv => (by cases hv), hfiles, fun bytes he => ?_⟩
    obtain rfl := Option.some.inj he
    refine ⟨fr, ?_, ?_⟩
    · rw [← h.request_eq]
      exact hheld
    · rw [payload, h.hub_eq]
      exact hpublished.mono hlog

end Saves
end Process

namespace Loopback
variable [DecidableEq ι] [DecidableEq θ] {request : ProcessHubRawRequest} {hub : ι}

/-- The log has every write to the hub's ring, and what the call has saved was published. -/
structure Saving (request : ProcessHubRawRequest) (hub : ι) (t : Loopback ι θ) : Prop where
  follows : t.writers.Follows t.log hub
  saves : t.process.Saves request hub t.writers.rings t.log

theorem Saving.next {t : Loopback ι θ} (h : t.Saving request hub) {e : LoopbackEvent ι θ}
    (hspares : t.Spares e) : (t.step e).Saving request hub := by
  obtain ⟨hf, hs⟩ := h
  cases e with
  | write c => exact ⟨hf.step c, hs.write hf hspares⟩
  | process input =>
    unfold step
    split
    case h_1 => contradiction
    case h_2 =>
      split
      case h_1 v _ hpc _ =>
        exact ⟨hf.step _, hs.onEchoed hpc (List.subset_append_left _ _) _⟩
      case h_2 => exact ⟨hf, hs.step hf _⟩

/-- While nobody writes a slot between its check and the use of its payload, every file and the echo
have the payload that was published under the number of their item. -/
theorem saved_published {w : Writers ι θ} (hhub : (w.rings hub).Created) (request : ProcessHubRawRequest)
    (thread : θ) (echo : ι) {es : List (LoopbackEvent ι θ)}
    (hspares : Along step Spares ⟨w, { request, thread, hub, echo }, []⟩ es) {t : Loopback ι θ}
    (ht : t = run step ⟨w, { request, thread, hub, echo }, []⟩ es) :
    (∀ f ∈ t.process.files, ∃ fr, request.items[f.index]? = some fr ∧ f.cameraIndex = fr.cameraIndex ∧
        f.burstFrameIndex = fr.burstFrameIndex ∧ fr.Published hub t.log f.content) ∧
      ∀ bytes, t.process.echoed = some bytes →
        ∃ fr, request.items[0]? = some fr ∧ fr.Published hub t.log bytes := by
  have hstart : Process.Saves request hub w.rings [] ({ request, thread, hub, echo } : Process ι θ) :=
    ⟨rfl, rfl, fun v hv => (by cases hv), fun f hmem => (by cases hmem), fun bytes he => (by cases he)⟩
  have hend := run_invariant_along (fun t e he (h : t.Saving request hub) => h.next he) hspares
    ⟨Writers.follows_created hhub, hstart⟩
  rw [← ht] at hend
  exact ⟨hend.saves.files, hend.saves.echoed⟩

section Bench

/-- Two rings as `CreateOrOpen` leaves them: the hub's (`false`) and the echo ring (`true`). -/
def newRings : Writers Bool (Option Bool) where
  rings _ := zeroed.initialise
  cursor _ := 0

theorem newRings_created (ring : Bool) : (newRings.rings ring).Created :=
  Mapping.initialise_created (by decide)

/-- The frame of a first capture, in slot 0 under the number 1. -/
def firstRaw : ProcessHubRawRequest where
  hubRawFrames := [⟨0, 1, 0, 0⟩]

/-- The hub writes two frames on the threads `true` and `second`, the latter while `ProcessHubRaw` is
between the check of its item and the file. -/
def raced (second : Bool) : List (LoopbackEvent Bool (Option Bool)) :=
  [.write ⟨false, some true, ⟨[1], 1, 1, 0⟩⟩, .process (.opens true), .process (.mkdir none),
    .process .ring, .write ⟨false, some second, ⟨[2], 1, 1, 0⟩⟩, .process (.file "raw.bin" {}),
    .process .ring, .process (.opens true), .process .ring, .process .ring,
    .process (.hubReply (.ok (some ⟨0, ""⟩)))]

/-- The loopback test of the bench, from the creation of the rings on. -/
def afterRace (second : Bool) : Loopback Bool (Option Bool) :=
  run step ⟨newRings, ⟨firstRaw, none, false, true, .openingHub, [], none⟩, []⟩ (raced second)

/-- The second frame of the same thread goes into the next slot. -/
theorem saved_published_bench :
    (afterRace true).process.pc = .done ⟨0, ""⟩ ∧
      (afterRace true).process.files = [⟨0, 0, 0, [1]⟩] ∧ (afterRace true).process.echoed = some [1] ∧
      ∃ fr, firstRaw.items[0]? = some fr ∧ fr.Published false (afterRace true).log [1] := by
  have hechoed : (afterRace true).process.echoed = some [1] := by decide +kernel
  refine ⟨by decide +kernel, by decide +kernel, hechoed, ?_⟩
  exact (saved_published (newRings_created false) firstRaw none true (by decide +kernel) rfl).2 [1] hechoed

/-- Another thread of the hub takes slot 0 again: the file of the item gets the second frame. -/
theorem saved_of_other_capture :
    ¬ ∀ (w : Writers Bool (Option Bool)) request thread hub echo es, (w.rings hub).Created →
      ∀ t, t = run step ⟨w, ⟨request, thread, hub, echo, .openingHub, [], none⟩, []⟩ es →
      (∀ f ∈ t.process.files, ∃ fr, request.items[f.index]? = some fr ∧
          fr.Published hub t.log f.content) ∧
        ∀ bytes, t.process.echoed = some bytes →
          ∃ fr, request.items[0]? = some fr ∧ fr.Published hub t.log bytes := by
  intro hall
  have hfile : (⟨0, 0, 0, [2]⟩ : SavedRaw) ∈ (afterRace false).process.files := by decide +kernel
  have hlog : ∀ e ∈ (afterRace false).log, e.2 = some (1, 0) → e.1.image.bytes = [1] := by
    decide +kernel
  obtain ⟨hfiles, _⟩ := hall newRings firstRaw none false true (raced false) (newRings_created false) _ rfl
  obtain ⟨fr, hitem, c, hmem, _, hbytes⟩ := hfiles _ hfile
  obtain rfl : (⟨0, 1, 0, 0⟩ : HubRawFrameRef) = fr := Option.some.inj hitem
  have hfirst := hlog _ hmem rfl
  rw [hbytes] at hfirst
  cases hfirst

end Bench

end Loopback
end Camera3D.Recon
