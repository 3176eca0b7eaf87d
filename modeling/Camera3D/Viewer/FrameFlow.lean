import Camera3D.Transition.Run
import Mathlib.Tactic.SplitIfs

/-! From the data center to the page of raw images: any thread pushes frames, and the window takes the
latest one when it comes round to a `FrameReady`. -/
namespace Camera3D.Viewer
open Transition

/-- A frame; the point cloud and the textures are left out, which the raw image page does not read. -/
structure UnifiedFrame (ι : Type*) where
  depth : ι
  hardwareRawFrames : List ι := []

structure DataCenter (ι : Type*) where
  queue : List (UnifiedFrame ι) := []
  keepLatestOnly : Bool := true

namespace DataCenter
variable {ι : Type*}

def kMaxQueueSize : ℕ := 3

/-- The `while` loop of `PushFrame`. -/
def trim : List (UnifiedFrame ι) → List (UnifiedFrame ι)
  | [] => []
  | f :: q => if kMaxQueueSize < (f :: q).length then trim q else f :: q

def pushFrame (d : DataCenter ι) (frame : UnifiedFrame ι) : DataCenter ι :=
  { d with queue := trim ((if d.keepLatestOnly then [] else d.queue) ++ [frame]) }

def getLatestFrame (d : DataCenter ι) : Option (UnifiedFrame ι) := d.queue.getLast?

theorem getLast?_trim_concat (q : List (UnifiedFrame ι)) (frame : UnifiedFrame ι) :
    (trim (q ++ [frame])).getLast? = some frame := by
  induction q with
  | nil => rfl
  | cons f q ih =>
    rw [List.cons_append, trim]
    split_ifs
    · exact ih
    · rw [← List.cons_append, List.getLast?_concat]

/-- However many frames are kept, the latest is the last one pushed. -/
theorem getLatestFrame_pushFrame (d : DataCenter ι) (frame : UnifiedFrame ι) :
    (d.pushFrame frame).getLatestFrame = some frame := getLast?_trim_concat _ _

end DataCenter

/-- The page of raw images: the large preview shows image `selected`. -/
structure RawImageAlbumPage (ρ : Type*) where
  images : List ρ := []
  selected : ℕ := 0
  /-- The number of thumbnail buttons; their ids count from 0. -/
  thumbnails : ℕ := 0

namespace RawImageAlbumPage
variable {ι ρ : Type*}

def clear (_ : RawImageAlbumPage ρ) : RawImageAlbumPage ρ := {}

/-- Images that cannot be converted are skipped. -/
def rebuildFromRaws (p : RawImageAlbumPage ρ) (convert : ι → Option ρ) (raws : List ι) :
    RawImageAlbumPage ρ :=
  if (raws.filterMap convert).isEmpty then p.clear
  else { images := raws.filterMap convert, thumbnails := (raws.filterMap convert).length }

def setFrame (p : RawImageAlbumPage ρ) (convert : ι → Option ρ) (frame : UnifiedFrame ι) :
    RawImageAlbumPage ρ :=
  if frame.hardwareRawFrames.isEmpty then (if p.images.isEmpty then p else p.clear)
  else p.rebuildFromRaws convert frame.hardwareRawFrames

def setSelectedIndex (p : RawImageAlbumPage ρ) (index : Int) : RawImageAlbumPage ρ :=
  if p.images.isEmpty ∨ index < 0 ∨ p.images.length ≤ index then p
  else { p with selected := index.toNat }

/-- A click on a thumbnail; a button that was deleted cannot be clicked. -/
def click (p : RawImageAlbumPage ρ) (id : ℕ) : RawImageAlbumPage ρ :=
  if id < p.thumbnails then p.setSelectedIndex id else p

/-- Every thumbnail is an image, and the one shown is there. -/
structure Sound (p : RawImageAlbumPage ρ) : Prop where
  thumbnails : p.thumbnails = p.images.length
  selected : p.images ≠ [] → p.selected < p.images.length

theorem sound_clear (p : RawImageAlbumPage ρ) : p.clear.Sound := ⟨rfl, fun h => absurd rfl h⟩

theorem images_setFrame (p : RawImageAlbumPage ρ) (convert : ι → Option ρ) (frame : UnifiedFrame ι) :
    (p.setFrame convert frame).images = frame.hardwareRawFrames.filterMap convert := by
  unfold setFrame rebuildFromRaws
  split_ifs with hraws himages hconverted
  · rw [List.isEmpty_iff.mp hraws, List.isEmpty_iff.mp himages]
    rfl
  · rw [List.isEmpty_iff.mp hraws]
    rfl
  · exact (List.isEmpty_iff.mp hconverted).symm
  · rfl

theorem Sound.setFrame {p : RawImageAlbumPage ρ} (h : p.Sound) (convert : ι → Option ρ)
    (frame : UnifiedFrame ι) : (p.setFrame convert frame).Sound := by
  unfold RawImageAlbumPage.setFrame rebuildFromRaws
  split_ifs with hraws himages hconverted
  · exact h
  · exact p.sound_clear
  · exact p.sound_clear
  · exact ⟨rfl, fun hne => List.length_pos_iff.mpr hne⟩

theorem setSelectedIndex_images (p : RawImageAlbumPage ρ) (index : Int) :
    (p.setSelectedIndex index).images = p.images := by
  unfold setSelectedIndex
  split_ifs <;> rfl

theorem Sound.setSelectedIndex {p : RawImageAlbumPage ρ} (h : p.Sound) (index : Int) :
    (p.setSelectedIndex index).Sound := by
  unfold RawImageAlbumPage.setSelectedIndex
  split_ifs with hout
  · exact h
  · refine ⟨h.thumbnails, fun _ => ?_⟩
    show index.toNat < p.images.length
    omega

theorem click_images (p : RawImageAlbumPage ρ) (id : ℕ) : (p.click id).images = p.images := by
  unfold click
  split_ifs
  · exact p.setSelectedIndex_images id
  · rfl

end RawImageAlbumPage

/-- The data center, the `FrameReady` events that the window has still to handle, and its page. -/
structure FrameFlow (ι ρ : Type*) where
  dataCenter : DataCenter ι := {}
  pending : ℕ := 0
  rawAlbumPage : RawImageAlbumPage ρ := {}

inductive FlowEvent (ι : Type*) where
  | pushFrame (frame : UnifiedFrame ι)
  | setKeepLatestOnly (only : Bool)
  | frameReady
  | click (id : ℕ)
  | disconnected

namespace FrameFlow
variable {ι ρ : Type*} (convert : ι → Option ρ)

/-- `OnFrameReady`, as far as the page of raw images is concerned. -/
def onFrameReady (s : FrameFlow ι ρ) : FrameFlow ι ρ :=
  match s.dataCenter.getLatestFrame with
  | none => s
  | some frame => { s with rawAlbumPage := s.rawAlbumPage.setFrame convert frame }

def step (s : FrameFlow ι ρ) : FlowEvent ι → FrameFlow ι ρ
  | .pushFrame frame => { s with dataCenter := s.dataCenter.pushFrame frame, pending := s.pending + 1 }
  | .setKeepLatestOnly only => { s with dataCenter := { s.dataCenter with keepLatestOnly := only } }
  | .frameReady => if s.pending = 0 then s else onFrameReady convert { s with pending := s.pending - 1 }
  | .click id => { s with rawAlbumPage := s.rawAlbumPage.click id }
  | .disconnected => { s with rawAlbumPage := s.rawAlbumPage.clear }

/-- What the page shows of a frame. -/
def pictures (frame : Option (UnifiedFrame ι)) : List ρ :=
  frame.elim [] fun frame => frame.hardwareRawFrames.filterMap convert

/-- Neither a frame comes in nor is the device disconnected. -/
def Calm : FlowEvent ι → Prop
  | .pushFrame _ | .disconnected => False
  | .setKeepLatestOnly _ | .frameReady | .click _ => True

variable {s : FrameFlow ι ρ}

theorem images_onFrameReady (h : s.dataCenter.getLatestFrame = none → s.rawAlbumPage.images = []) :
    (s.onFrameReady convert).rawAlbumPage.images = pictures convert s.dataCenter.getLatestFrame := by
  unfold onFrameReady
  cases hlatest : s.dataCenter.getLatestFrame with
  | none => exact h hlatest
  | some frame => exact s.rawAlbumPage.images_setFrame convert frame

theorem onFrameReady_frame (s : FrameFlow ι ρ) : (s.onFrameReady convert).dataCenter = s.dataCenter ∧
    (s.onFrameReady convert).pending = s.pending := by
  unfold onFrameReady
  cases s.dataCenter.getLatestFrame with
  | none => exact ⟨rfl, rfl⟩
  | some frame => exact ⟨rfl, rfl⟩

/-- Without a frame the page is empty. -/
def Sound (s : FrameFlow ι ρ) : Prop :=
  (s.dataCenter.getLatestFrame = none → s.rawAlbumPage.images = []) ∧ s.rawAlbumPage.Sound

/-- A calm event shows the latest frame, or leaves the pictures alone. -/
theorem step_calm (h : s.Sound) {e : FlowEvent ι} (hcalm : Calm e) :
    (s.step convert e).dataCenter.getLatestFrame = s.dataCenter.getLatestFrame ∧
      ((s.step convert e).pending = s.pending ∧
          (s.step convert e).rawAlbumPage.images = s.rawAlbumPage.images ∨
        (s.step convert e).pending + 1 = s.pending ∧
          (s.step convert e).rawAlbumPage.images = pictures convert s.dataCenter.getLatestFrame) := by
  cases e with
  | pushFrame frame => exact absurd hcalm id
  | disconnected => exact absurd hcalm id
  | setKeepLatestOnly only => exact ⟨rfl, .inl ⟨rfl, rfl⟩⟩
  | click id => exact ⟨rfl, .inl ⟨rfl, s.rawAlbumPage.click_images id⟩⟩
  | frameReady =>
    unfold step
    dsimp only
    split_ifs with hnone
    · exact ⟨rfl, .inl ⟨rfl, rfl⟩⟩
    · obtain ⟨hcenter, hpending⟩ := onFrameReady_frame convert { s with pending := s.pending - 1 }
      refine ⟨congrArg _ hcenter, .inr ⟨?_, images_onFrameReady convert h.1⟩⟩
      rw [hpending]
      exact Nat.succ_pred_eq_of_ne_zero hnone

theorem Sound.step (h : s.Sound) (e : FlowEvent ι) : (s.step convert e).Sound := by
  cases e with
  | pushFrame frame =>
    refine ⟨fun hnone => ?_, h.2⟩
    have hsome := s.dataCenter.getLatestFrame_pushFrame frame
    exact absurd (hsome.symm.trans hnone) (by simp)
  | setKeepLatestOnly only => exact h
  | disconnected => exact ⟨fun _ => rfl, s.rawAlbumPage.sound_clear⟩
  | click id =>
    refine ⟨fun hnone => ?_, ?_⟩
    · exact (s.rawAlbumPage.click_images id).trans (h.1 hnone)
    · unfold FrameFlow.step RawImageAlbumPage.click
      dsimp only
      split_ifs
      · exact h.2.setSelectedIndex id
      · exact h.2
  | frameReady =>
    unfold FrameFlow.step onFrameReady
    dsimp only
    split_ifs
    · exact h
    · cases hlatest : s.dataCenter.getLatestFrame with
      | none => exact h
      | some frame =>
        refine ⟨fun hnone => ?_, h.2.setFrame convert frame⟩
        exact absurd (hlatest.symm.trans hnone) (by simp)

theorem run_sound (es : List (FlowEvent ι)) :
    (run (step convert) ({} : FrameFlow ι ρ) es).Sound := by
  refine run_invariant (I := Sound) (fun _ e h => h.step convert e) ?_ es
  exact ⟨fun _ => rfl, rfl, fun h => absurd rfl h⟩

/-- Without new frames the page shows what it showed, until the first `FrameReady` is handled. -/
theorem run_calm (h : s.Sound) {es : List (FlowEvent ι)} (hcalm : ∀ e ∈ es, Calm e) :
    (run (step convert) s es).pending ≤ s.pending ∧
      (run (step convert) s es).rawAlbumPage.images =
        if (run (step convert) s es).pending < s.pending then
          pictures convert s.dataCenter.getLatestFrame else s.rawAlbumPage.images := by
  induction es generalizing s with
  | nil => exact ⟨Nat.le_refl _, (if_neg (Nat.lt_irrefl _)).symm⟩
  | cons e es ih =>
    obtain ⟨hlatest, hstep⟩ := step_calm convert h (hcalm e List.mem_cons_self)
    obtain ⟨hle, himages⟩ := ih (Sound.step convert h e) fun e' he' =>
      hcalm e' (List.mem_cons_of_mem _ he')
    rw [run_cons]
    rw [hlatest] at himages
    rcases hstep with ⟨hpending, hsame⟩ | ⟨hpending, hnew⟩
    · rw [hpending] at hle himages
      rw [hsame] at himages
      exact ⟨hle, himages⟩
    · refine ⟨by omega, ?_⟩
      rw [himages, if_pos (show _ < s.pending by omega)]
      split_ifs
      · rfl
      · exact hnew

/-- Once every `FrameReady` has been handled, the page shows the frame pushed last. If the device was
disconnected after that, it is empty, except if a `FrameReady` was still to come: then the pictures
come back. -/
theorem page_settles (convert : ι → Option ρ) (es₁ es₂ : List (FlowEvent ι)) (hcalm : ∀ e ∈ es₂, Calm e) :
    (∀ frame, (run (step convert) {} (es₁ ++ .pushFrame frame :: es₂)).pending = 0 →
      (run (step convert) {} (es₁ ++ .pushFrame frame :: es₂)).rawAlbumPage.images =
        frame.hardwareRawFrames.filterMap convert) ∧
    ((run (step convert) {} (es₁ ++ .disconnected :: es₂)).pending = 0 →
      (run (step convert) {} (es₁ ++ .disconnected :: es₂)).rawAlbumPage.images =
        if (run (step convert) {} es₁).pending = 0 then []
        else pictures convert (run (step convert) {} es₁).dataCenter.getLatestFrame) := by
  have hsound := run_sound convert es₁
  constructor
  · intro frame hsettled
    rw [run_append, run_cons] at hsettled ⊢
    obtain ⟨_, himages⟩ := run_calm convert (hsound.step convert (.pushFrame frame)) hcalm
    rw [himages, hsettled]
    exact (if_pos (Nat.succ_pos _)).trans
      (congrArg (pictures convert) (DataCenter.getLatestFrame_pushFrame _ frame))
  · intro hsettled
    rw [run_append, run_cons] at hsettled ⊢
    obtain ⟨_, himages⟩ := run_calm convert (hsound.step convert .disconnected) hcalm
    rw [himages, hsettled]
    by_cases hnone : (run (step convert) ({} : FrameFlow ι ρ) es₁).pending = 0
    · rw [if_pos hnone]
      exact if_neg (fun hlt => absurd hnone (Nat.ne_of_gt hlt))
    · rw [if_neg hnone]
      exact if_pos (Nat.pos_of_ne_zero hnone)

/-- A frame comes in while the device is being disconnected: it is shown again afterwards. -/
theorem page_settles_late :
    (run (step some) ({} : FrameFlow ℕ ℕ)
      ([.pushFrame ⟨0, [1, 2]⟩] ++ .disconnected :: [.frameReady, .click 1])).rawAlbumPage.images = [1, 2] :=
  (page_settles some [.pushFrame ⟨0, [1, 2]⟩] [.frameReady, .click 1] (by simp [Calm])).2 rfl

end FrameFlow
end Camera3D.Viewer
