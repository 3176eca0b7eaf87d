import Camera3D.Viewer.PointCloud
import Mathlib.Algebra.Order.Ring.Unbundled.Rat

/-! The view comes to show the data of its current settings, as long as no depth range is set that no
build takes up. -/
namespace Camera3D.Viewer
open Transition

section Data
variable {δ φ : Type*} {S : Shading δ φ} {points : List (UnifiedPoint φ)}
  {renderMode : PointCloudRenderMode} {depthMin depthMax : δ} {blendRatio : φ}

theorem buildPreparedPolyData_nil :
    buildPreparedPolyData S [] renderMode depthMin depthMax blendRatio = none := rfl

theorem buildPreparedPolyData_some (hpoints : points ≠ []) :
    ∃ poly, buildPreparedPolyData S points renderMode depthMin depthMax blendRatio = some poly ∧
      poly.points ≠ [] := by
  have hempty : points.isEmpty = false := by simpa using hpoints
  unfold buildPreparedPolyData buildPolyDataFromUnifiedPoints
  rw [hempty]
  cases renderMode
  all_goals exact ⟨_, rfl, by simpa using hpoints⟩

/-- The depth range and the blend ratio are part of the data in one mode only. -/
theorem buildPreparedPolyData_of_ne_blend (hmode : renderMode ≠ .blend) (depthMin' depthMax' : δ)
    (blendRatio' : φ) :
    buildPreparedPolyData S points renderMode depthMin depthMax blendRatio =
      buildPreparedPolyData S points renderMode depthMin' depthMax' blendRatio' := by
  cases renderMode with
  | blend => exact absurd rfl hmode
  | grayscale => rfl
  | zValue => rfl
  | texture => rfl
  | untextured => rfl

end Data

namespace PointCloudView3D
variable {δ φ : Type*} {S : Shading δ φ} {v v' : PointCloudView3D δ φ}

/-- No build that is under way carries the next sequence number. -/
def Fresh (v : PointCloudView3D δ φ) : Prop := ∀ b ∈ v.builds, b.seq ≠ v.cloudBuildSeq + 1

/-- A depth range that goes into the data is set while there is an actor, or is the range there is. -/
def TakenUp (S : Shading δ φ) (v : PointCloudView3D δ φ) : Event δ φ → Prop
  | .setDepthRange minZ maxZ =>
    v.renderMode = .blend → v.lastFrame ≠ [] → v.pointsActor = none →
      (if S.lt maxZ minZ then (maxZ, minZ) else (minZ, maxZ)) = (v.depthMin, v.depthMax)
  | _ => True

instance : Decidable v.Fresh :=
  inferInstanceAs (Decidable (∀ b ∈ v.builds, b.seq ≠ v.cloudBuildSeq + 1))

instance decidableTakenUp [DecidableEq δ] [DecidableEq φ] :
    ∀ e : Event δ φ, Decidable (TakenUp S v e)
  | .setDepthRange minZ maxZ =>
    inferInstanceAs (Decidable (v.renderMode = .blend → v.lastFrame ≠ [] → v.pointsActor = none →
      (if S.lt maxZ minZ then (maxZ, minZ) else (minZ, maxZ)) = (v.depthMin, v.depthMax)))
  | .setFrame _ => isTrue trivial
  | .setRenderMode _ => isTrue trivial
  | .setBlendRatio _ => isTrue trivial
  | .clear => isTrue trivial
  | .finishBuild _ => isTrue trivial

/-- A build with the current number has the current data; without one, these are on display. -/
structure Convergent (S : Shading δ φ) (v : PointCloudView3D δ φ) : Prop where
  snapshots : ∀ b ∈ v.builds, b.points ≠ []
  live : ∀ b ∈ v.builds, b.seq = v.cloudBuildSeq → b.mode = v.renderMode ∧ b.poly S = v.current S
  idle : (∀ b ∈ v.builds, b.seq ≠ v.cloudBuildSeq) → v.displayed = v.current S
  orderly : Orderly v.scheduled v.history
  numbered : ∀ b ∈ v.builds, b.seq = v.cloudBuildSeq → latest v.history = some b.number

theorem Convergent.empty (h : Convergent S v) (hframe : v.lastFrame = []) :
    (∀ b ∈ v.builds, b.seq ≠ v.cloudBuildSeq) ∧ v.pointsActor = none := by
  have hcurrent : v.current S = none := by
    unfold current
    rw [hframe]
    exact buildPreparedPolyData_nil
  have hnone : ∀ b ∈ v.builds, b.seq ≠ v.cloudBuildSeq := by
    intro b hb hseq
    obtain ⟨poly, hpoly, -⟩ := @buildPreparedPolyData_some _ _ S _ b.mode b.depthMin b.depthMax
      b.blendRatio (h.snapshots b hb)
    have hlive := (h.live b hb hseq).2
    unfold Build.poly at hlive
    rw [hpoly, hcurrent] at hlive
    cases hlive
  have hidle := h.idle hnone
  rw [hcurrent] at hidle
  exact ⟨hnone, Option.map_eq_none_iff.mp hidle⟩

theorem convergent_of_empty (hsnapshots : ∀ b ∈ v.builds, b.points ≠ [])
    (horderly : Orderly v.scheduled v.history)
    (hnone : ∀ b ∈ v.builds, b.seq ≠ v.cloudBuildSeq) (hframe : v.lastFrame = [])
    (hactor : v.pointsActor = none) : Convergent S v := by
  refine ⟨hsnapshots, ?_, ?_, horderly, ?_⟩
  · exact fun b hb hseq => absurd hseq (hnone b hb)
  · intro _
    unfold displayed current
    rw [hactor, hframe]
    rfl
  · exact fun b hb hseq => absurd hseq (hnone b hb)

/-- A build that is started is the only one that counts from then on. -/
theorem schedulePointCloudRebuild_convergent (hsnapshots : ∀ b ∈ v.builds, b.points ≠ [])
    (horderly : Orderly v.scheduled v.history) (hfresh : v.Fresh) (hframe : v.lastFrame ≠ []) :
    Convergent S v.schedulePointCloudRebuild := by
  have hempty : ¬ v.lastFrame.isEmpty = true := by simpa using hframe
  unfold schedulePointCloudRebuild
  rw [if_neg hempty]
  constructor
  · intro b hb
    rcases List.mem_append.mp hb with hold | hnew
    · exact hsnapshots b hold
    · rw [List.mem_singleton.mp hnew]
      exact hframe
  · intro b hb hseq
    rcases List.mem_append.mp hb with hold | hnew
    · exact absurd hseq (hfresh b hold)
    · rw [List.mem_singleton.mp hnew]
      exact ⟨rfl, rfl⟩
  · intro hnone
    exact absurd rfl (hnone _ (List.mem_append_right _ (List.mem_singleton_self _)))
  · exact ⟨Nat.lt_succ_self _, horderly⟩
  · intro b hb hseq
    rcases List.mem_append.mp hb with hold | hnew
    · exact absurd hseq (hfresh b hold)
    · rw [List.mem_singleton.mp hnew]
      rfl

/-- What a change keeps that neither starts a build nor touches the data. -/
structure SameData (S : Shading δ φ) (v v' : PointCloudView3D δ φ) : Prop where
  builds : v'.builds = v.builds
  seq : v'.cloudBuildSeq = v.cloudBuildSeq
  mode : v'.renderMode = v.renderMode
  displayed : v'.displayed = v.displayed
  current : v'.current S = v.current S
  scheduled : v'.scheduled = v.scheduled
  history : v'.history = v.history

theorem Convergent.congr (h : Convergent S v) (hsame : SameData S v v') : Convergent S v' := by
  constructor
  · rw [hsame.builds]
    exact h.snapshots
  · rw [hsame.builds, hsame.seq, hsame.mode, hsame.current]
    exact h.live
  · rw [hsame.builds, hsame.seq, hsame.displayed, hsame.current]
    exact h.idle
  · rw [hsame.scheduled, hsame.history]
    exact h.orderly
  · rw [hsame.builds, hsame.seq, hsame.history]
    exact h.numbered

theorem setFrame_convergent (h : Convergent S v) (hfresh : v.Fresh)
    (pointCloud : List (UnifiedPoint φ)) : Convergent S (v.setFrame pointCloud) := by
  unfold setFrame
  split_ifs with hempty
  · exact h
  · exact schedulePointCloudRebuild_convergent h.snapshots h.orderly hfresh
      (fun hnil => hempty (List.isEmpty_iff.mpr hnil))

theorem setRenderMode_convergent (h : Convergent S v) (hfresh : v.Fresh)
    (mode : PointCloudRenderMode) : Convergent S (v.setRenderMode mode) := by
  unfold setRenderMode
  dsimp only
  split_ifs with hmode hempty
  · exact h
  · have hframe := List.isEmpty_iff.mp hempty
    obtain ⟨hnone, hactor⟩ := h.empty hframe
    exact convergent_of_empty h.snapshots h.orderly hnone hframe hactor
  · exact schedulePointCloudRebuild_convergent h.snapshots h.orderly hfresh
      (fun hnil => hempty (List.isEmpty_iff.mpr hnil))

theorem setBlendRatio_convergent (h : Convergent S v) (hfresh : v.Fresh) (ratio : φ) :
    Convergent S (v.setBlendRatio S ratio) := by
  unfold setBlendRatio
  dsimp only
  split_ifs with hblend
  · rw [Bool.and_eq_true, decide_eq_true_iff, Bool.not_eq_true'] at hblend
    exact schedulePointCloudRebuild_convergent h.snapshots h.orderly hfresh
      (fun hnil => absurd (List.isEmpty_iff.mpr hnil) (by simp [hblend.2]))
  · by_cases hframe : v.lastFrame = []
    · obtain ⟨hnone, hactor⟩ := h.empty hframe
      exact convergent_of_empty h.snapshots h.orderly hnone hframe hactor
    · have hmode : v.renderMode ≠ .blend := by
        intro hmode
        apply hblend
        simp [hmode, hframe]
      refine h.congr ⟨rfl, rfl, rfl, rfl, ?_, rfl, rfl⟩
      exact buildPreparedPolyData_of_ne_blend hmode _ _ _

theorem clear_convergent (h : Convergent S v) (hfresh : v.Fresh) : Convergent S v.clear :=
  convergent_of_empty h.snapshots h.orderly hfresh rfl rfl

theorem applyDepthRangeToMapper_of_none (hactor : v.pointsActor = none) :
    v.applyDepthRangeToMapper S = v := by
  unfold applyDepthRangeToMapper
  rw [hactor]

theorem applyDepthRangeToMapper_of_blend {actor : Actor δ φ} (hactor : v.pointsActor = some actor)
    (hmode : v.renderMode = .blend) (hframe : v.lastFrame ≠ []) :
    v.applyDepthRangeToMapper S = v.schedulePointCloudRebuild := by
  have hempty : ¬ v.lastFrame.isEmpty = true := by simpa using hframe
  unfold applyDepthRangeToMapper
  rw [hactor, hmode]
  dsimp only
  rw [if_neg hempty]

theorem applyDepthRangeToMapper_sameData (hmode : v.renderMode ≠ .blend) :
    SameData S v (v.applyDepthRangeToMapper S) := by
  unfold applyDepthRangeToMapper
  cases hactor : v.pointsActor with
  | none => exact ⟨rfl, rfl, rfl, rfl, rfl, rfl, rfl⟩
  | some actor =>
    have hdisplayed : v.displayed = some actor.poly := by
      unfold displayed
      rw [hactor]
      rfl
    dsimp only
    split
    next => exact ⟨rfl, rfl, rfl, rfl, rfl, rfl, rfl⟩
    next => exact ⟨rfl, rfl, rfl, rfl, rfl, rfl, rfl⟩
    next hblend => exact absurd hblend hmode
    next => exact ⟨rfl, rfl, rfl, hdisplayed.symm, rfl, rfl, rfl⟩

theorem setDepthRange_convergent (h : Convergent S v) (hfresh : v.Fresh) (minZ maxZ : δ)
    (htaken : TakenUp S v (.setDepthRange minZ maxZ)) :
    Convergent S (v.setDepthRange S minZ maxZ) := by
  change v.renderMode = .blend → v.lastFrame ≠ [] → v.pointsActor = none →
    (if S.lt maxZ minZ then (maxZ, minZ) else (minZ, maxZ)) = (v.depthMin, v.depthMax) at htaken
  unfold setDepthRange
  rcases hrange : (if S.lt maxZ minZ then (maxZ, minZ) else (minZ, maxZ)) with ⟨rmin, rmax⟩
  rw [hrange, Prod.mk.injEq] at htaken
  dsimp only
  by_cases hframe : v.lastFrame = []
  · obtain ⟨hnone, hactor⟩ := h.empty hframe
    rw [applyDepthRangeToMapper_of_none (by exact hactor)]
    exact convergent_of_empty h.snapshots h.orderly hnone hframe hactor
  by_cases hmode : v.renderMode = .blend
  · rcases Option.eq_none_or_eq_some v.pointsActor with hactor | ⟨actor, hactor⟩
    · obtain ⟨rfl, rfl⟩ := htaken hmode hframe hactor
      rw [applyDepthRangeToMapper_of_none (by exact hactor)]
      exact h
    · rw [applyDepthRangeToMapper_of_blend (by exact hactor) (by exact hmode) (by exact hframe)]
      exact schedulePointCloudRebuild_convergent h.snapshots h.orderly hfresh hframe
  · have hset : Convergent S { v with depthMin := rmin, depthMax := rmax } :=
      h.congr ⟨rfl, rfl, rfl, rfl, buildPreparedPolyData_of_ne_blend hmode _ _ _, rfl, rfl⟩
    exact hset.congr (applyDepthRangeToMapper_sameData hmode)

/-- The result of a build is dropped, or shows the current data. -/
theorem finishBuild_convergent (h : Convergent S v) (i : ℕ) :
    Convergent S (v.finishBuild S i) := by
  unfold finishBuild
  cases hb : v.builds[i]? with
  | none => exact h
  | some b =>
    have hmem := List.mem_of_getElem? hb
    have hpoints := h.snapshots b hmem
    have hsub : ∀ c ∈ v.builds.eraseIdx i, c ∈ v.builds := fun c hc => List.mem_of_mem_eraseIdx hc
    dsimp only
    obtain ⟨poly, hpoly, hne⟩ := @buildPreparedPolyData_some _ _ S _ b.mode b.depthMin b.depthMax
      b.blendRatio hpoints
    have hempty : ¬ poly.points.isEmpty = true := by simpa using hne
    rw [show b.poly S = some poly from hpoly]
    dsimp only
    rw [if_neg hempty]
    unfold applyPreparedPointCloud
    by_cases hseq : b.seq = v.cloudBuildSeq
    · obtain ⟨hmode, hcurrent⟩ := h.live b hmem hseq
      rw [if_neg (not_not.mpr hseq), if_neg (not_not.mpr hmode), if_neg hempty]
      constructor
      · exact fun c hc => h.snapshots c (hsub c hc)
      · exact fun c hc => h.live c (hsub c hc)
      · exact fun _ => hpoly.symm.trans hcurrent
      · exact ⟨h.numbered b hmem hseq, h.orderly⟩
      · exact fun c hc => h.numbered c (hsub c hc)
    · rw [if_pos hseq]
      constructor
      · exact fun c hc => h.snapshots c (hsub c hc)
      · exact fun c hc => h.live c (hsub c hc)
      · intro hnone
        apply h.idle
        intro c hc
        obtain ⟨j, hj⟩ := List.mem_iff_getElem?.mp hc
        by_cases hji : j = i
        · rw [hji, hb] at hj
          rwa [← Option.some.inj hj]
        · exact hnone c (List.mem_eraseIdx_iff_getElem?.mpr ⟨j, hji, hj⟩)
      · exact h.orderly
      · exact fun c hc => h.numbered c (hsub c hc)

/-- The view as it is made, with the range and the ratio that it starts with. -/
def fresh (depthMin depthMax : δ) (blendRatio : φ) : PointCloudView3D δ φ :=
  { depthMin, depthMax, blendRatio }

theorem fresh_convergent (depthMin depthMax : δ) (blendRatio : φ) :
    Convergent S (fresh depthMin depthMax blendRatio) :=
  convergent_of_empty (fun _ hb => nomatch hb) trivial (fun _ hb => nomatch hb) rfl rfl

theorem step_convergent (e : Event δ φ) (he : v.Fresh ∧ TakenUp S v e) (h : Convergent S v) :
    Convergent S (v.step S e) := by
  obtain ⟨hfresh, htaken⟩ := he
  cases e with
  | setFrame pointCloud => exact setFrame_convergent h hfresh pointCloud
  | setRenderMode mode => exact setRenderMode_convergent h hfresh mode
  | setDepthRange minZ maxZ => exact setDepthRange_convergent h hfresh minZ maxZ htaken
  | setBlendRatio ratio => exact setBlendRatio_convergent h hfresh ratio
  | clear => exact clear_convergent h hfresh
  | finishBuild i => exact finishBuild_convergent h i

/-- Once no build is under way the current data are on display, and no result comes too late. -/
theorem converges (S : Shading δ φ) (depthMin depthMax : δ) (blendRatio : φ)
    (es : List (Event δ φ))
    (hes : Along (step S) (fun v e => v.Fresh ∧ TakenUp S v e)
      (fresh depthMin depthMax blendRatio) es) :
    ((run (step S) (fresh depthMin depthMax blendRatio) es).builds = [] →
      (run (step S) (fresh depthMin depthMax blendRatio) es).displayed =
        (run (step S) (fresh depthMin depthMax blendRatio) es).current S) ∧
      NeverStale (run (step S) (fresh depthMin depthMax blendRatio) es).history := by
  have h := run_invariant_along (fun _ e he hv => step_convergent e he hv) hes
    (fresh_convergent depthMin depthMax blendRatio)
  refine ⟨?_, h.orderly.neverStale⟩
  intro hbuilds
  apply h.idle
  rw [hbuilds]
  exact fun _ hb => nomatch hb

/-- The entry of a table of 256 colours that VTK looks up for a depth. -/
def tableIndex (rmin rmax z : ℚ) : UInt8 :=
  UInt8.ofNat (min 255 ((z - rmin) * 256 / (rmax - rmin)).floor.toNat)

/-- The colours of `CreateJetLookupTable`, as bytes. -/
def jetTable (i : UInt8) : RGB :=
  let t : ℚ := i.toNat / 255
  let byte (c : ℚ) : UInt8 := UInt8.ofNat (255 * c + 1 / 2).floor.toNat
  if t < 1 / 8 then ⟨0, 0, byte (1 / 2 + 4 * t)⟩
  else if t < 3 / 8 then ⟨0, byte (4 * (t - 1 / 8)), byte 1⟩
  else if t < 5 / 8 then ⟨byte (4 * (t - 3 / 8)), byte 1, byte (1 - 4 * (t - 3 / 8))⟩
  else if t < 7 / 8 then ⟨byte 1, byte (1 - 4 * (t - 5 / 8)), 0⟩
  else ⟨byte (1 - 4 * (t - 7 / 8)), 0, 0⟩

/-- Exact arithmetic in place of the rounded one. -/
def exactShading : Shading ℚ ℚ where
  lt a b := a < b
  le a b := a ≤ b
  addOne a := a + 1
  toDouble z := z
  clamp ratio := max 0 (min 1 ratio)
  grayColor rmin rmax z := ⟨tableIndex rmin rmax z, tableIndex rmin rmax z, tableIndex rmin rmax z⟩
  jetColor rmin rmax z := jetTable (tableIndex rmin rmax z)
  mix ratio gray jet := UInt8.ofNat (gray.toNat * (1 - ratio) + jet.toNat * ratio).floor.toNat

def onePoint : List (UnifiedPoint ℚ) := [{ x := 0, y := 0, z := 1 / 2 }]

/-- The range is set once the first build is on display. -/
def patientUser : List (Event ℚ ℚ) :=
  [.setRenderMode .blend, .setFrame onePoint, .finishBuild 0, .setDepthRange 0 1, .finishBuild 0]

theorem converges_patientUser :
    (run (step exactShading) (fresh 0 1000 (1 / 2)) patientUser).displayed =
        (run (step exactShading) (fresh 0 1000 (1 / 2)) patientUser).current exactShading ∧
      NeverStale (run (step exactShading) (fresh 0 1000 (1 / 2)) patientUser).history := by
  obtain ⟨hshown, hstale⟩ := converges exactShading 0 1000 (1 / 2) patientUser (by decide +kernel)
  exact ⟨hshown (by decide +kernel), hstale⟩

/-- The range is set before the first build is on display. -/
def hastyUser : List (Event ℚ ℚ) :=
  [.setRenderMode .blend, .setFrame onePoint, .setDepthRange 0 1, .finishBuild 0]

theorem hastyUser_outdated :
    (run (step exactShading) (fresh 0 1000 (1 / 2)) hastyUser).builds = [] ∧
      (run (step exactShading) (fresh 0 1000 (1 / 2)) hastyUser).displayed ≠
        (run (step exactShading) (fresh 0 1000 (1 / 2)) hastyUser).current exactShading := by
  constructor
  · decide +kernel
  · decide +kernel

end PointCloudView3D
end Camera3D.Viewer
