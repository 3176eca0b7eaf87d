import Camera3D.Consumers.Layout
import Camera3D.Hub.Refines
import Camera3D.Text.Numerals

/-! `HubTrySaveBurstFramesTiff`: what the names of the saved files say, and what is in them. -/
namespace Camera3D.Hub
open Camera Serial Ipc Consumers Text Transition CaptureService

/-- The characters that a path token must not have. -/
def reserved : Bytes := ascii "/\\:*?\"<>|"

def sanitizePathToken (s : Bytes) : Bytes :=
  let o := s.map fun c => if c ∈ reserved then 95 else c
  if o = [] then ascii "cam" else o

def camToken (managerDeviceId : String) : Bytes :=
  sanitizePathToken managerDeviceId.toUTF8.data.toList

def burstFileName (camI : ℕ) (token : Bytes) (j : ℕ) (captureId : UInt64) : Bytes :=
  ascii "cam" ++ decimal camI ++ ascii "_" ++ token ++ ascii "_f" ++ decimal j ++ ascii "_cid" ++
    decimal captureId.toNat ++ ascii ".tiff"

section Names
variable {camI camI' j j' : ℕ} {token token' : Bytes} {captureId captureId' : UInt64}

/-- The name says which camera and frame, and of which capture. -/
theorem burstFileName_inj
    (h : burstFileName camI token j captureId = burstFileName camI' token' j' captureId') :
    camI = camI' ∧ token = token' ∧ j = j' ∧ captureId = captureId' := by
  have hlast : ∀ (front word : Bytes), (word.getLast?.all fun c => !isdigit c) → word ≠ [] →
      ((front ++ word).getLast?.all fun c => !isdigit c) := by
    intro front word hword hne
    rw [List.getLast?_append_of_ne_nil _ hne]
    exact hword
  unfold burstFileName at h
  have hfront := List.append_cancel_right h
  obtain ⟨hrest, hid⟩ := append_decimal_inj hfront (hlast _ _ (by decide) (by decide))
    (hlast _ _ (by decide) (by decide))
  have hburst := List.append_cancel_right hrest
  obtain ⟨hrest, hj⟩ := append_decimal_inj hburst (hlast _ _ (by decide) (by decide))
    (hlast _ _ (by decide) (by decide))
  have hcamera := List.append_cancel_right hrest
  simp only [List.append_assoc] at hcamera
  have hindex := List.append_cancel_left hcamera
  obtain ⟨hi, htoken⟩ := decimal_append_inj hindex (by rfl) (by rfl)
  exact ⟨hi, List.append_cancel_left htoken, hj, UInt64.toNat_inj.mp hid⟩

theorem not_reserved_sanitizePathToken {s : Bytes} {c : UInt8} (h : c ∈ sanitizePathToken s) :
    c ∉ reserved := by
  unfold sanitizePathToken at h
  dsimp only at h
  split_ifs at h with hempty
  · have hall : ∀ c ∈ ascii "cam", c ∉ reserved := by decide
    exact hall c h
  · obtain ⟨b, _, rfl⟩ := List.mem_map.mp h
    split_ifs with hb
    · decide
    · exact hb

/-- The name is that of a file in the batch's own folder, on every platform. -/
theorem not_reserved_burstFileName {s : Bytes} {c : UInt8}
    (h : c ∈ burstFileName camI (sanitizePathToken s) j captureId) : c ∉ reserved := by
  have hdecimal : ∀ n, c ∈ decimal n → c ∉ reserved := by
    intro n hc hreserved
    have hall : ∀ c ∈ reserved, isdigit c = false := by decide
    have hdigit := isdigit_of_mem_decimal hc
    rw [hall c hreserved] at hdigit
    cases hdigit
  have hword : ∀ word ∈ [ascii "cam", ascii "_", ascii "_f", ascii "_cid", ascii ".tiff"],
      c ∈ word → c ∉ reserved := by
    intro word hw hc
    have hall : ∀ word ∈ [ascii "cam", ascii "_", ascii "_f", ascii "_cid", ascii ".tiff"],
        ∀ c ∈ word, c ∉ reserved := by decide
    exact hall word hw c hc
  simp only [burstFileName, List.mem_append] at h
  rcases h with (((((((h | h) | h) | h) | h) | h) | h) | h) | h
  · exact hword _ (by simp) h
  · exact hdecimal _ h
  · exact hword _ (by simp) h
  · exact not_reserved_sanitizePathToken h
  · exact hword _ (by simp) h
  · exact hdecimal _ h
  · exact hword _ (by simp) h
  · exact hdecimal _ h
  · exact hword _ (by simp) h

end Names

/-- What becomes of a call of `cv::imwrite`. One that fails or throws keeps the file that was there, or
leaves none that is an image. -/
inductive Imwrite where
  | written
  | failed (kept : Bool)
  | throws (kept : Bool)
  deriving DecidableEq

/-- What the file system does: the new folder, unless making it throws, and the files. -/
structure SaveIo where
  batch : Option Bytes
  imwrite : Bytes → Imwrite

/-- The images under `hub_img_save`, by folder and name. -/
abbrev Disk := AList fun _ : Bytes × Bytes => Mat

def Disk.unwritten (disk : Disk) (file : Bytes × Bytes) (kept : Bool) : Disk :=
  if kept then disk else disk.erase file

/-- The inner loop; it says whether the loops go on. -/
def saveFrames (io : SaveIo) (batch : Bytes) (camI : ℕ) (token : Bytes) (captureId : UInt64) :
    ℕ → List FrameBuffer → Disk → Disk × Bool
  | _, [], disk => (disk, true)
  | j, fb :: fbs, disk =>
    match frameBufferToMat fb with
    | none => saveFrames io batch camI token captureId (j + 1) fbs disk
    | some m =>
      let name := burstFileName camI token j captureId
      match io.imwrite name with
      | .throws kept => (disk.unwritten (batch, name) kept, false)
      | .failed kept =>
        saveFrames io batch camI token captureId (j + 1) fbs (disk.unwritten (batch, name) kept)
      | .written =>
        saveFrames io batch camI token captureId (j + 1) fbs (disk.insert (batch, name) m)

def saveCameras (io : SaveIo) (batch : Bytes) (burstsById : Bursts) (captureId : UInt64)
    (framesPer : UInt32) : ℕ → List String → Disk → Disk
  | _, [], disk => disk
  | camI, mid :: mids, disk =>
    match burstsById.lookup mid with
    | none => saveCameras io batch burstsById captureId framesPer (camI + 1) mids disk
    | some vec =>
      if vec.length < framesPer.toNat then
        saveCameras io batch burstsById captureId framesPer (camI + 1) mids disk
      else match saveFrames io batch camI (camToken mid) captureId 0
          (vec.take framesPer.toNat) disk with
        | (disk, false) => disk
        | (disk, true) => saveCameras io batch burstsById captureId framesPer (camI + 1) mids disk

def hubTrySaveBurstFramesTiff (io : SaveIo) (burstsById : Bursts) (cameraOrder : List String)
    (captureId : UInt64) (framesPer : UInt32) (disk : Disk) : Disk :=
  if framesPer = 0 ∨ cameraOrder = [] then disk
  else match io.batch with
    | none => disk
    | some batch => saveCameras io batch burstsById captureId framesPer 0 cameraOrder disk

section Files
variable {io : SaveIo} {batch : Bytes} {camI : ℕ} {token : Bytes} {captureId : UInt64}
  {disk : Disk} {folder name : Bytes} {m : Mat}

theorem lookup_unwritten (file : Bytes × Bytes) (kept : Bool) :
    (disk.unwritten file kept).lookup file = if kept then disk.lookup file else none := by
  unfold Disk.unwritten
  split_ifs
  · rfl
  · exact AList.lookup_erase file disk

theorem lookup_unwritten_ne {file file' : Bytes × Bytes} (h : file ≠ file') (kept : Bool) :
    (disk.unwritten file' kept).lookup file = disk.lookup file := by
  unfold Disk.unwritten
  split_ifs
  · rfl
  · exact AList.lookup_erase_ne h

theorem lookup_of_unwritten {file file' : Bytes × Bytes} {kept : Bool}
    (h : (disk.unwritten file' kept).lookup file = some m) : disk.lookup file = some m := by
  by_cases hne : file = file'
  · subst hne
    rw [lookup_unwritten] at h
    split_ifs at h
    exact h
  · rwa [lookup_unwritten_ne hne] at h

theorem lookup_saveFrames_of_ne (j : ℕ) (fbs : List FrameBuffer)
    (h : folder = batch → ∀ k < fbs.length, name ≠ burstFileName camI token (j + k) captureId) :
    (saveFrames io batch camI token captureId j fbs disk).1.lookup (folder, name) =
      disk.lookup (folder, name) := by
  induction fbs generalizing j disk with
  | nil => rfl
  | cons fb fbs ih =>
    have hrest : folder = batch →
        ∀ k < fbs.length, name ≠ burstFileName camI token (j + 1 + k) captureId := by
      intro hfolder k hk
      have hname := h hfolder (k + 1) (Nat.succ_lt_succ hk)
      rwa [Nat.add_assoc, Nat.add_comm 1 k]
    have hne : (folder, name) ≠ (batch, burstFileName camI token j captureId) := by
      intro heq
      obtain ⟨hfolder, hname⟩ := Prod.mk.inj heq
      exact h hfolder 0 (Nat.succ_pos _) hname
    unfold saveFrames
    cases frameBufferToMat fb with
    | none => exact ih (j + 1) hrest
    | some m =>
      dsimp only
      cases io.imwrite (burstFileName camI token j captureId) with
      | throws kept => exact lookup_unwritten_ne hne kept
      | failed kept =>
        dsimp only
        rw [ih (j + 1) hrest, lookup_unwritten_ne hne]
      | written =>
        dsimp only
        rw [ih (j + 1) hrest, AList.lookup_insert_ne hne]

/-- What is found under a name once the frame should have been saved under it. -/
def stored (io : SaveIo) (name : Bytes) (fb : FrameBuffer) (old : Option Mat) : Option Mat :=
  match frameBufferToMat fb with
  | none => old
  | some m =>
    match io.imwrite name with
    | .written => some m
    | .failed kept | .throws kept => if kept then old else none

theorem saveFrames_goes_on (hio : ∀ name kept, io.imwrite name ≠ .throws kept) (j : ℕ)
    (fbs : List FrameBuffer) : (saveFrames io batch camI token captureId j fbs disk).2 = true := by
  induction fbs generalizing j disk with
  | nil => rfl
  | cons fb fbs ih =>
    unfold saveFrames
    cases frameBufferToMat fb with
    | none => exact ih (j + 1)
    | some m =>
      dsimp only
      cases hname : io.imwrite (burstFileName camI token j captureId) with
      | throws kept => exact absurd hname (hio _ kept)
      | failed kept => exact ih (j + 1)
      | written => exact ih (j + 1)

/-- A frame is not overwritten by a later one. -/
theorem lookup_saveFrames (hio : ∀ name kept, io.imwrite name ≠ .throws kept) (j : ℕ) {k : ℕ}
    {fbs : List FrameBuffer} {fb : FrameBuffer} (hfb : fbs[k]? = some fb)
    (hname : name = burstFileName camI token (j + k) captureId) :
    (saveFrames io batch camI token captureId j fbs disk).1.lookup (batch, name) =
      stored io name fb (disk.lookup (batch, name)) := by
  induction fbs generalizing j k disk with
  | nil => cases hfb
  | cons fb' fbs ih =>
    cases k with
    | zero =>
      obtain rfl : fb' = fb := by simpa using hfb
      rw [Nat.add_zero] at hname
      have hlater : batch = batch →
          ∀ k < fbs.length, name ≠ burstFileName camI token (j + 1 + k) captureId := by
        intro _ k _ heq
        have hj := (burstFileName_inj (hname.symm.trans heq)).2.2.1
        omega
      unfold saveFrames stored
      cases frameBufferToMat fb' with
      | none => exact lookup_saveFrames_of_ne (j + 1) fbs hlater
      | some m =>
        dsimp only
        rw [← hname]
        cases hwrite : io.imwrite name with
        | throws kept => exact absurd hwrite (hio _ kept)
        | failed kept =>
          dsimp only
          rw [lookup_saveFrames_of_ne (j + 1) fbs hlater, lookup_unwritten]
        | written =>
          dsimp only
          rw [lookup_saveFrames_of_ne (j + 1) fbs hlater, AList.lookup_insert]
    | succ k =>
      have hfb : fbs[k]? = some fb := by simpa using hfb
      have hname' : name = burstFileName camI token (j + 1 + k) captureId := by
        rw [hname]
        congr 1
        omega
      have hne : name ≠ burstFileName camI token j captureId := by
        intro heq
        have hj := (burstFileName_inj (hname.symm.trans heq)).2.2.1
        omega
      have hkey : (batch, name) ≠ (batch, burstFileName camI token j captureId) := by
        intro heq
        exact hne (Prod.mk.inj heq).2
      unfold saveFrames
      cases frameBufferToMat fb' with
      | none => exact ih (j + 1) hfb hname'
      | some m =>
        dsimp only
        cases hwrite : io.imwrite (burstFileName camI token j captureId) with
        | throws kept => exact absurd hwrite (hio _ kept)
        | failed kept =>
          dsimp only
          rw [ih (j + 1) hfb hname', lookup_unwritten_ne hkey]
        | written =>
          dsimp only
          rw [ih (j + 1) hfb hname', AList.lookup_insert_ne hkey]

variable {burstsById : Bursts} {framesPer : UInt32}

theorem saveCameras_cons (hio : ∀ name kept, io.imwrite name ≠ .throws kept) (camI : ℕ) (mid : String)
    (mids : List String) :
    saveCameras io batch burstsById captureId framesPer camI (mid :: mids) disk =
      saveCameras io batch burstsById captureId framesPer (camI + 1) mids
        (match burstsById.lookup mid with
        | none => disk
        | some vec =>
          if vec.length < framesPer.toNat then disk
          else (saveFrames io batch camI (camToken mid) captureId 0 (vec.take framesPer.toNat) disk).1) := by
  rw [saveCameras]
  cases burstsById.lookup mid with
  | none => rfl
  | some vec =>
    dsimp only
    split_ifs
    · rfl
    · have hon : (saveFrames io batch camI (camToken mid) captureId 0 (vec.take framesPer.toNat)
          disk).2 = true := saveFrames_goes_on hio 0 _
      rcases hsaved : saveFrames io batch camI (camToken mid) captureId 0 (vec.take framesPer.toNat)
        disk with ⟨after, on⟩
      rw [hsaved] at hon
      obtain rfl : on = true := hon
      rfl

/-- The frame is one that is saved under that name, where the first camera listed has number `camI`. -/
def IsBurstFile (burstsById : Bursts) (cameraOrder : List String) (captureId : UInt64)
    (framesPer : UInt32) (camI : ℕ) (name : Bytes) (fb : FrameBuffer) : Prop :=
  ∃ k mid vec j, cameraOrder[k]? = some mid ∧ burstsById.lookup mid = some vec ∧
    framesPer.toNat ≤ vec.length ∧ j < framesPer.toNat ∧ vec[j]? = some fb ∧
    name = burstFileName (camI + k) (camToken mid) j captureId

theorem IsBurstFile.cons {cameraOrder : List String} {fb : FrameBuffer} (mid : String)
    (h : IsBurstFile burstsById cameraOrder captureId framesPer (camI + 1) name fb) :
    IsBurstFile burstsById (mid :: cameraOrder) captureId framesPer camI name fb := by
  obtain ⟨k, mid', vec, j, hmid, hvec, hlen, hj, hfb, hname⟩ := h
  refine ⟨k + 1, mid', vec, j, by simpa using hmid, hvec, hlen, hj, hfb, ?_⟩
  rw [hname, Nat.add_assoc, Nat.add_comm 1 k]

/-- What is saved for the first camera is nothing that is saved for a later one. -/
theorem IsBurstFile.ne_first {cameraOrder : List String} {fb : FrameBuffer}
    (h : IsBurstFile burstsById cameraOrder captureId framesPer (camI + 1) name fb) (token : Bytes)
    (j : ℕ) : name ≠ burstFileName camI token j captureId := by
  obtain ⟨k, mid', vec, j', _, _, _, _, _, hname⟩ := h
  intro heq
  have hcam := (burstFileName_inj (hname.symm.trans heq)).1
  omega

theorem lookup_saveCameras_of_ne (hio : ∀ name kept, io.imwrite name ≠ .throws kept)
    (cameraOrder : List String) (camI : ℕ) (h : folder = batch →
      ∀ fb, ¬ IsBurstFile burstsById cameraOrder captureId framesPer camI name fb) :
    (saveCameras io batch burstsById captureId framesPer camI cameraOrder disk).lookup (folder, name) =
      disk.lookup (folder, name) := by
  induction cameraOrder generalizing camI disk with
  | nil => rfl
  | cons mid mids ih =>
    rw [saveCameras_cons hio, ih (camI + 1) fun hfolder fb hfb => h hfolder fb (hfb.cons mid)]
    cases hvec : burstsById.lookup mid with
    | none => rfl
    | some vec =>
      dsimp only
      split_ifs with hlen
      · rfl
      · apply lookup_saveFrames_of_ne
        intro hfolder j hj hname
        rw [List.length_take] at hj
        obtain ⟨fb, hfb⟩ : ∃ fb, vec[j]? = some fb := ⟨_, List.getElem?_eq_getElem (by omega)⟩
        apply h hfolder fb
        refine ⟨0, mid, vec, j, rfl, hvec, by omega, by omega, hfb, ?_⟩
        rw [hname, Nat.zero_add, Nat.add_zero]

theorem lookup_saveCameras (hio : ∀ name kept, io.imwrite name ≠ .throws kept) {cameraOrder : List String}
    {camI : ℕ} {fb : FrameBuffer}
    (h : IsBurstFile burstsById cameraOrder captureId framesPer camI name fb) :
    (saveCameras io batch burstsById captureId framesPer camI cameraOrder disk).lookup (batch, name) =
      stored io name fb (disk.lookup (batch, name)) := by
  induction cameraOrder generalizing camI disk with
  | nil =>
    obtain ⟨k, mid, _, _, hmid, _⟩ := h
    cases hmid
  | cons mid mids ih =>
    obtain ⟨k, mid', vec, j, hmid, hvec, hlen, hj, hfb, hname⟩ := h
    rw [saveCameras_cons hio]
    cases k with
    | zero =>
      obtain rfl : mid = mid' := by simpa using hmid
      have hlater : batch = batch →
          ∀ fb, ¬ IsBurstFile burstsById mids captureId framesPer (camI + 1) name fb := by
        intro _ fb hfb
        exact hfb.ne_first _ j hname
      have hfb' : (vec.take framesPer.toNat)[j]? = some fb := by
        rw [List.getElem?_take_of_lt hj]
        exact hfb
      rw [lookup_saveCameras_of_ne hio mids (camI + 1) hlater, hvec]
      dsimp only
      rw [if_neg (Nat.not_lt.mpr hlen)]
      apply lookup_saveFrames hio 0 hfb'
      rw [hname, Nat.zero_add, Nat.add_zero]
    | succ k =>
      have hrest : IsBurstFile burstsById mids captureId framesPer (camI + 1) name fb := by
        refine ⟨k, mid', vec, j, by simpa using hmid, hvec, hlen, hj, hfb, ?_⟩
        rw [hname]
        congr 1
        omega
      rw [ih hrest]
      congr 1
      cases burstsById.lookup mid with
      | none => rfl
      | some vec =>
        dsimp only
        split_ifs
        · rfl
        · apply lookup_saveFrames_of_ne
          intro _ j' _
          exact hrest.ne_first _ _

/-- Once a burst was saved without an exception: each frame that can be stored, and whose file could be
written, is under its own name, and no file is touched but those of the burst. The names tell the
frames apart. -/
theorem lookup_hubTrySaveBurstFramesTiff (hio : ∀ name kept, io.imwrite name ≠ .throws kept)
    (hbatch : io.batch = some batch) (cameraOrder : List String) (disk : Disk) (folder name : Bytes) :
    (∀ fb, folder = batch → IsBurstFile burstsById cameraOrder captureId framesPer 0 name fb →
      (hubTrySaveBurstFramesTiff io burstsById cameraOrder captureId framesPer disk).lookup
        (folder, name) = stored io name fb (disk.lookup (folder, name))) ∧
    ((folder = batch → ∀ fb, ¬ IsBurstFile burstsById cameraOrder captureId framesPer 0 name fb) →
      (hubTrySaveBurstFramesTiff io burstsById cameraOrder captureId framesPer disk).lookup
        (folder, name) = disk.lookup (folder, name)) := by
  unfold hubTrySaveBurstFramesTiff
  split_ifs with hnone
  · refine ⟨fun fb _ hfb => ?_, fun _ => rfl⟩
    obtain ⟨k, mid, vec, j, hmid, _, _, hj, _⟩ := hfb
    rcases hnone with rfl | rfl
    · exact absurd hj (Nat.not_lt_zero j)
    · cases hmid
  · rw [hbatch]
    constructor
    · intro fb hfolder hfb
      subst hfolder
      exact lookup_saveCameras hio hfb
    · exact lookup_saveCameras_of_ne hio cameraOrder 0

/-- Whatever fails or throws, a file that is found afterwards was there, or holds a frame of the burst. -/
theorem lookup_of_saveFrames (j : ℕ) {fbs : List FrameBuffer}
    (h : (saveFrames io batch camI token captureId j fbs disk).1.lookup (folder, name) = some m) :
    disk.lookup (folder, name) = some m ∨ ∃ k fb, fbs[k]? = some fb ∧ frameBufferToMat fb = some m ∧
      name = burstFileName camI token (j + k) captureId := by
  induction fbs generalizing j disk with
  | nil => exact .inl h
  | cons fb fbs ih =>
    have hrest : ∀ {disk' : Disk},
        (saveFrames io batch camI token captureId (j + 1) fbs disk').1.lookup (folder, name) = some m →
        disk'.lookup (folder, name) = some m ∨ ∃ k fb', (fb :: fbs)[k]? = some fb' ∧
          frameBufferToMat fb' = some m ∧ name = burstFileName camI token (j + k) captureId := by
      intro disk' hdisk'
      rcases ih (j + 1) hdisk' with hold | ⟨k, fb', hfb', hmat, hname⟩
      · exact .inl hold
      · refine .inr ⟨k + 1, fb', by simpa using hfb', hmat, ?_⟩
        rw [hname]
        congr 1
        omega
    unfold saveFrames at h
    cases hmat : frameBufferToMat fb with
    | none =>
      rw [hmat] at h
      exact hrest h
    | some mat =>
      rw [hmat] at h
      dsimp only at h
      cases hwrite : io.imwrite (burstFileName camI token j captureId) with
      | throws kept =>
        rw [hwrite] at h
        exact .inl (lookup_of_unwritten h)
      | failed kept =>
        rw [hwrite] at h
        exact (hrest h).imp_left lookup_of_unwritten
      | written =>
        rw [hwrite] at h
        rcases hrest h with hnew | hlater
        · by_cases hkey : (folder, name) = (batch, burstFileName camI token j captureId)
          · rw [hkey, AList.lookup_insert] at hnew
            exact .inr ⟨0, fb, rfl, hmat.trans hnew, (Prod.mk.inj hkey).2⟩
          · rw [AList.lookup_insert_ne hkey] at hnew
            exact .inl hnew
        · exact .inr hlater

theorem lookup_of_saveCameras (camI : ℕ) {cameraOrder : List String}
    (h : (saveCameras io batch burstsById captureId framesPer camI cameraOrder disk).lookup
      (folder, name) = some m) :
    disk.lookup (folder, name) = some m ∨ ∃ fb, frameBufferToMat fb = some m ∧
      IsBurstFile burstsById cameraOrder captureId framesPer camI name fb := by
  induction cameraOrder generalizing camI disk with
  | nil => exact .inl h
  | cons mid mids ih =>
    have hrest : ∀ {disk' : Disk},
        (saveCameras io batch burstsById captureId framesPer (camI + 1) mids disk').lookup
          (folder, name) = some m →
        disk'.lookup (folder, name) = some m ∨ ∃ fb, frameBufferToMat fb = some m ∧
          IsBurstFile burstsById (mid :: mids) captureId framesPer camI name fb := by
      intro disk' hdisk'
      rcases ih (camI + 1) hdisk' with hold | ⟨fb, hmat, hfb⟩
      · exact .inl hold
      · exact .inr ⟨fb, hmat, hfb.cons mid⟩
    unfold saveCameras at h
    cases hvec : burstsById.lookup mid with
    | none =>
      rw [hvec] at h
      exact hrest h
    | some vec =>
      rw [hvec] at h
      dsimp only at h
      split_ifs at h with hlen
      · exact hrest h
      · rcases hsaved : saveFrames io batch camI (camToken mid) captureId 0 (vec.take framesPer.toNat)
          disk with ⟨after, on⟩
        rw [hsaved] at h
        have hafter : after.lookup (folder, name) = some m → disk.lookup (folder, name) = some m ∨
            ∃ fb, frameBufferToMat fb = some m ∧
              IsBurstFile burstsById (mid :: mids) captureId framesPer camI name fb := by
          intro hafter
          have hframes : (saveFrames io batch camI (camToken mid) captureId 0
              (vec.take framesPer.toNat) disk).1.lookup (folder, name) = some m := by
            rw [hsaved]
            exact hafter
          rcases lookup_of_saveFrames 0 hframes with hold | ⟨k, fb, hfb, hmat, hname⟩
          · exact .inl hold
          · rw [List.getElem?_take] at hfb
            split_ifs at hfb with hk
            refine .inr ⟨fb, hmat, 0, mid, vec, k, rfl, hvec, by omega, hk, hfb, ?_⟩
            rw [hname, Nat.zero_add, Nat.add_zero]
        cases on with
        | false => exact hafter h
        | true => exact (hrest h).elim hafter .inr

theorem lookup_of_hubTrySaveBurstFramesTiff {cameraOrder : List String}
    (h : (hubTrySaveBurstFramesTiff io burstsById cameraOrder captureId framesPer disk).lookup
      (folder, name) = some m) :
    disk.lookup (folder, name) = some m ∨ ∃ fb, frameBufferToMat fb = some m ∧
      IsBurstFile burstsById cameraOrder captureId framesPer 0 name fb := by
  unfold hubTrySaveBurstFramesTiff at h
  split_ifs at h
  · exact .inl h
  · cases hbatch : io.batch with
    | none =>
      rw [hbatch] at h
      exact .inl h
    | some batch =>
      rw [hbatch] at h
      exact lookup_of_saveCameras 0 h

/-- A frame of two cameras each, and a second one that has no pixels. -/
theorem lookup_hubTrySaveBurstFramesTiff_two :
    let bursts : Bursts := (AList.singleton "cam-1" [{ bytes := [1], width := 1, height := 1 }, {}]).insert
      "cam-2" [{ bytes := [2, 3], width := 2, height := 1 }, {}]
    (hubTrySaveBurstFramesTiff ⟨some (ascii "now"), fun _ => .written⟩ bursts ["cam-1", "cam-2"] 7 1
        ∅).lookup (ascii "now", ascii "cam1_cam-2_f0_cid7.tiff") =
      stored ⟨some (ascii "now"), fun _ => .written⟩ (ascii "cam1_cam-2_f0_cid7.tiff")
        { bytes := [2, 3], width := 2, height := 1 } none := by
  have hname : ascii "cam1_cam-2_f0_cid7.tiff" = burstFileName (0 + 1) (camToken "cam-2") 0 7 := by
    decide +kernel
  apply (lookup_hubTrySaveBurstFramesTiff (by simp) rfl ["cam-1", "cam-2"] ∅ (ascii "now") _).1 _ rfl
  exact ⟨1, "cam-2", _, 0, rfl, AList.lookup_insert _, by decide, by decide, rfl, hname⟩

end Files

/-- The hub, built so that it saves its bursts. -/
structure SavingHub (α π θ : Type*) where
  world : World α π θ
  disk : Disk := ∅

namespace State

/-- The end of `OnCameraFrame`, after the lock was given up. -/
def saveBurst (h : State) (managerDeviceId : String) (fb : FrameBuffer) (io : SaveIo) (disk : Disk) :
    Disk :=
  let pushed := h.pushFrame managerDeviceId fb
  if h.awaitingFrame ∧ managerDeviceId ∈ h.sessionDevicesOrdered ∧ pushed.burstsComplete then
    hubTrySaveBurstFramesTiff io pushed.splitPending.2 h.sessionDevicesOrdered
      h.awaitingClientCaptureId h.framesPerHardwareTrigger disk
  else disk

theorem presetIds_move {s s' : State} {r : Option CaptureRequest} (hm : s.Move r s') :
    s'.presetIds = s.presetIds ∧ s'.framesPerHardwareTrigger = s.framesPerHardwareTrigger := by
  cases hm <;> exact ⟨rfl, rfl⟩

theorem Sound.presetIds_onCameraFrame {s : State} (h : s.Sound) (sNext : UInt32) (mid : String)
    (fb : FrameBuffer) : (s.onCameraFrame sNext mid fb).1.presetIds = s.presetIds ∧
      (s.onCameraFrame sNext mid fb).1.framesPerHardwareTrigger = s.framesPerHardwareTrigger := by
  have hdelivers := h.delivers sNext mid fb
  generalize s.onCameraFrame sNext mid fb = next at hdelivers ⊢
  cases hdelivers <;> exact ⟨rfl, rfl⟩

end State

namespace SavingHub
variable {α π θ : Type*} [ICameraAdapter α] [ISerialPort π] [DecidableEq θ]

def step (c : SavingHub α π θ) (e : Event α π θ × SaveIo) : SavingHub α π θ where
  world := c.world.step e.1
  disk := match e.1 with
    | .cameraFrame _ mid fb => c.world.hub.saveBurst mid fb e.2 c.disk
    | _ => c.disk

/-- The file holds the frame that its name tells: of that camera, that many frames after a capture with
that id was started; by then every camera had delivered its burst. -/
def HoldsFrame (s : State) (log : List FrameAct) (name : Bytes) (m : Mat) : Prop :=
  ∃ camI mid j cid before during after fb,
    name = burstFileName camI (camToken mid) j cid ∧ s.presetIds[camI]? = some mid ∧
    log = before ++ .started cid :: (during ++ after) ∧ OnlyPictures during ∧
    (∀ id ∈ s.presetIds, s.framesPerHardwareTrigger.toNat ≤ (picturesOf id during).length) ∧
    j < s.framesPerHardwareTrigger.toNat ∧ (picturesOf mid during)[j]? = some fb ∧
    frameBufferToMat fb = some m

theorem HoldsFrame.append {s s' : State} {log : List FrameAct} {name : Bytes} {m : Mat}
    (h : HoldsFrame s log name m) (hids : s'.presetIds = s.presetIds)
    (hper : s'.framesPerHardwareTrigger = s.framesPerHardwareTrigger) (acts : List FrameAct) :
    HoldsFrame s' (log ++ acts) name m := by
  obtain ⟨camI, mid, j, cid, before, during, after, fb, hname, hmid, hlog, honly, hfull, hj, hfb, hmat⟩ := h
  refine ⟨camI, mid, j, cid, before, during, after ++ acts, fb, hname, by rw [hids, hmid], ?_, honly, ?_,
    by rw [hper]; exact hj, hfb, hmat⟩
  · rw [hlog]
    simp
  · rw [hids, hper]
    exact hfull

/-- What is saved at the end of a capture are frames delivered since it was started. -/
theorem holdsFrame_of_saveBurst {s : State} (h : s.Sound) {log : List FrameAct}
    (hacc : Accounts log s.service) {mid : String} {fb : FrameBuffer} {io : SaveIo} {disk : Disk}
    {folder name : Bytes} {m : Mat}
    (hfile : (s.saveBurst mid fb io disk).lookup (folder, name) = some m) :
    disk.lookup (folder, name) = some m ∨ HoldsFrame s (log ++ [.took mid fb]) name m := by
  unfold State.saveBurst at hfile
  dsimp only at hfile
  split_ifs at hfile with hends
  · obtain ⟨hw, hmem, hcomplete⟩ := hends
    have he := h.of_awaiting hw
    rcases lookup_of_hubTrySaveBurstFramesTiff hfile with hold | ⟨frame, hmat, hburst⟩
    · exact .inl hold
    · right
      obtain ⟨k, id, vec, j, hid, hvec, _, hj, hframe, hname⟩ := hburst
      have hidmem : id ∈ s.sessionDevicesOrdered := List.mem_of_getElem? hid
      obtain ⟨before, during, hlog, honly, htaken⟩ := hacc.taking _ (State.service_of_awaiting hw)
      have hadd := picturesOf_add htaken mid fb
      rw [← State.service_pushFrame] at hadd
      have hfull := (State.complete_iff h mid fb).mpr hcomplete
      rw [← State.service_pushFrame] at hfull
      have hvec' : vec = ((s.pushFrame mid fb).received id).take s.framesPerHardwareTrigger.toNat := by
        have hsnapshot : (s.pushFrame mid fb).splitPending.2.lookup id =
            some (((s.pushFrame mid fb).received id).take s.framesPerHardwareTrigger.toNat) :=
          splitBursts_snapshot (h.nodup he) hidmem
        exact Option.some.inj (hvec.symm.trans hsnapshot)
      refine ⟨k, id, j, s.awaitingClientCaptureId, before, during ++ [.took mid fb], [], frame, ?_, ?_, ?_,
        honly.concat mid fb, ?_, hj, ?_, hmat⟩
      · rw [hname, Nat.zero_add]
      · rw [← he.devices]
        exact hid
      · rw [hlog]
        simp
      · intro id' hid'
        rw [← he.devices] at hid'
        rw [← hadd id' hid']
        exact hfull id' hid'
      · rw [← hadd id hidmem]
        rw [hvec', List.getElem?_take_of_lt hj] at hframe
        exact hframe
  · exact .inl hfile

theorem world_run (c : SavingHub α π θ) (es : List (Event α π θ × SaveIo)) :
    (run step c es).world = run World.step c.world (es.map Prod.fst) := by
  induction es generalizing c with
  | nil => rfl
  | cons e es ih => exact ih (c.step e)

/-- What a step saves, and what it keeps. -/
theorem holdsFrame_step {c : SavingHub α π θ} (h : c.world.hub.Sound) {log : List FrameAct}
    (hacc : Accounts log c.world.hub.service)
    (hdisk : ∀ folder name m, c.disk.lookup (folder, name) = some m →
      HoldsFrame c.world.hub.toState log name m) (e : Event α π θ × SaveIo) {folder name : Bytes}
    {m : Mat} (hfile : (c.step e).disk.lookup (folder, name) = some m) :
    HoldsFrame (c.step e).world.hub.toState (log ++ (c.world.act e.1).toList) name m := by
  obtain ⟨e, io⟩ := e
  have hmove := c.world.step_move e
  cases e with
  | cameraFrame thread mid fb =>
    have hsame := h.presetIds_onCameraFrame (c.world.cursor thread) mid fb
    rcases holdsFrame_of_saveBurst h hacc hfile with hold | hnew
    · exact (hdisk folder name m hold).append hsame.1 hsame.2 _
    · have happend := hnew.append hsame.1 hsame.2 []
      rw [List.append_nil] at happend
      exact happend
  | call id rpc | step id | portChanged port | cameraChanged mid adapter | tick =>
    rcases hmove with ⟨_, _, _, he⟩ | hm
    · cases he
    · have hsame := State.presetIds_move hm
      exact (hdisk folder name m hfile).append hsame.1 hsame.2 _

/-- Whatever the hub's clients, cameras and serial port do, and however the file system behaves: an
image that was saved is the frame that its name tells. -/
theorem saved_images_true (prototypes : AList fun _ : String => α) (port : π) (b : Boot)
    (cursor : θ → UInt32) (es : List (Event α π θ × SaveIo)) {folder name : Bytes} {m : Mat}
    (hfile : (run step (⟨booted prototypes port b cursor, ∅⟩ : SavingHub α π θ) es).disk.lookup
      (folder, name) = some m) :
    HoldsFrame (run World.step (booted prototypes port b cursor : World α π θ)
      (es.map Prod.fst)).hub.toState ((booted prototypes port b cursor).acts (es.map Prod.fst)) name m := by
  induction es using List.reverseRecOn generalizing folder name m with
  | nil => cases hfile
  | append_singleton es e ih =>
    have hworld := world_run (⟨booted prototypes port b cursor, ∅⟩ : SavingHub α π θ) es
    have hsound : (run World.step (booted prototypes port b cursor : World α π θ)
        (es.map Prod.fst)).hub.Sound := World.run_sound (Service.boot_unused prototypes port b).sound _
    have hacc := World.accounts_of_run prototypes port b cursor (es.map Prod.fst)
    rw [run_concat] at hfile
    rw [← hworld] at hsound hacc ih
    have hstep := holdsFrame_step hsound hacc (fun _ _ _ hold => ih hold) e hfile
    rw [List.map_append, List.map_singleton, run_concat, World.acts, actsAlong_append, actsAlong,
      actsAlong, List.append_nil, ← hworld]
    exact hstep

/-- One frame of each camera, and each file can be written. -/
def twoCameraSaves : List (Event ReadyCamera EchoPort Bool × SaveIo) :=
  (World.twoCameraCapture 1 true).map fun e => (e, ⟨some [], fun _ => .written⟩)

theorem saved_images_true_two_cameras : ∃ m,
    HoldsFrame (run World.step (bench twoCameras) (twoCameraSaves.map Prod.fst)).hub.toState
      ((bench twoCameras).acts (twoCameraSaves.map Prod.fst)) (ascii "cam1_cam-2_f0_cid1.tiff") m := by
  have hsome : ((run step (⟨bench twoCameras, ∅⟩ : SavingHub ReadyCamera EchoPort Bool)
      twoCameraSaves).disk.lookup ([], ascii "cam1_cam-2_f0_cid1.tiff")).isSome = true := by
    decide +kernel
  obtain ⟨m, hm⟩ := Option.isSome_iff_exists.mp hsome
  generalize twoCameraSaves = es at hm ⊢
  generalize ascii "cam1_cam-2_f0_cid1.tiff" = name at hm ⊢
  exact ⟨m, saved_images_true _ _ _ _ es hm⟩

end SavingHub
end Camera3D.Hub
