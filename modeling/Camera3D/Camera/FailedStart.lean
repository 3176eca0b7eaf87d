import Camera3D.Camera.GalaxyThrows

/-! What a failed start of the Galaxy stream leaves behind, for every choice of the calls that
throw. -/
namespace Camera3D.Camera.DaHengGalaxyAdapter

open Transition

variable {a : DaHengGalaxyAdapter}

/-- Whether the SDK throws at a call, counted from the next one. -/
def throwsAt (a : DaHengGalaxyAdapter) (k : ℕ) : Bool :=
  (a.sdk.answers (a.sdk.asked + k)).throws.isSome

/-- Nothing is grabbed, the flag says so, and what is registered next is registered on a stream at
rest. -/
structure Halted (a : DaHengGalaxyAdapter) : Prop where
  grabbing : (streamOf a.sdk.calls).grabbing = false
  grabRunning : a.grabRunning = false
  later : (streamOf a.stopStreamGrabIfRunning.sdk.calls).grabbing = false

structure Unbridged (a : DaHengGalaxyAdapter) : Prop where
  registered : (streamOf a.sdk.calls).registered = false
  captureRegistered : a.captureRegistered = false

theorem stopStreamGrabIfRunning_idle (h : a.grabRunning = false) :
    a.stopStreamGrabIfRunning = a := by
  unfold stopStreamGrabIfRunning
  rw [h]
  rfl

theorem halted_iff (h : a.grabRunning = false) :
    a.Halted ↔ (streamOf a.sdk.calls).grabbing = false := by
  refine ⟨Halted.grabbing, fun hgrab => ⟨hgrab, h, ?_⟩⟩
  rw [stopStreamGrabIfRunning_idle h]
  exact hgrab

/-- A call that is made, whether it throws or not. -/
def asks (a : DaHengGalaxyAdapter) (c : SdkCall) : DaHengGalaxyAdapter :=
  { a with sdk := (a.sdk.call c).1 }

theorem sdk_asks (a : DaHengGalaxyAdapter) (c : SdkCall) :
    (a.asks c).sdk = { a.sdk with
      asked := a.sdk.asked + 1
      calls := if a.throwsAt 0 then a.sdk.calls else c :: a.sdk.calls } := by
  unfold asks throwsAt GalaxySdk.call
  rw [Nat.add_zero]
  cases (a.sdk.answers a.sdk.asked).throws <;> rfl

@[simp] theorem throwsAt_asks (a : DaHengGalaxyAdapter) (c : SdkCall) (k : ℕ) :
    (a.asks c).throwsAt k = a.throwsAt (k + 1) := by
  unfold throwsAt
  rw [sdk_asks, Nat.add_assoc, Nat.add_comm 1 k]

theorem streamOf_asks (a : DaHengGalaxyAdapter) (c : SdkCall) :
    streamOf (a.asks c).sdk.calls =
      if a.throwsAt 0 then streamOf a.sdk.calls else (streamOf a.sdk.calls).after c := by
  rw [sdk_asks]
  split <;> rfl

theorem tries_cons (a : DaHengGalaxyAdapter) (c : SdkCall) (cs : List SdkCall) :
    a.tries (c :: cs) =
      if a.throwsAt 0 then (a.asks c, (a.sdk.answers a.sdk.asked).throws)
      else (a.asks c).tries cs := by
  unfold tries throwsAt asks
  rw [GalaxySdk.attempt, Nat.add_zero]
  unfold GalaxySdk.call
  cases (a.sdk.answers a.sdk.asked).throws <;> rfl

theorem fst_tries_one (a : DaHengGalaxyAdapter) (c : SdkCall) : (a.tries [c]).1 = a.asks c :=
  tries_one_fst a c

theorem snd_tries_one (a : DaHengGalaxyAdapter) (c : SdkCall) :
    (a.tries [c]).2.isSome = a.throwsAt 0 := by
  rw [tries_cons]
  split
  case isTrue h =>
    rw [h]
    exact h
  case isFalse h => exact (Bool.eq_false_iff.mpr h).symm

/-- What a start of an idle stream does: the device goes on grabbing when only the second call
throws. -/
structure Began (before after : DaHengGalaxyAdapter) (ok : Bool) : Prop where
  succeeds : ok = (!before.throwsAt 0 && !before.throwsAt 1)
  grabRunning : after.grabRunning = ok
  grabbing : (streamOf after.sdk.calls).grabbing =
    if before.throwsAt 0 then (streamOf before.sdk.calls).grabbing else true
  registered : (streamOf after.sdk.calls).registered = (streamOf before.sdk.calls).registered
  captureRegistered : after.captureRegistered = before.captureRegistered
  stream : after.stream = before.stream
  next (k : ℕ) : after.throwsAt k = before.throwsAt (k + if before.throwsAt 0 then 1 else 2)

theorem startStreamGrab_began (hopen : a.requireOpen.2 = true) (hrun : a.grabRunning = false) :
    a.Began a.startStreamGrab.1 a.startStreamGrab.2 := by
  have hsame : a.requireOpen = (a, true) := Prod.ext (requireOpen_eq hopen) hopen
  have hnext : ∀ c, (a.asks c).throwsAt 0 = a.throwsAt 1 := fun c => throwsAt_asks a c 0
  unfold startStreamGrab
  rw [hsame]
  dsimp only
  rw [if_neg (Bool.eq_false_iff.mp hrun), tries_cons]
  cases hgrab : a.throwsAt 0 with
  | true =>
    obtain ⟨what, hwhat⟩ := Option.isSome_iff_exists.mp hgrab
    rw [Nat.add_zero] at hwhat
    rw [if_pos rfl, hwhat]
    refine ⟨by simp [hgrab], rfl, ?_, ?_, rfl, rfl, fun k => ?_⟩
    · show (streamOf (a.asks .startGrab).sdk.calls).grabbing = _
      rw [streamOf_asks, if_pos hgrab, if_pos hgrab]
    · show (streamOf (a.asks .startGrab).sdk.calls).registered = _
      rw [streamOf_asks, if_pos hgrab]
    · rw [if_pos hgrab]
      exact throwsAt_asks a .startGrab k
  | false =>
    rw [if_neg Bool.false_ne_true]
    have hsnd := snd_tries_one (a.asks .startGrab) (.execute "AcquisitionStart")
    have hfst := fst_tries_one (a.asks .startGrab) (.execute "AcquisitionStart")
    rcases he : (a.asks .startGrab).tries [.execute "AcquisitionStart"] with ⟨b, r⟩
    rw [he] at hsnd hfst
    obtain rfl : b = _ := hfst
    have hstream : streamOf ((a.asks .startGrab).asks (.execute "AcquisitionStart")).sdk.calls =
        { streamOf a.sdk.calls with grabbing := true } := by
      rw [streamOf_asks, streamOf_asks, if_neg (Bool.eq_false_iff.mp hgrab)]
      exact ite_self _
    have hgrabbing := congrArg StreamState.grabbing hstream
    have hregistered := congrArg StreamState.registered hstream
    have hlater : ∀ k, ((a.asks .startGrab).asks (.execute "AcquisitionStart")).throwsAt k =
        a.throwsAt (k + 2) := by
      intro k
      rw [throwsAt_asks, throwsAt_asks]
    have hok : (!a.throwsAt 0 && !a.throwsAt 1) = r.isNone := by
      rw [hgrab, ← hnext .startGrab, ← hsnd]
      cases r <;> rfl
    cases r with
    | none =>
      refine ⟨hok.symm, rfl, ?_, hregistered, rfl, rfl, ?_⟩
      · rw [hgrab]
        exact hgrabbing
      · rw [hgrab]
        exact hlater
    | some what =>
      refine ⟨hok.symm, rfl, ?_, hregistered, rfl, rfl, ?_⟩
      · rw [hgrab]
        exact hgrabbing
      · rw [hgrab]
        exact hlater

theorem startStreamGrab_halted_iff (hopen : a.requireOpen.2 = true) (hrun : a.grabRunning = false)
    (hidle : (streamOf a.sdk.calls).grabbing = false) :
    (a.startStreamGrab.2 = false → a.startStreamGrab.1.Halted) ↔
      a.throwsAt 0 = true ∨ a.throwsAt 1 = false := by
  have h := startStreamGrab_began hopen hrun
  have hfailed : a.startStreamGrab.2 = false → (a.startStreamGrab.1.Halted ↔ a.throwsAt 0 = true) := by
    intro hfalse
    rw [halted_iff (h.grabRunning.trans hfalse), h.grabbing, hidle]
    cases a.throwsAt 0 <;> simp
  constructor
  · intro hhalts
    cases hgrab : a.throwsAt 0 with
    | true => exact .inl rfl
    | false =>
      refine .inr (Bool.eq_false_iff.mpr fun hstart => ?_)
      have hfalse : a.startStreamGrab.2 = false := by
        rw [h.succeeds, hgrab, hstart]
        rfl
      exact absurd ((hfailed hfalse).mp (hhalts hfalse)) (Bool.eq_false_iff.mp hgrab)
  · rintro (hgrab | hstart) hfalse
    · exact (hfailed hfalse).mpr hgrab
    · refine (hfailed hfalse).mpr ?_
      rw [h.succeeds, hstart] at hfalse
      simpa using hfalse

/-- The start of an open adapter that has a callback and is not grabbing, from the registration
on. -/
theorem startAsyncGrab_eq (hopen : a.requireOpen.2 = true) (hrun : a.grabRunning = false)
    (hcb : ¬(a.userFrameCb = none ∧ a.userResultCb = none)) :
    a.startAsyncGrab =
      match (a.asks .unregisterCaptureCallback).tries [.registerCaptureCallback] with
      | (b, some what) => ({ b.setErr .kBackendError what with captureRegistered := false }, false)
      | (b, none) =>
        match { b with captureRegistered := true }.startStreamGrab with
        | (b, true) => (b.setErr .kOk "", true)
        | (b, false) =>
          let b := if b.stream then (b.tries [.unregisterCaptureCallback]).1 else b
          ({ b with captureRegistered := false }, false) := by
  have hsame : a.requireOpen = (a, true) := Prod.ext (requireOpen_eq hopen) hopen
  have hstream : a.stream = true := by
    rw [requireOpen_snd] at hopen
    simp_all
  unfold startAsyncGrab
  rw [hsame]
  dsimp only
  rewrite [if_neg hcb, stopStreamGrabIfRunning_idle hrun, if_pos hstream, fst_tries_one]
  rfl

theorem startAsyncGrab_refused (hopen : a.requireOpen.2 = true) (hrun : a.grabRunning = false)
    (hcb : ¬(a.userFrameCb = none ∧ a.userResultCb = none)) (hthrows : a.throwsAt 1 = true) :
    a.startAsyncGrab.2 = false ∧ a.startAsyncGrab.1.grabRunning = false ∧
      a.startAsyncGrab.1.captureRegistered = false ∧
      streamOf a.startAsyncGrab.1.sdk.calls = streamOf (a.asks .unregisterCaptureCallback).sdk.calls := by
  have hone : (a.asks .unregisterCaptureCallback).throwsAt 0 = true :=
    (throwsAt_asks a _ 0).trans hthrows
  have hsnd := snd_tries_one (a.asks .unregisterCaptureCallback) .registerCaptureCallback
  have hfst := fst_tries_one (a.asks .unregisterCaptureCallback) .registerCaptureCallback
  rw [startAsyncGrab_eq hopen hrun hcb]
  rcases he : (a.asks .unregisterCaptureCallback).tries [.registerCaptureCallback] with ⟨b, r⟩
  rw [he, hone] at hsnd
  rw [he] at hfst
  obtain rfl : b = _ := hfst
  obtain ⟨what, rfl⟩ := Option.isSome_iff_exists.mp hsnd
  refine ⟨rfl, hrun, rfl, ?_⟩
  show streamOf ((a.asks .unregisterCaptureCallback).asks .registerCaptureCallback).sdk.calls = _
  rw [streamOf_asks, if_pos hone]

/-- With the bridge on, all depends on the calls that start the stream, and on the one that takes
the bridge off again. -/
structure Rolled (a : DaHengGalaxyAdapter) (after : DaHengGalaxyAdapter) (ok : Bool) : Prop where
  succeeds : ok = (!a.throwsAt 2 && !a.throwsAt 3)
  grabRunning : ok = false → after.grabRunning = false
  captureRegistered : ok = false → after.captureRegistered = false
  grabbing : ok = false → (streamOf after.sdk.calls).grabbing =
    if a.throwsAt 2 then (streamOf a.sdk.calls).grabbing else true
  registered : ok = false → (streamOf after.sdk.calls).registered =
    a.throwsAt (if a.throwsAt 2 then 3 else 4)

/-- What the adapter is when the bridge is on and the stream not yet started. -/
structure Bridged (a b : DaHengGalaxyAdapter) : Prop where
  registered : (streamOf b.sdk.calls).registered = true
  grabbing : (streamOf b.sdk.calls).grabbing = (streamOf a.sdk.calls).grabbing
  next (k : ℕ) : b.throwsAt k = a.throwsAt (k + 2)
  isOpen : b.requireOpen.2 = true
  stream : b.stream = true
  idle : b.grabRunning = false

theorem register_bridged (hopen : a.requireOpen.2 = true) (hrun : a.grabRunning = false)
    (hthrows : a.throwsAt 1 = false) :
    ∃ b, (a.asks .unregisterCaptureCallback).tries [.registerCaptureCallback] = (b, none) ∧
      a.Bridged b := by
  have hone : (a.asks .unregisterCaptureCallback).throwsAt 0 = false :=
    (throwsAt_asks a _ 0).trans hthrows
  have hsnd := snd_tries_one (a.asks .unregisterCaptureCallback) .registerCaptureCallback
  have hfst := fst_tries_one (a.asks .unregisterCaptureCallback) .registerCaptureCallback
  rcases he : (a.asks .unregisterCaptureCallback).tries [.registerCaptureCallback] with ⟨b, r⟩
  rw [he, hone] at hsnd
  rw [he] at hfst
  obtain rfl : r = none := by
    cases r with
    | none => rfl
    | some what => exact Bool.noConfusion hsnd
  refine ⟨b, rfl, ?_⟩
  subst hfst
  have hstream : a.stream = true := by
    rw [requireOpen_snd] at hopen
    simp_all
  rw [requireOpen_snd] at hopen
  refine ⟨?_, ?_, fun k => ?_, ?_, hstream, hrun⟩
  · rw [streamOf_asks, if_neg (Bool.eq_false_iff.mp hone)]
    rfl
  · rw [streamOf_asks, if_neg (Bool.eq_false_iff.mp hone), streamOf_asks]
    split <;> rfl
  · rw [throwsAt_asks, throwsAt_asks]
  · rw [requireOpen_snd]
    exact hopen

theorem startAsyncGrab_rolled (hopen : a.requireOpen.2 = true) (hrun : a.grabRunning = false)
    (hcb : ¬(a.userFrameCb = none ∧ a.userResultCb = none)) (hthrows : a.throwsAt 1 = false) :
    a.Rolled a.startAsyncGrab.1 a.startAsyncGrab.2 := by
  obtain ⟨b, hb, hbridged⟩ := register_bridged hopen hrun hthrows
  have hbopen : (requireOpen { b with captureRegistered := true }).2 = true := by
    have h := hbridged.isOpen
    rw [requireOpen_snd] at h ⊢
    exact h
  have h := startStreamGrab_began hbopen hbridged.idle
  rw [startAsyncGrab_eq hopen hrun hcb, hb]
  dsimp only
  rcases hs : startStreamGrab { b with captureRegistered := true } with ⟨d, ok⟩
  rw [hs] at h
  have htwo : throwsAt { b with captureRegistered := true } 0 = a.throwsAt 2 := hbridged.next 0
  have hthree : throwsAt { b with captureRegistered := true } 1 = a.throwsAt 3 := hbridged.next 1
  have hok : ok = (!a.throwsAt 2 && !a.throwsAt 3) := by
    rw [← htwo, ← hthree]
    exact h.succeeds
  cases ok with
  | true => exact ⟨hok, by simp, by simp, by simp, by simp⟩
  | false =>
    have hdgrab : (streamOf d.sdk.calls).grabbing =
        if a.throwsAt 2 then (streamOf a.sdk.calls).grabbing else true := by
      rw [h.grabbing, htwo, hbridged.grabbing]
    have hdnext : d.throwsAt 0 = a.throwsAt (if a.throwsAt 2 then 3 else 4) := by
      rw [h.next, htwo]
      refine (hbridged.next _).trans (congrArg a.throwsAt ?_)
      split <;> rfl
    have hdstream : d.stream = true := h.stream.trans hbridged.stream
    dsimp only
    rw [if_pos hdstream, fst_tries_one]
    refine ⟨hok, fun _ => h.grabRunning, fun _ => rfl, fun _ => ?_, fun _ => ?_⟩
    · show (streamOf (d.asks .unregisterCaptureCallback).sdk.calls).grabbing = _
      rw [← hdgrab, streamOf_asks]
      split <;> rfl
    · show (streamOf (d.asks .unregisterCaptureCallback).sdk.calls).registered = _
      rw [streamOf_asks, hdnext]
      generalize (if a.throwsAt 2 then 3 else 4) = k
      cases a.throwsAt k with
      | true => exact h.registered.trans hbridged.registered
      | false => rfl

/-- Without a callback nothing is asked of the SDK. -/
theorem startAsyncGrab_uncalled_halted_iff (h : a.Backed) (hopen : a.requireOpen.2 = true)
    (hidle : (streamOf a.sdk.calls).grabbing = false) (hrun : a.grabRunning = false)
    (hcb : a.userFrameCb = none ∧ a.userResultCb = none) :
    (a.startAsyncGrab.2 = false → a.startAsyncGrab.1.Halted ∧ a.startAsyncGrab.1.Unbridged) ↔
      (streamOf a.sdk.calls).registered = false := by
  have hsame : a.requireOpen = (a, true) := Prod.ext (requireOpen_eq hopen) hopen
  have hempty : a.startAsyncGrab =
      (a.setErr .kInvalidParameter "frame and result callbacks are both empty", false) := by
    unfold startAsyncGrab
    rw [hsame]
    dsimp only
    rw [if_pos hcb]
  rw [hempty]
  constructor
  · intro hleft
    exact (hleft rfl).2.registered
  · intro hunreg _
    refine ⟨?_, hunreg, ?_⟩
    · exact (halted_iff (a := a.setErr .kInvalidParameter
        "frame and result callbacks are both empty") hrun).mpr hidle
    · exact Bool.eq_false_iff.mpr fun hr => Bool.eq_false_iff.mp hunreg (h.registered hr)

theorem startAsyncGrab_refused_halted_iff (hopen : a.requireOpen.2 = true)
    (hidle : (streamOf a.sdk.calls).grabbing = false) (hrun : a.grabRunning = false)
    (hcb : ¬(a.userFrameCb = none ∧ a.userResultCb = none)) (hthrows : a.throwsAt 1 = true) :
    (a.startAsyncGrab.2 = false → a.startAsyncGrab.1.Halted ∧ a.startAsyncGrab.1.Unbridged) ↔
      a.throwsAt 0 = false ∨ (streamOf a.sdk.calls).registered = false := by
  obtain ⟨hfalse, hran, hreg, hstream⟩ := startAsyncGrab_refused hopen hrun hcb hthrows
  have hgrab : (streamOf a.startAsyncGrab.1.sdk.calls).grabbing = false := by
    rw [hstream, streamOf_asks]
    split <;> exact hidle
  have hunbridged : (streamOf a.startAsyncGrab.1.sdk.calls).registered = false ↔
      a.throwsAt 0 = false ∨ (streamOf a.sdk.calls).registered = false := by
    rw [hstream, streamOf_asks]
    cases a.throwsAt 0 <;> simp [StreamState.after]
  rw [← hunbridged]
  exact ⟨fun hleft => (hleft hfalse).2.registered,
    fun hunreg _ => ⟨(halted_iff hran).mpr hgrab, hunreg, hreg⟩⟩

theorem Rolled.halted_iff {after : DaHengGalaxyAdapter} {ok : Bool} (h : a.Rolled after ok)
    (hidle : (streamOf a.sdk.calls).grabbing = false) :
    (ok = false → after.Halted ∧ after.Unbridged) ↔ a.throwsAt 3 = false := by
  constructor
  · intro hleft
    refine Bool.eq_false_iff.mpr fun hstart => ?_
    have hfalse : ok = false := by
      rw [h.succeeds, hstart, Bool.not_true, Bool.and_false]
    obtain ⟨hhalted, hunbridged⟩ := hleft hfalse
    have htwo : a.throwsAt 2 = true := by
      by_contra htwo
      have hgrab := hhalted.grabbing
      rw [h.grabbing hfalse, if_neg htwo] at hgrab
      exact Bool.noConfusion hgrab
    have hthree := hunbridged.registered
    rw [h.registered hfalse, htwo, if_pos rfl, hstart] at hthree
    exact Bool.noConfusion hthree
  · intro hstart hfalse
    have htwo : a.throwsAt 2 = true := by
      have hsucceeds := h.succeeds
      rw [hfalse, hstart] at hsucceeds
      simpa using hsucceeds
    have hgrab : (streamOf after.sdk.calls).grabbing = false := by
      rw [h.grabbing hfalse, if_pos htwo]
      exact hidle
    have hreg : (streamOf after.sdk.calls).registered = false := by
      rw [h.registered hfalse, htwo, if_pos rfl]
      exact hstart
    exact ⟨(DaHengGalaxyAdapter.halted_iff (h.grabRunning hfalse)).mpr hgrab, hreg,
      h.captureRegistered hfalse⟩

theorem startAsyncGrab_halted_iff (h : a.Backed) (hopen : a.requireOpen.2 = true)
    (hidle : (streamOf a.sdk.calls).grabbing = false) :
    (a.startAsyncGrab.2 = false → a.startAsyncGrab.1.Halted ∧ a.startAsyncGrab.1.Unbridged) ↔
      if a.userFrameCb = none ∧ a.userResultCb = none then
        (streamOf a.sdk.calls).registered = false
      else if a.throwsAt 1 then
        a.throwsAt 0 = false ∨ (streamOf a.sdk.calls).registered = false
      else a.throwsAt 3 = false := by
  have hrun : a.grabRunning = false :=
    Bool.eq_false_iff.mpr fun hr => Bool.eq_false_iff.mp hidle (h.grabbing hr)
  by_cases hcb : a.userFrameCb = none ∧ a.userResultCb = none
  · rw [if_pos hcb]
    exact startAsyncGrab_uncalled_halted_iff h hopen hidle hrun hcb
  · rw [if_neg hcb]
    cases hthrows : a.throwsAt 1 with
    | true => exact startAsyncGrab_refused_halted_iff hopen hidle hrun hcb hthrows
    | false => exact (startAsyncGrab_rolled hopen hrun hcb hthrows).halted_iff hidle

/-- The start that failed leaves the stream at rest exactly when these calls of the SDK went well.
The fourth call of `StartAsyncGrab` is the one that starts the acquisition, or, after a failed
`StartGrab`, the one that takes the bridge off again. -/
theorem failedStart_halted_iff (h : a.Reachable) (hopen : a.requireOpen.2 = true)
    (hidle : (streamOf a.sdk.calls).grabbing = false) :
    ((a.startStreamGrab.2 = false → a.startStreamGrab.1.Halted) ↔
      a.throwsAt 0 = true ∨ a.throwsAt 1 = false) ∧
    ((a.startAsyncGrab.2 = false → a.startAsyncGrab.1.Halted ∧ a.startAsyncGrab.1.Unbridged) ↔
      if a.userFrameCb = none ∧ a.userResultCb = none then
        (streamOf a.sdk.calls).registered = false
      else if a.throwsAt 1 then
        a.throwsAt 0 = false ∨ (streamOf a.sdk.calls).registered = false
      else a.throwsAt 3 = false) := by
  have hrun : a.grabRunning = false :=
    Bool.eq_false_iff.mpr fun hr => Bool.eq_false_iff.mp hidle (h.backed.grabbing hr)
  exact ⟨startStreamGrab_halted_iff hopen hrun hidle, startAsyncGrab_halted_iff h.backed hopen hidle⟩

/-- Only this call throws. -/
def throwing (n : ℕ) : ℕ → Answer := fun k => if k = n then { throws := some "timeout" } else {}

/-- An open camera with a frame callback, where `AcquisitionStart` is going to throw. -/
def startRefused : DaHengGalaxyAdapter :=
  run step (fresh (throwing 11)) [.openDevice "SN1", .setFrameCallback (some "SN1")]

theorem failedStart_halted_iff_refused :
    ((startRefused.startStreamGrab.2 = false → startRefused.startStreamGrab.1.Halted) ↔
      startRefused.throwsAt 0 = true ∨ startRefused.throwsAt 1 = false) ∧
    ((startRefused.startAsyncGrab.2 = false →
        startRefused.startAsyncGrab.1.Halted ∧ startRefused.startAsyncGrab.1.Unbridged) ↔
      if startRefused.userFrameCb = none ∧ startRefused.userResultCb = none then
        (streamOf startRefused.sdk.calls).registered = false
      else if startRefused.throwsAt 1 then
        startRefused.throwsAt 0 = false ∨ (streamOf startRefused.sdk.calls).registered = false
      else startRefused.throwsAt 3 = false) :=
  failedStart_halted_iff ⟨_, _, rfl⟩ (by decide +kernel) (by decide +kernel)

/-- The device goes on grabbing behind a flag that is down. -/
theorem startRefused_grabbing :
    startRefused.Reachable ∧ startRefused.requireOpen.2 = true ∧
      (streamOf startRefused.sdk.calls).grabbing = false ∧
      startRefused.startAsyncGrab.2 = false ∧
      (streamOf startRefused.startAsyncGrab.1.sdk.calls).grabbing = true ∧
      startRefused.startAsyncGrab.1.grabRunning = false ∧
      ¬startRefused.startAsyncGrab.1.Halted := by
  refine ⟨⟨_, _, rfl⟩, by decide +kernel, by decide +kernel, by decide +kernel, by decide +kernel,
    by decide +kernel, fun h => absurd h.grabbing (by decide +kernel)⟩

end Camera3D.Camera.DaHengGalaxyAdapter
