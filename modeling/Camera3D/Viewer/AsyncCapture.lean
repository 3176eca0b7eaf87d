import Camera3D.Transition.Run

/-! Continuous capture in the viewer's adapter: one worker thread, and the calls of the window's thread
that start it and wait for its end. -/
namespace Camera3D.Viewer
open Transition

/-- Where a worker stands in the loop of `AsyncThreadMain`; `source` is the camera of a frame. -/
inductive WorkerPc (β κ ν : Type*) where
  | testing
  | capturing
  | copying (source : κ) (frame : ν)
  | calling (callback : β) (source : κ) (frame : ν)
  | sleeping
  | returned

structure Worker (β κ ν : Type*) where
  pc : WorkerPc β κ ν := .testing
  /-- History: how many threads were started before. -/
  number : ℕ

/-- The calls that change the capture; `session` is the camera that the SDK connects, if it does. -/
inductive AdapterCall (β κ ι : Type*) where
  | connect (info : ι) (session : Option κ)
  | disconnect
  | stopAsyncCapture
  | startAsyncCapture (callback : Option β)

/-- Where the window's thread stands: it waits for the worker before it takes the mutex. -/
inductive WindowPc (β κ ι : Type*) where
  | idle
  | joining (c : AdapterCall β κ ι)
  | locked (c : AdapterCall β κ ι)

structure Delivery (β κ ν : Type*) where
  number : ℕ
  callback : β
  source : κ
  frame : ν

/-- What a worker hands out in one turn. -/
def Worker.handed {β κ ν : Type*} (w : Worker β κ ν) : List (Delivery β κ ν) :=
  match w.pc with
  | .calling callback source frame => [⟨w.number, callback, source, frame⟩]
  | _ => []

structure BestCamera3DAdapter (β κ ν ι : Type*) where
  camera : Option κ := none
  connected : Option ι := none
  asyncCb : Option β := none
  asyncStop : Bool := true
  asyncThread : Option (Worker β κ ν) := none
  window : WindowPc β κ ι := .idle
  /-- History: the frames handed out, newest first. -/
  delivered : List (Delivery β κ ν) := []
  /-- History: the callback and the camera of each thread that was started, in order. -/
  started : List (Option β × κ) := []

inductive AdapterEvent (β κ ν ι : Type*) where
  | call (c : AdapterCall β κ ι)
  | window
  /-- The worker goes on; a capture comes to a frame, or fails. -/
  | worker (captured : Option ν)

namespace BestCamera3DAdapter
variable {β κ ν ι : Type*} (isConnected : κ → Bool)

def startAsyncCapture (a : BestCamera3DAdapter β κ ν ι) (callback : Option β) :
    BestCamera3DAdapter β κ ν ι × Bool :=
  match a.camera with
  | none => (a, false)
  | some camera =>
    if !isConnected camera then (a, false)
    else if a.asyncThread.isSome then (a, false)
    else ({ a with
      asyncCb := callback
      asyncStop := false
      asyncThread := some { number := a.started.length }
      started := a.started ++ [(callback, camera)] }, true)

/-- The part of a call that runs under the mutex. -/
def runLocked (a : BestCamera3DAdapter β κ ν ι) : AdapterCall β κ ι → BestCamera3DAdapter β κ ν ι
  | .connect info (some session) => { a with asyncCb := none, camera := some session, connected := some info }
  | .connect _ none => { a with asyncCb := none, camera := none, connected := none }
  | .disconnect => { a with asyncCb := none, camera := none, connected := none }
  | .stopAsyncCapture => { a with asyncCb := none }
  | .startAsyncCapture callback => (a.startAsyncCapture isConnected callback).1

/-- A call is entered: all but a start set the flag and wait for the worker. -/
def enter (a : BestCamera3DAdapter β κ ν ι) : AdapterCall β κ ι → BestCamera3DAdapter β κ ν ι
  | .startAsyncCapture callback => { a with window := .locked (.startAsyncCapture callback) }
  | c => { a with asyncStop := true, window := .joining c }

/-- The window's thread goes on in its call; `join` lets it through once the worker has returned. -/
def goOn (a : BestCamera3DAdapter β κ ν ι) : BestCamera3DAdapter β κ ν ι :=
  match a.window with
  | .idle => a
  | .joining c =>
    match a.asyncThread with
    | none => { a with window := .locked c }
    | some ⟨.returned, _⟩ => { a with asyncThread := none, window := .locked c }
    | some _ => a
  | .locked c => { a.runLocked isConnected c with window := .idle }

/-- One turn of the worker. -/
def work (a : BestCamera3DAdapter β κ ν ι) (captured : Option ν) : WorkerPc β κ ν → WorkerPc β κ ν
  | .testing => if a.asyncStop then .returned else .capturing
  | .capturing =>
    match a.camera, captured with
    | some camera, some frame => if isConnected camera then .copying camera frame else .sleeping
    | _, _ => .sleeping
  | .copying source frame =>
    match a.asyncCb with
    | some callback => .calling callback source frame
    | none => .sleeping
  | .calling _ _ _ => .sleeping
  | .sleeping => .testing
  | .returned => .returned

def step (a : BestCamera3DAdapter β κ ν ι) : AdapterEvent β κ ν ι → BestCamera3DAdapter β κ ν ι
  | .call c =>
    match a.window with
    | .idle => a.enter c
    | _ => a
  | .window => a.goOn isConnected
  | .worker captured =>
    match a.asyncThread with
    | none => a
    | some w =>
      { a with
        asyncThread := some { w with pc := a.work isConnected captured w.pc }
        delivered := w.handed ++ a.delivered }

/-- What a worker at a place in its loop has in hand: frames of the camera, and its callback. -/
def Holds (a : BestCamera3DAdapter β κ ν ι) : WorkerPc β κ ν → Prop
  | .copying source _ => a.camera = some source
  | .calling callback source _ => a.asyncCb = some callback ∧ a.camera = some source
  | .returned => a.asyncStop = true
  | .testing | .capturing | .sleeping => True

/-- A worker is the last one that was started, and works with what it was started with. -/
structure Current (a : BestCamera3DAdapter β κ ν ι) (w : Worker β κ ν) : Prop where
  last : w.number + 1 = a.started.length
  given : ∃ camera, a.camera = some camera ∧ a.started[w.number]? = some (a.asyncCb, camera)
  holds : a.Holds w.pc

structure Sound (a : BestCamera3DAdapter β κ ν ι) : Prop where
  worker : ∀ w, a.asyncThread = some w → a.Current w
  joining : ∀ c, a.window = .joining c → a.asyncStop = true
  /-- Outside the wait for it, the worker is there as long as the flag is down. -/
  flag : (∀ c, a.window ≠ .joining c) → (a.asyncThread = none ↔ a.asyncStop = true)
  locked : ∀ c, a.window = .locked c → (∀ callback, c ≠ .startAsyncCapture callback) →
    a.asyncThread = none
  info : a.connected.isSome = a.camera.isSome
  delivered : ∀ d ∈ a.delivered, a.started[d.number]? = some (some d.callback, d.source)

theorem sound_init : ({} : BestCamera3DAdapter β κ ν ι).Sound := by
  refine ⟨?_, ?_, ?_, ?_, rfl, ?_⟩
  · intro w hw
    cases hw
  · intro c hc
    cases hc
  · simp
  · intro c hc
    cases hc
  · intro d hd
    cases hd

variable {isConnected} {a b : BestCamera3DAdapter β κ ν ι}

/-- What a worker holds it still holds if the callback and the camera are left alone. -/
theorem Current.congr {w : Worker β κ ν} (h : a.Current w) (hcb : b.asyncCb = a.asyncCb)
    (hcamera : b.camera = a.camera) (hstarted : b.started = a.started)
    (hstop : a.asyncStop = true → b.asyncStop = true) : b.Current w := by
  refine ⟨hstarted ▸ h.last, ?_, ?_⟩
  · rw [hcb, hcamera, hstarted]
    exact h.given
  · have hholds := h.holds
    cases hpc : w.pc with
    | testing | capturing | sleeping => trivial
    | copying source frame =>
      rw [hpc] at hholds
      exact hcamera.trans hholds
    | calling callback source frame =>
      rw [hpc] at hholds
      exact ⟨hcb.trans hholds.1, hcamera.trans hholds.2⟩
    | returned =>
      rw [hpc] at hholds
      exact hstop hholds

theorem Sound.enter (h : a.Sound) (hidle : a.window = .idle) (c : AdapterCall β κ ι) :
    (a.enter c).Sound := by
  have hnot : ∀ c, a.window ≠ .joining c := by
    intro c hc
    rw [hidle] at hc
    cases hc
  have hjoins : ∀ c, ({ a with asyncStop := true, window := .joining c } :
      BestCamera3DAdapter β κ ν ι).Sound := by
    intro c
    refine ⟨?_, fun _ _ => rfl, ?_, ?_, h.info, h.delivered⟩
    · intro w hw
      exact (h.worker w hw).congr rfl rfl rfl fun _ => rfl
    · intro hout
      exact absurd rfl (hout c)
    · intro c' hc'
      cases hc'
  cases c with
  | connect info session => exact hjoins _
  | disconnect => exact hjoins _
  | stopAsyncCapture => exact hjoins _
  | startAsyncCapture callback =>
    refine ⟨?_, ?_, fun _ => h.flag hnot, ?_, h.info, h.delivered⟩
    · intro w hw
      exact (h.worker w hw).congr rfl rfl rfl id
    · intro c hc
      cases hc
    · intro c hc hne
      obtain rfl := WindowPc.locked.inj hc
      exact absurd rfl (hne callback)

/-- The wait is over. -/
theorem Sound.joined (h : a.Sound) {c : AdapterCall β κ ι} (hc : a.window = .joining c) :
    ({ a with asyncThread := none, window := .locked c } : BestCamera3DAdapter β κ ν ι).Sound := by
  refine ⟨?_, ?_, fun _ => iff_of_true rfl (h.joining c hc), fun _ _ _ => rfl, h.info, h.delivered⟩
  · intro w hw
    cases hw
  · intro c' hc'
    cases hc'

/-- A call that has waited for the worker changes what no thread uses. -/
theorem Sound.unused (h : a.Sound) (hthread : a.asyncThread = none)
    (hflag : a.asyncStop = true) (camera : Option κ) (connected : Option ι)
    (hinfo : connected.isSome = camera.isSome) :
    ({ a with asyncCb := none, camera, connected, window := .idle } : BestCamera3DAdapter β κ ν ι).Sound := by
  refine ⟨?_, ?_, fun _ => iff_of_true hthread hflag, ?_, hinfo, h.delivered⟩
  · intro w hw
    exact absurd (hthread.symm.trans hw) (by simp)
  · intro c hc
    cases hc
  · intro c hc
    cases hc

theorem Sound.idle (h : a.Sound) {c : AdapterCall β κ ι} (hc : a.window = .locked c) :
    ({ a with window := .idle } : BestCamera3DAdapter β κ ν ι).Sound := by
  refine ⟨?_, ?_, fun _ => h.flag (by simp [hc]), ?_, h.info, h.delivered⟩
  · intro w hw
    exact (h.worker w hw).congr rfl rfl rfl id
  · intro c' hc'
    cases hc'
  · intro c' hc'
    cases hc'

theorem startAsyncCapture_cases (isConnected : κ → Bool) (a : BestCamera3DAdapter β κ ν ι) (callback : Option β) :
    a.startAsyncCapture isConnected callback = (a, false) ∨
      ∃ camera, a.camera = some camera ∧ a.asyncThread = none ∧
        a.startAsyncCapture isConnected callback = ({ a with
          asyncCb := callback
          asyncStop := false
          asyncThread := some { number := a.started.length }
          started := a.started ++ [(callback, camera)] }, true) := by
  unfold startAsyncCapture
  cases hcamera : a.camera with
  | none => exact .inl rfl
  | some camera =>
    dsimp only
    split_ifs with hconn hthread
    · exact .inl rfl
    · exact .inl rfl
    · exact .inr ⟨camera, rfl, by simpa using hthread, rfl⟩

theorem Sound.start (h : a.Sound) {callback : Option β}
    (hc : a.window = .locked (.startAsyncCapture callback)) :
    ({ (a.startAsyncCapture isConnected callback).1 with window := .idle } :
      BestCamera3DAdapter β κ ν ι).Sound := by
  rcases startAsyncCapture_cases isConnected a callback with
    he | ⟨camera, hcamera, hthread, he⟩
  · rw [he]
    exact h.idle hc
  · rw [he]
    refine ⟨?_, ?_, ?_, ?_, h.info, ?_⟩
    · intro w hw
      obtain rfl := Option.some.inj hw
      exact ⟨by simp, ⟨camera, hcamera, by simp⟩, trivial⟩
    · intro c hc'
      cases hc'
    · simp
    · intro c hc'
      cases hc'
    · intro d hd
      have hold := h.delivered d hd
      have hlt : d.number < a.started.length := (List.getElem?_eq_some_iff.mp hold).1
      rw [← hold]
      exact List.getElem?_append_left hlt

theorem Sound.runLocked (h : a.Sound) {c : AdapterCall β κ ι} (hc : a.window = .locked c) :
    ({ a.runLocked isConnected c with window := .idle } : BestCamera3DAdapter β κ ν ι).Sound := by
  have hflag : a.asyncThread = none ↔ a.asyncStop = true := h.flag (by simp [hc])
  cases c with
  | connect info session =>
    have hthread := h.locked _ hc (by simp)
    cases session with
    | none => exact h.unused hthread (hflag.mp hthread) none none rfl
    | some session => exact h.unused hthread (hflag.mp hthread) (some session) (some info) rfl
  | disconnect =>
    have hthread := h.locked _ hc (by simp)
    exact h.unused hthread (hflag.mp hthread) none none rfl
  | stopAsyncCapture =>
    have hthread := h.locked _ hc (by simp)
    exact h.unused hthread (hflag.mp hthread) a.camera a.connected h.info
  | startAsyncCapture callback => exact h.start hc

theorem Sound.goOn (h : a.Sound) : (a.goOn isConnected).Sound := by
  unfold BestCamera3DAdapter.goOn
  cases hw : a.window with
  | idle => exact h
  | joining c =>
    dsimp only
    split
    next hthread =>
      have hjoined := h.joined hw
      rw [← hthread] at hjoined
      exact hjoined
    next => exact h.joined hw
    next => exact h
  | locked c => exact h.runLocked hw

theorem Sound.work (h : a.Sound) {w : Worker β κ ν} (hw : a.asyncThread = some w) (captured : Option ν) :
    a.Holds (a.work isConnected captured w.pc) := by
  obtain ⟨_, ⟨camera, hcamera, _⟩, hholds⟩ := h.worker w hw
  unfold BestCamera3DAdapter.work
  cases hpc : w.pc with
  | testing =>
    dsimp only
    split_ifs with hstop
    · exact hstop
    · trivial
  | capturing =>
    rw [hcamera]
    cases captured with
    | none => trivial
    | some frame =>
      dsimp only
      split_ifs
      · exact hcamera
      · trivial
  | copying source frame =>
    rw [hpc] at hholds
    cases hcb : a.asyncCb with
    | none => trivial
    | some callback => exact ⟨hcb, hholds⟩
  | calling callback source frame => trivial
  | sleeping => trivial
  | returned =>
    rw [hpc] at hholds
    exact hholds

theorem mem_handed {w : Worker β κ ν} {d : Delivery β κ ν} (hd : d ∈ w.handed) :
    d.number = w.number ∧ w.pc = .calling d.callback d.source d.frame := by
  unfold Worker.handed at hd
  cases hpc : w.pc with
  | calling callback source frame =>
    rw [hpc] at hd
    obtain rfl := List.mem_singleton.mp hd
    exact ⟨rfl, rfl⟩
  | testing | capturing | copying | sleeping | returned =>
    rw [hpc] at hd
    cases hd

/-- A frame is handed to the callback that the worker was started with, and comes from its camera. -/
theorem Sound.handed (h : a.Sound) {w : Worker β κ ν} (hw : a.asyncThread = some w)
    {d : Delivery β κ ν} (hd : d ∈ w.handed) :
    a.started[d.number]? = some (some d.callback, d.source) := by
  obtain ⟨_, ⟨camera, hcamera, hgiven⟩, hholds⟩ := h.worker w hw
  obtain ⟨hnumber, hpc⟩ := mem_handed hd
  rw [hpc] at hholds
  have hsource : camera = d.source := Option.some.inj (hcamera.symm.trans hholds.2)
  rw [hnumber, hgiven, hholds.1, hsource]

theorem Sound.step (h : a.Sound) (e : AdapterEvent β κ ν ι) : (a.step isConnected e).Sound := by
  cases e with
  | call c =>
    unfold BestCamera3DAdapter.step
    cases hw : a.window with
    | idle => exact h.enter hw c
    | joining c' => exact h
    | locked c' => exact h
  | window => exact h.goOn
  | worker captured =>
    unfold BestCamera3DAdapter.step
    cases hw : a.asyncThread with
    | none => exact h
    | some w =>
      have hcurrent := h.worker w hw
      refine ⟨?_, h.joining, ?_, ?_, h.info, ?_⟩
      · intro w' hw'
        obtain rfl := Option.some.inj hw'
        exact ⟨hcurrent.last, hcurrent.given, h.work hw captured⟩
      · intro hout
        rw [← h.flag hout, hw]
        simp
      · intro c hc hne
        exact absurd (hw.symm.trans (h.locked c hc hne)) (by simp)
      · intro d hd
        rcases List.mem_append.mp hd with hnew | hold
        · exact h.handed hw hnew
        · exact h.delivered d hold

theorem run_sound (es : List (AdapterEvent β κ ν ι)) :
    (run (step isConnected) ({} : BestCamera3DAdapter β κ ν ι) es).Sound :=
  run_invariant (I := Sound) (fun _ e h => h.step e) sound_init es

/-- Since a point at which `n` threads had been started and none was running: what was handed out
afterwards comes from later threads. -/
structure Later (n : ℕ) (old : List (Delivery β κ ν)) (a : BestCamera3DAdapter β κ ν ι) : Prop where
  started : n ≤ a.started.length
  worker : ∀ w, a.asyncThread = some w → n ≤ w.number
  delivered : ∃ new, a.delivered = new ++ old ∧ ∀ d ∈ new, n ≤ d.number

variable {n : ℕ} {old : List (Delivery β κ ν)}

theorem Later.goOn (h : Later n old a) : Later n old (a.goOn isConnected) := by
  have hstart : ∀ callback, Later n old
      { (a.startAsyncCapture isConnected callback).1 with window := .idle } := by
    intro callback
    rcases startAsyncCapture_cases isConnected a callback with he | ⟨camera, _, _, he⟩
    · rw [he]
      exact ⟨h.started, h.worker, h.delivered⟩
    · rw [he]
      refine ⟨?_, ?_, h.delivered⟩
      · have hn := h.started
        simp only [List.length_append, List.length_singleton]
        omega
      · intro w hw
        obtain rfl := Option.some.inj hw
        exact h.started
  unfold BestCamera3DAdapter.goOn
  cases hw : a.window with
  | idle => exact h
  | joining c =>
    dsimp only
    split
    next => exact ⟨h.started, h.worker, h.delivered⟩
    next =>
      refine ⟨h.started, ?_, h.delivered⟩
      intro w hw'
      cases hw'
    next => exact h
  | locked c =>
    cases c with
    | connect info session =>
      cases session with
      | none => exact ⟨h.started, h.worker, h.delivered⟩
      | some session => exact ⟨h.started, h.worker, h.delivered⟩
    | disconnect => exact ⟨h.started, h.worker, h.delivered⟩
    | stopAsyncCapture => exact ⟨h.started, h.worker, h.delivered⟩
    | startAsyncCapture callback => exact hstart callback

theorem Later.step (h : Later n old a) (e : AdapterEvent β κ ν ι) :
    Later n old (a.step isConnected e) := by
  cases e with
  | call c =>
    unfold BestCamera3DAdapter.step
    cases a.window with
    | idle =>
      cases c with
      | connect | disconnect | stopAsyncCapture | startAsyncCapture =>
        exact ⟨h.started, h.worker, h.delivered⟩
    | joining c' => exact h
    | locked c' => exact h
  | window => exact h.goOn
  | worker captured =>
    unfold BestCamera3DAdapter.step
    cases hw : a.asyncThread with
    | none => exact h
    | some w =>
      have hn := h.worker w hw
      obtain ⟨new, hnew, hlater⟩ := h.delivered
      refine ⟨h.started, ?_, ?_⟩
      · intro w' hw'
        obtain rfl := Option.some.inj hw'
        exact hn
      · refine ⟨w.handed ++ new, by simp [hnew], ?_⟩
        intro d hd
        rcases List.mem_append.mp hd with hout | hold
        · rw [(mem_handed hout).1]
          exact hn
        · exact hlater d hold

/-- Once a call that waits for the worker has returned, nothing is handed out until the next start, and
from then on only what the thread of that start captures with the camera it was started on. -/
theorem deliveries_after_stop (isConnected : κ → Bool) (es es' : List (AdapterEvent β κ ν ι))
    {a : BestCamera3DAdapter β κ ν ι} (ha : a = run (step isConnected) {} es) (hidle : a.window = .idle) (hstop : a.asyncStop = true) :
    ∃ new, (run (step isConnected) a es').delivered = new ++ a.delivered ∧
      ∀ d ∈ new, a.started.length ≤ d.number ∧
        (run (step isConnected) a es').started[d.number]? = some (some d.callback, d.source) := by
  have hsound : a.Sound := ha ▸ run_sound es
  have hnone : a.asyncThread = none := (hsound.flag (by simp [hidle])).mpr hstop
  have hend : (run (step isConnected) a es').Sound :=
    run_invariant (I := Sound) (fun _ e h => h.step e) hsound es'
  have hlater : Later a.started.length a.delivered (run (step isConnected) a es') := by
    refine run_invariant (I := Later a.started.length a.delivered) (fun _ e h => h.step e) ?_ es'
    refine ⟨Nat.le_refl _, ?_, [], rfl, fun d hd => absurd hd List.not_mem_nil⟩
    intro w hw
    exact absurd (hnone.symm.trans hw) (by simp)
  obtain ⟨new, hnew, hnumbers⟩ := hlater.delivered
  refine ⟨new, hnew, fun d hd => ⟨hnumbers d hd, hend.delivered d ?_⟩⟩
  rw [hnew]
  exact List.mem_append_left _ hd

/-- Two frames of one start, then a stop that comes while the second is being captured, and another
start on another camera. -/
def restarted : List (AdapterEvent ℕ ℕ ℕ Unit) :=
  [.call (.connect () (some 7)), .window, .window, .call (.startAsyncCapture (some 1)), .window,
    .worker none, .worker (some 10), .worker none, .worker none, .worker none, .worker none,
    .call .stopAsyncCapture, .worker (some 11), .window, .worker none, .worker none, .worker none,
    .worker none, .window, .window]

def startedAgain : List (AdapterEvent ℕ ℕ ℕ Unit) :=
  [.call (.connect () (some 8)), .window, .window, .call (.startAsyncCapture (some 2)), .window,
    .worker none, .worker (some 12), .worker none, .worker none]

theorem deliveries_after_stop_restarted :
    ∃ a, ∃ new : List (Delivery ℕ ℕ ℕ), a = run (step fun _ => true) {} restarted ∧
      (run (step fun _ => true) a startedAgain).delivered = new ++ a.delivered ∧
      ∀ d ∈ new, a.started.length ≤ d.number ∧
        (run (step fun _ => true) a startedAgain).started[d.number]? = some (some d.callback, d.source) := by
  obtain ⟨new, hnew, hlater⟩ := deliveries_after_stop (fun _ => true) restarted startedAgain rfl rfl rfl
  exact ⟨_, new, rfl, hnew, hlater⟩

/-- The turns a worker takes at most before it returns, once the flag is up. -/
def turnsLeft : WorkerPc β κ ν → ℕ
  | .returned => 0
  | .testing => 1
  | .sleeping => 2
  | .calling _ _ _ => 3
  | .copying _ _ => 4
  | .capturing => 5

def IsTurn : AdapterEvent β κ ν ι → Bool
  | .worker _ => true
  | _ => false

def turns (a : BestCamera3DAdapter β κ ν ι) : ℕ := a.asyncThread.elim 0 fun w => turnsLeft w.pc

theorem turnsLeft_work (hstop : a.asyncStop = true) (captured : Option ν) (pc : WorkerPc β κ ν) :
    turnsLeft (a.work isConnected captured pc) ≤ turnsLeft pc - 1 := by
  unfold work
  cases pc with
  | testing => simp [hstop, turnsLeft]
  | capturing =>
    dsimp only
    split
    · split_ifs <;> simp [turnsLeft]
    · simp [turnsLeft]
  | copying source frame =>
    dsimp only
    split <;> simp [turnsLeft]
  | calling callback source frame => simp [turnsLeft]
  | sleeping => simp [turnsLeft]
  | returned => simp [turnsLeft]

theorem goOn_joined {c : AdapterCall β κ ι} (hc : a.window = .joining c) (hturns : a.turns = 0) :
    (a.goOn isConnected).window = .locked c := by
  unfold goOn
  rw [hc]
  unfold turns at hturns
  cases hw : a.asyncThread with
  | none => rfl
  | some w =>
    rw [hw] at hturns
    rcases w with ⟨pc, number⟩
    cases pc with
    | returned => rfl
    | testing | capturing | copying | calling | sleeping => cases hturns

theorem goOn_waiting {c : AdapterCall β κ ι} (hc : a.window = .joining c) (hturns : a.turns ≠ 0) :
    a.goOn isConnected = a := by
  unfold goOn
  rw [hc]
  unfold turns at hturns
  cases hw : a.asyncThread with
  | none =>
    rw [hw] at hturns
    exact absurd rfl hturns
  | some w =>
    rw [hw] at hturns
    rcases w with ⟨pc, number⟩
    cases pc with
    | returned => exact absurd rfl hturns
    | testing | capturing | copying | calling | sleeping => rfl

/-- While a call waits, each turn of the worker brings its end nearer and nothing else happens. -/
theorem waiting_step (isConnected : κ → Bool) {c : AdapterCall β κ ι} (hc : a.window = .joining c)
    (hstop : a.asyncStop = true) (e : AdapterEvent β κ ν ι) (hwaits : e = .window → a.turns ≠ 0) :
    (a.step isConnected e).window = .joining c ∧ (a.step isConnected e).asyncStop = true ∧
      (a.step isConnected e).turns ≤ a.turns - (IsTurn e).toNat := by
  cases e with
  | call c' =>
    unfold step
    rw [hc]
    exact ⟨hc, hstop, Nat.le_refl _⟩
  | window =>
    rw [step, goOn_waiting hc (hwaits rfl)]
    exact ⟨hc, hstop, Nat.le_refl _⟩
  | worker captured =>
    unfold step
    cases hw : a.asyncThread with
    | none =>
      refine ⟨hc, hstop, ?_⟩
      rw [turns, hw]
      exact Nat.zero_le _
    | some w =>
      refine ⟨hc, hstop, ?_⟩
      rw [turns, turns, hw]
      exact turnsLeft_work hstop captured w.pc

theorem joins {c : AdapterCall β κ ι} (hc : a.window = .joining c) (hstop : a.asyncStop = true)
    {es : List (AdapterEvent β κ ν ι)} (hturns : a.turns ≤ es.countP IsTurn) :
    ∃ es₁, es₁ <+: es ++ [.window] ∧ (run (step isConnected) a es₁).window = .locked c := by
  induction es generalizing a with
  | nil => exact ⟨[.window], List.prefix_rfl, goOn_joined hc (Nat.le_zero.mp hturns)⟩
  | cons e es ih =>
    by_cases hwaits : e = .window → a.turns ≠ 0
    · obtain ⟨hc', hstop', hless⟩ := waiting_step isConnected hc hstop e hwaits
      rw [List.countP_cons] at hturns
      have hturns' : (a.step isConnected e).turns ≤ es.countP IsTurn := by
        cases he : IsTurn e with
        | false => simp [he] at hturns hless; omega
        | true => simp [he] at hturns hless; omega
      obtain ⟨es₁, hprefix, hlocked⟩ := ih hc' hstop' hturns'
      exact ⟨e :: es₁, List.cons_prefix_cons.mpr ⟨rfl, hprefix⟩, hlocked⟩
    · obtain ⟨rfl, hzero⟩ := Classical.not_imp.mp hwaits
      have hprefix : [.window] <+: .window :: es ++ [.window] := ⟨es ++ [.window], rfl⟩
      exact ⟨[.window], hprefix, goOn_joined hc (not_ne_iff.mp hzero)⟩

theorem turns_le (a : BestCamera3DAdapter β κ ν ι) : a.turns ≤ 5 := by
  unfold turns
  cases a.asyncThread with
  | none => exact Nat.zero_le _
  | some w => cases hpc : w.pc <;> simp [hpc, turnsLeft]

/-- A call that waits for the worker gets through: five turns of the worker are enough, whatever else
happens meanwhile, and then the next turn of the call itself. -/
theorem join_ends (isConnected : κ → Bool) (es es' : List (AdapterEvent β κ ν ι))
    {c : AdapterCall β κ ι} (hc : (run (step isConnected) {} es).window = .joining c)
    (hturns : 5 ≤ es'.countP IsTurn) :
    ∃ es₁, es₁ <+: es' ++ [.window] ∧
      (run (step isConnected) (run (step isConnected) {} es) es₁).window = .locked c :=
  joins hc ((run_sound es).joining c hc) (Nat.le_trans (turns_le _) hturns)

/-- A stop while a frame is being captured. -/
def stopping : List (AdapterEvent ℕ ℕ ℕ Unit) :=
  [.call (.connect () (some 7)), .window, .window, .call (.startAsyncCapture (some 1)), .window,
    .worker none, .call .stopAsyncCapture]

theorem join_ends_stopping :
    ∃ es₁, es₁ <+: List.replicate 5 (.worker (some 10)) ++ [.window] ∧
      (run (step fun _ => true)
        (run (step fun _ => true) ({} : BestCamera3DAdapter ℕ ℕ ℕ Unit) stopping) es₁).window =
          .locked .stopAsyncCapture :=
  join_ends (fun _ => true) stopping (List.replicate 5 (.worker (some 10))) rfl (by decide)

end BestCamera3DAdapter
end Camera3D.Viewer
