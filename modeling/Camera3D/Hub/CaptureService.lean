import Camera3D.Transition.Simulation
import Mathlib.Logic.Function.Basic

/-! What a hub is for: it keeps, under the id of each capture, the pictures that its cameras took for
it. Nothing is said here about rings, ports or replies. -/
namespace Camera3D.Hub
open Transition

/-- A capture in flight, and what each camera has taken for it. -/
structure Taking (C I P : Type*) where
  id : I
  taken : C → List P

/-- One session at a time, at most one capture in flight, and the pictures of earlier ones, of which
some may have been forgotten. -/
structure CaptureService (C I P : Type*) where
  per : ℕ
  session : List C := []
  inFlight : Option (Taking C I P) := none
  kept : I → Option (List (C × P)) := fun _ => none

inductive CaptureAct (C I P : Type*) where
  | opened (cameras : List C)
  | closed
  | started (id : I)
  | gaveUp
  | took (camera : C) (picture : P)
  deriving DecidableEq

variable {C I P : Type*} [DecidableEq C] [DecidableEq I]

def Taking.add (fl : Taking C I P) (c : C) (p : P) : Taking C I P :=
  { fl with taken := Function.update fl.taken c (fl.taken c ++ [p]) }

/-- The first pictures of each camera, camera by camera. -/
def album (per : ℕ) (session : List C) (taken : C → List P) : List (C × P) :=
  session.flatMap fun c => ((taken c).take per).map (Prod.mk c)

namespace CaptureService

def Complete (t : CaptureService C I P) (fl : Taking C I P) : Prop :=
  ∀ c ∈ t.session, t.per ≤ (fl.taken c).length

/-- Nothing is kept that was not kept before or is just being stored. -/
def Stores (t : CaptureService C I P) (fl : Taking C I P) (kept : I → Option (List (C × P))) : Prop :=
  ∀ id, kept id = none ∨ kept id = Function.update t.kept fl.id (some (album t.per t.session fl.taken)) id

inductive May (t : CaptureService C I P) : CaptureAct C I P → CaptureService C I P → Prop
  | opened (cameras : List C) (h : t.session = []) : May t (.opened cameras) { t with session := cameras }
  | closed : May t .closed { per := t.per }
  | started (id : I) (hs : t.session ≠ []) (hidle : t.inFlight = none) :
    May t (.started id) { t with inFlight := some ⟨id, fun _ => []⟩ }
  | gaveUp (h : t.inFlight ≠ none) : May t .gaveUp { t with inFlight := none }
  | dropped (c : C) (p : P) (h : t.inFlight = none ∨ c ∉ t.session) : May t (.took c p) t
  | gathered (c : C) (p : P) (fl : Taking C I P) (hfl : t.inFlight = some fl) (hc : c ∈ t.session)
    (hshort : ¬ t.Complete (fl.add c p)) : May t (.took c p) { t with inFlight := some (fl.add c p) }
  | finished (c : C) (p : P) (fl : Taking C I P) (hfl : t.inFlight = some fl) (hc : c ∈ t.session)
    (hfull : t.Complete (fl.add c p)) (kept : I → Option (List (C × P)))
    (hkept : t.Stores (fl.add c p) kept) : May t (.took c p) { t with inFlight := none, kept }
  | lost (c : C) (p : P) (fl : Taking C I P) (hfl : t.inFlight = some fl) (hc : c ∈ t.session)
    (hfull : t.Complete (fl.add c p)) : May t (.took c p) { t with inFlight := none }

/-- The pictures of one camera, in the order in which they were taken. -/
def picturesOf (c : C) : List (CaptureAct C I P) → List P
  | [] => []
  | .took c' p :: acts => if c' = c then p :: picturesOf c acts else picturesOf c acts
  | _ :: acts => picturesOf c acts

omit [DecidableEq I] in
theorem picturesOf_append (c : C) (acts acts' : List (CaptureAct C I P)) :
    picturesOf c (acts ++ acts') = picturesOf c acts ++ picturesOf c acts' := by
  induction acts with
  | nil => rfl
  | cons a acts ih =>
    cases a with
    | took c' p =>
      simp only [List.cons_append, picturesOf, ih]
      split_ifs <;> rfl
    | opened cameras => exact ih
    | closed => exact ih
    | started id => exact ih
    | gaveUp => exact ih

omit [DecidableEq I] in
theorem mem_picturesOf {c : C} {p : P} {acts : List (CaptureAct C I P)} (h : p ∈ picturesOf c acts) :
    .took c p ∈ acts := by
  induction acts with
  | nil => cases h
  | cons a acts ih =>
    cases a with
    | took c' p' =>
      rw [picturesOf] at h
      split_ifs at h with hc
      · rcases List.mem_cons.mp h with rfl | hrest
        · rw [hc]
          exact List.mem_cons_self
        · exact List.mem_cons_of_mem _ (ih hrest)
      · exact List.mem_cons_of_mem _ (ih h)
    | opened cameras => exact List.mem_cons_of_mem _ (ih h)
    | closed => exact List.mem_cons_of_mem _ (ih h)
    | started id => exact List.mem_cons_of_mem _ (ih h)
    | gaveUp => exact List.mem_cons_of_mem _ (ih h)

/-- Nothing but pictures is taken. -/
def OnlyPictures (acts : List (CaptureAct C I P)) : Prop := ∀ a ∈ acts, ∃ c p, a = .took c p

omit [DecidableEq C] [DecidableEq I] in
theorem OnlyPictures.concat {acts : List (CaptureAct C I P)} (h : OnlyPictures acts) (c : C) (p : P) :
    OnlyPictures (acts ++ [.took c p]) := by
  intro a ha
  rcases List.mem_append.mp ha with hold | hnew
  · exact h a hold
  · exact ⟨c, p, List.mem_singleton.mp hnew⟩

/-- The pictures are those taken by each camera from a start of the id on, and the session has not
ended since. -/
structure TakenFor (per : ℕ) (session : List C) (id : I) (pictures : List (C × P))
    (log : List (CaptureAct C I P)) (before during after : List (CaptureAct C I P)) : Prop where
  split : log = before ++ .started id :: (during ++ after)
  only : OnlyPictures during
  open_ : .closed ∉ after
  full : ∀ c ∈ session, per ≤ (picturesOf c during).length
  album : pictures = album per session fun c => picturesOf c during

/-- What the state says about the acts so far. -/
structure Accounts (log : List (CaptureAct C I P)) (t : CaptureService C I P) : Prop where
  idle : t.session = [] → t.inFlight = none ∧ ∀ id, t.kept id = none
  taking : ∀ fl, t.inFlight = some fl → ∃ before during,
    log = before ++ .started fl.id :: during ∧ OnlyPictures during ∧
      ∀ c ∈ t.session, fl.taken c = picturesOf c during
  kept : ∀ id pictures, t.kept id = some pictures → ∃ before during after,
    TakenFor t.per t.session id pictures log before during after

variable {log : List (CaptureAct C I P)} {t t' : CaptureService C I P}

omit [DecidableEq I] in
/-- A later act leaves an album as it is, unless it ends the session. -/
theorem TakenFor.concat {per : ℕ} {session : List C} {id : I} {pictures : List (C × P)}
    {before during after : List (CaptureAct C I P)}
    (h : TakenFor per session id pictures log before during after) {a : CaptureAct C I P}
    (ha : a ≠ .closed) : TakenFor per session id pictures (log ++ [a]) before during (after ++ [a]) := by
  refine ⟨?_, h.only, ?_, h.full, h.album⟩
  · rw [h.split]
    simp
  · intro hmem
    rcases List.mem_append.mp hmem with hold | hnew
    · exact h.open_ hold
    · exact ha (List.mem_singleton.mp hnew).symm

omit [DecidableEq I] in
theorem picturesOf_add {fl : Taking C I P} {during : List (CaptureAct C I P)}
    (htaken : ∀ c ∈ t.session, fl.taken c = picturesOf c during) (c : C) (p : P) :
    ∀ c' ∈ t.session, (fl.add c p).taken c' = picturesOf c' (during ++ [.took c p]) := by
  intro c' hc'
  rw [picturesOf_append, Taking.add]
  by_cases hcc : c' = c
  · subst hcc
    simp [picturesOf, htaken c' hc']
  · simp [picturesOf, Function.update_of_ne hcc, htaken c' hc', Ne.symm hcc]

omit [DecidableEq C] in
theorem album_congr {per : ℕ} {session : List C} {taken taken' : C → List P}
    (h : ∀ c ∈ session, taken c = taken' c) : album per session taken = album per session taken' := by
  unfold Hub.album
  apply List.flatMap_congr
  intro c hc
  rw [h c hc]

omit [DecidableEq I] in
theorem Accounts.finished (h : Accounts log t) {c : C} {p : P} {fl : Taking C I P}
    (hfl : t.inFlight = some fl) (hfull : t.Complete (fl.add c p)) :
    ∃ before during after, TakenFor t.per t.session fl.id (album t.per t.session (fl.add c p).taken)
      (log ++ [.took c p]) before during after := by
  obtain ⟨before, during, hlog, honly, htaken⟩ := h.taking fl hfl
  have hadd := picturesOf_add htaken c p
  refine ⟨before, during ++ [.took c p], [], ?_, honly.concat c p, List.not_mem_nil, ?_, ?_⟩
  · rw [hlog]
    simp
  · intro c' hc'
    rw [← hadd c' hc']
    exact hfull c' hc'
  · exact album_congr hadd

omit [DecidableEq I] in
theorem Accounts.still (h : Accounts log t) {a : CaptureAct C I P} (ha : a ≠ .closed) {id : I}
    {pictures : List (C × P)} (hid : t.kept id = some pictures) :
    ∃ before during after, TakenFor t.per t.session id pictures (log ++ [a]) before during after := by
  obtain ⟨before, during, after, htaken⟩ := h.kept id pictures hid
  exact ⟨before, during, after ++ [a], htaken.concat ha⟩

/-- Each act keeps the account. -/
theorem Accounts.may (h : Accounts log t) {a : CaptureAct C I P} (ha : t.May a t') :
    Accounts (log ++ [a]) t' := by
  cases ha with
  | opened cameras hclosed =>
    obtain ⟨hidle, hnone⟩ := h.idle hclosed
    refine ⟨fun _ => ⟨hidle, hnone⟩, ?_, ?_⟩
    · intro fl hfl
      exact absurd (hidle.symm.trans hfl) (by simp)
    · intro id pictures hid
      exact absurd ((hnone id).symm.trans hid) (by simp)
  | closed =>
    refine ⟨fun _ => ⟨rfl, fun _ => rfl⟩, ?_, ?_⟩
    · intro fl hfl
      cases hfl
    · intro id pictures hid
      cases hid
  | started id hs hidle =>
    refine ⟨fun hnil => absurd hnil hs, ?_, ?_⟩
    · intro fl hfl
      obtain rfl := Option.some.inj hfl
      exact ⟨log, [], rfl, fun a ha => absurd ha List.not_mem_nil, fun c _ => rfl⟩
    · intro id' pictures hid
      refine h.still ?_ hid
      simp
  | gaveUp hin =>
    refine ⟨fun hnil => ⟨rfl, (h.idle hnil).2⟩, ?_, ?_⟩
    · intro fl hfl
      cases hfl
    · intro id pictures hid
      refine h.still ?_ hid
      simp
  | dropped c p hdrop =>
    refine ⟨h.idle, ?_, fun id pictures hid => h.still (by simp) hid⟩
    intro fl hfl
    obtain ⟨before, during, hlog, honly, htaken⟩ := h.taking fl hfl
    have hc : c ∉ t.session := by
      rcases hdrop with hnone | hc
      · rw [hfl] at hnone
        cases hnone
      · exact hc
    refine ⟨before, during ++ [.took c p], ?_, honly.concat c p, ?_⟩
    · rw [hlog]
      simp
    · intro c' hc'
      have hne : c ≠ c' := fun heq => hc (heq ▸ hc')
      rw [picturesOf_append, htaken c' hc']
      simp [picturesOf, hne]
  | gathered c p fl hfl hc hshort =>
    refine ⟨fun hnil => absurd hc (hnil ▸ List.not_mem_nil), ?_, ?_⟩
    · intro fl' hfl'
      obtain rfl := Option.some.inj hfl'
      obtain ⟨before, during, hlog, honly, htaken⟩ := h.taking fl hfl
      refine ⟨before, during ++ [.took c p], ?_, honly.concat c p, picturesOf_add htaken c p⟩
      rw [hlog, List.append_assoc]
      rfl
    · intro id pictures hid
      refine h.still ?_ hid
      simp
  | finished c p fl hfl hc hfull kept hstores =>
    refine ⟨fun hnil => absurd hc (hnil ▸ List.not_mem_nil), ?_, ?_⟩
    · intro fl' hfl'
      cases hfl'
    · intro id pictures hid
      rcases hstores id with hnone | hstored
      · exact absurd (hnone.symm.trans hid) (by simp)
      · have hupdate := hstored.symm.trans hid
        by_cases heq : id = fl.id
        · subst heq
          obtain ⟨before, during, after, htaken⟩ := h.finished hfl hfull
          have hsame : pictures = album t.per t.session (fl.add c p).taken := by
            rw [show (fl.add c p).id = fl.id from rfl, Function.update_self] at hupdate
            exact (Option.some.inj hupdate).symm
          exact ⟨before, during, after, htaken.split, htaken.only, htaken.open_, htaken.full,
            hsame.trans htaken.album⟩
        · rw [show (fl.add c p).id = fl.id from rfl, Function.update_of_ne heq] at hupdate
          refine h.still ?_ hupdate
          simp
  | lost c p fl hfl hc hfull =>
    refine ⟨fun hnil => absurd hc (hnil ▸ List.not_mem_nil), ?_, ?_⟩
    · intro fl' hfl'
      cases hfl'
    · intro id pictures hid
      refine h.still ?_ hid
      simp

/-- Whatever is kept under an id are the first pictures of each camera since the id was started. -/
theorem accounts_of_does {per : ℕ} {session : List C} {acts : List (CaptureAct C I P)}
    (h : Does May { per, session } acts t) : Accounts acts t := by
  have hinit : Accounts [] ({ per, session } : CaptureService C I P) := by
    refine ⟨fun _ => ⟨rfl, fun _ => rfl⟩, ?_, ?_⟩
    · intro fl hfl
      cases hfl
    · intro id pictures hid
      cases hid
  exact h.invariant (I := Accounts) (fun _ _ _ _ hmay hacc => hacc.may hmay) hinit

omit [DecidableEq C] [DecidableEq I] in
theorem OnlyPictures.not_started {acts : List (CaptureAct C I P)} (h : OnlyPictures acts) (id : I) :
    .started id ∉ acts := by
  intro hmem
  obtain ⟨c, p, heq⟩ := h _ hmem
  cases heq

omit [DecidableEq C] [DecidableEq I] in
/-- Only pictures between a start and what comes after: a start later in the log lies after them. -/
theorem OnlyPictures.before_start {id id' : I} {during after between rest : List (CaptureAct C I P)}
    (h : OnlyPictures during) (hne : id ≠ id')
    (hlog : .started id :: (during ++ after) = between ++ .started id' :: rest) :
    ∃ between', between = .started id :: (during ++ between') := by
  cases between with
  | nil =>
    obtain ⟨hstart, _⟩ := List.cons.inj hlog
    exact absurd (CaptureAct.started.inj hstart) hne
  | cons a between =>
    obtain ⟨rfl, hrest⟩ := List.cons.inj hlog
    rcases List.append_eq_append_iff.mp hrest with ⟨between', rfl, _⟩ | ⟨cut, rfl, hcut⟩
    · exact ⟨between', rfl⟩
    · cases cut with
      | nil => exact ⟨[], by simp⟩
      | cons a cut =>
        obtain ⟨rfl, _⟩ := List.cons.inj hcut
        exact absurd (List.mem_append_right _ List.mem_cons_self) (h.not_started id')

omit [DecidableEq C] [DecidableEq I] in
/-- Two starts in one log, and only pictures after each: the stretches do not overlap. -/
theorem stretches_apart {id id' : I} (hne : id ≠ id') {before during after before' during' after' :
    List (CaptureAct C I P)} (honly : OnlyPictures during) (honly' : OnlyPictures during')
    (h : before ++ .started id :: (during ++ after) = before' ++ .started id' :: (during' ++ after')) :
    (∃ between, before' = before ++ .started id :: (during ++ between)) ∨
      ∃ between, before = before' ++ .started id' :: (during' ++ between) := by
  rcases List.append_eq_append_iff.mp h with ⟨between, rfl, hrest⟩ | ⟨between, rfl, hrest⟩
  · obtain ⟨between', rfl⟩ := honly.before_start hne hrest
    exact .inl ⟨between', rfl⟩
  · obtain ⟨between', rfl⟩ := honly'.before_start hne.symm hrest
    exact .inr ⟨between', rfl⟩

omit [DecidableEq C] [DecidableEq I] in
theorem mem_album {per : ℕ} {session : List C} (taken : C → List P) {c : C} {p : P}
    (h : (c, p) ∈ album per session taken) : p ∈ taken c := by
  obtain ⟨c', _, hmem⟩ := List.mem_flatMap.mp h
  obtain ⟨p', hp', heq⟩ := List.mem_map.mp hmem
  obtain ⟨rfl, rfl⟩ := Prod.mk.inj heq
  exact List.mem_of_mem_take hp'

omit [DecidableEq I] in
/-- A picture taken in two stretches of a log is taken twice. -/
theorem not_in_both {c : C} {p : P} {id id' : I} {before during between during' after :
      List (CaptureAct C I P)}
    (hnodup : (picturesOf c ((before ++ .started id :: (during ++ between)) ++
      .started id' :: (during' ++ after))).Nodup)
    (hp : p ∈ picturesOf c during) : p ∉ picturesOf c during' := by
  intro hp'
  rw [picturesOf_append, List.nodup_append] at hnodup
  have hfirst : p ∈ picturesOf c (before ++ .started id :: (during ++ between)) := by
    simp [picturesOf, picturesOf_append, hp]
  have hsecond : p ∈ picturesOf c (.started id' :: (during' ++ after)) := by
    simp [picturesOf, picturesOf_append, hp']
  exact hnodup.2.2 p hfirst p hsecond rfl

omit [DecidableEq I] in
/-- If no camera takes the same picture twice, two captures have no picture in common. -/
theorem TakenFor.disjoint {per : ℕ} {session : List C} {id id' : I} (hne : id ≠ id')
    {pictures pictures' : List (C × P)} {before during after before' during' after' :
      List (CaptureAct C I P)} (h : TakenFor per session id pictures log before during after)
    (h' : TakenFor per session id' pictures' log before' during' after')
    (hnodup : ∀ c, (picturesOf c log).Nodup) : pictures.Disjoint pictures' := by
  rintro ⟨c, p⟩ hp hp'
  rw [h.album] at hp
  rw [h'.album] at hp'
  have hin := mem_album (fun c => picturesOf c during) hp
  have hin' := mem_album (fun c => picturesOf c during') hp'
  have hnodup := hnodup c
  rcases stretches_apart hne h.only h'.only (h.split.symm.trans h'.split) with
    ⟨between, hbefore⟩ | ⟨between, hbefore⟩
  · rw [h'.split, hbefore] at hnodup
    exact not_in_both hnodup hin hin'
  · rw [h.split, hbefore] at hnodup
    exact not_in_both hnodup hin' hin

end CaptureService
end Camera3D.Hub
