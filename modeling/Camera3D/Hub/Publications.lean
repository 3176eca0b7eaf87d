import Camera3D.Camera.Manager
import Camera3D.Store.Recency

/-! Published captures, and the store in which the hub keeps the most recent of them. -/
namespace Camera3D.Hub
open Camera Store

structure CameraRawShmSlot where
  managerDeviceId : String := ""
  ip : String := ""
  serialNumber : String := ""
  cameraIndex : UInt32 := 0
  burstFrameIndex : UInt32 := 0
  rawSlot : UInt32 := 0
  rawSeq : UInt64 := 0
  w : UInt32 := 0
  h : UInt32 := 0
  fmt : UInt32 := 0
  payloadOff : UInt64 := 0
  payloadSize : UInt64 := 0
  /-- History: the frame the entry was written for. No function reads it. -/
  frame : FrameBuffer := {}
  deriving DecidableEq

structure CapturePublication where
  clientCaptureId : UInt64 := 0
  cameraRawSlots : List CameraRawShmSlot := []
  rawSlot : UInt32 := 0
  rawSeq : UInt64 := 0
  w : UInt32 := 0
  h : UInt32 := 0
  fmt : UInt32 := 0
  payloadOff : UInt64 := 0
  payloadSize : UInt64 := 0
  hasInter : Bool := false
  interSlot : UInt32 := 0
  interSeq : UInt64 := 0
  hasFinal : Bool := false
  finSlot : UInt32 := 0
  finSeq : UInt64 := 0
  deriving DecidableEq

structure PublicationStore where
  publications : AList fun _ : UInt64 => CapturePublication := ∅
  finishLru : List UInt64 := []
  latestClientCaptureId : UInt64 := 0

namespace PublicationStore

def kMaxPublications : ℕ := 128

/-- The `while` loop of `RememberPublicationLocked`. -/
def evict : List UInt64 → (AList fun _ : UInt64 => CapturePublication) →
    List UInt64 × AList fun _ : UInt64 => CapturePublication
  | [], publications => ([], publications)
  | old :: rest, publications =>
    if kMaxPublications < (old :: rest).length then evict rest (publications.erase old)
    else (old :: rest, publications)

def rememberPublicationLocked (s : PublicationStore) (cid : UInt64) (pub : CapturePublication) :
    PublicationStore :=
  let publications := s.publications.insert cid { pub with clientCaptureId := cid }
  let kept := evict (s.finishLru ++ [cid]) publications
  ⟨kept.2, kept.1, cid⟩

theorem evict_of_le {lru : List UInt64} (h : lru.length ≤ kMaxPublications)
    (publications : AList fun _ : UInt64 => CapturePublication) :
    evict lru publications = (lru, publications) := by
  cases lru with
  | nil => rfl
  | cons old rest => rw [evict, if_neg (Nat.not_lt.mpr h)]

/-- A call inserts the publication and drops the oldest id once there are more than 128. -/
theorem remember_cases {s : PublicationStore} (hs : s.finishLru.length ≤ kMaxPublications)
    (cid : UInt64) (pub : CapturePublication) :
    (s.finishLru.length < kMaxPublications ∧ s.rememberPublicationLocked cid pub =
      ⟨s.publications.insert cid { pub with clientCaptureId := cid }, s.finishLru ++ [cid], cid⟩) ∨
    ∃ old rest, s.finishLru = old :: rest ∧ rest.length + 1 = kMaxPublications ∧
      s.rememberPublicationLocked cid pub =
        ⟨(s.publications.insert cid { pub with clientCaptureId := cid }).erase old,
          rest ++ [cid], cid⟩ := by
  rcases Nat.lt_or_eq_of_le hs with hlt | heq
  · left
    have hlen : (s.finishLru ++ [cid]).length ≤ kMaxPublications := by
      rw [List.length_append, List.length_singleton]
      exact hlt
    simp only [rememberPublicationLocked, evict_of_le hlen]
    exact ⟨hlt, trivial⟩
  · right
    cases hl : s.finishLru with
    | nil =>
      rw [hl] at heq
      cases heq
    | cons old rest =>
      rw [hl, List.length_cons] at heq
      have hrest : (rest ++ [cid]).length ≤ kMaxPublications := by
        rw [List.length_append, List.length_singleton, heq]
      have hlong : kMaxPublications < (old :: (rest ++ [cid])).length := by
        simp only [List.length_cons, List.length_append, List.length_nil]
        omega
      have hevict : ∀ publications, evict (old :: (rest ++ [cid])) publications =
          (rest ++ [cid], publications.erase old) := by
        intro publications
        simp only [evict, if_pos hlong, evict_of_le hrest]
      refine ⟨old, rest, rfl, heq, ?_⟩
      simp only [rememberPublicationLocked, hl, List.cons_append, hevict]

theorem remember_length {s : PublicationStore} (hs : s.finishLru.length ≤ kMaxPublications)
    (cid : UInt64) (pub : CapturePublication) :
    (s.rememberPublicationLocked cid pub).finishLru.length ≤ kMaxPublications := by
  rcases remember_cases hs cid pub with ⟨hlt, he⟩ | ⟨old, rest, _, hlen, he⟩
  · rw [he, List.length_append, List.length_singleton]
    exact hlt
  · rw [he, List.length_append, List.length_singleton, hlen]

theorem lookup_evict {lru : List UInt64} {publications : AList fun _ : UInt64 => CapturePublication}
    {cid : UInt64} {pub : CapturePublication} (h : (evict lru publications).2.lookup cid = some pub) :
    publications.lookup cid = some pub := by
  induction lru generalizing publications with
  | nil => exact h
  | cons old rest ih =>
    rw [evict] at h
    split_ifs at h
    · have hkept := ih h
      by_cases hc : cid = old
      · rw [hc, AList.lookup_erase] at hkept
        cases hkept
      · rwa [AList.lookup_erase_ne hc] at hkept
    · exact h

/-- What the store holds after a call was remembered by it, or held before. -/
theorem lookup_remember {s : PublicationStore} {cid k : UInt64} {pub p : CapturePublication}
    (h : (s.rememberPublicationLocked cid pub).publications.lookup k = some p) :
    k = cid ∧ p = { pub with clientCaptureId := cid } ∨
      k ≠ cid ∧ s.publications.lookup k = some p := by
  have hinsert := lookup_evict h
  by_cases hk : k = cid
  · rw [hk, AList.lookup_insert] at hinsert
    exact .inl ⟨hk, (Option.some.inj hinsert).symm⟩
  · rw [AList.lookup_insert_ne hk] at hinsert
    exact .inr ⟨hk, hinsert⟩

/-- A full store drops its oldest id, even if that is the id just remembered. -/
def Evicts (s : PublicationStore) (cid : UInt64) : Prop :=
  s.finishLru.length = kMaxPublications ∧ s.finishLru.head? = some cid

instance (s : PublicationStore) (cid : UInt64) : Decidable (s.Evicts cid) :=
  inferInstanceAs (Decidable (_ ∧ _))

theorem lookup_remember_self {s : PublicationStore} (hs : s.finishLru.length ≤ kMaxPublications)
    {cid : UInt64} (hkeep : ¬ s.Evicts cid) (pub : CapturePublication) :
    (s.rememberPublicationLocked cid pub).publications.lookup cid =
      some { pub with clientCaptureId := cid } := by
  rcases remember_cases hs cid pub with ⟨_, he⟩ | ⟨old, rest, hl, hlen, he⟩
  · rw [he, AList.lookup_insert]
  · have hne : cid ≠ old := by
      rintro rfl
      refine hkeep ⟨?_, ?_⟩
      · rw [hl, List.length_cons, hlen]
      · rw [hl, List.head?_cons]
    rw [he, AList.lookup_erase_ne hne, AList.lookup_insert]

/-- The store after a history of calls, newest first. -/
def rememberAll : List (UInt64 × CapturePublication) → PublicationStore
  | [] => {}
  | c :: h => (rememberAll h).rememberPublicationLocked c.1 c.2

theorem finishLru_length (h : List (UInt64 × CapturePublication)) :
    (rememberAll h).finishLru.length ≤ kMaxPublications := by
  induction h with
  | nil => exact Nat.zero_le _
  | cons c h ih => exact remember_length ih c.1 c.2

/-- The list of a full store, oldest first. -/
theorem oldest_eq {ids rest : List UInt64} {old : UInt64}
    (h : old :: rest = (ids.take kMaxPublications).reverse)
    (hlen : rest.length + 1 = kMaxPublications) :
    ids.take kMaxPublications = ids.take 127 ++ [old] ∧ ids.take 127 = rest.reverse := by
  have htake : ids.take kMaxPublications = rest.reverse ++ [old] := by
    rw [← List.reverse_cons, h, List.reverse_reverse]
  have hrest : ids.take 127 = rest.reverse := by
    have h127 : (ids.take kMaxPublications).take 127 = ids.take 127 := by
      rw [List.take_take, Nat.min_eq_left (by decide)]
    rw [← h127, htake, List.take_left']
    rw [List.length_reverse]
    exact Nat.succ_injective hlen
  exact ⟨hrest ▸ htake, hrest⟩

theorem finishLru_eq (h : List (UInt64 × CapturePublication)) :
    (rememberAll h).finishLru = ((h.map Prod.fst).take kMaxPublications).reverse := by
  induction h with
  | nil => rfl
  | cons c h ih =>
    have htake : ((c :: h).map Prod.fst).take kMaxPublications =
        c.1 :: (h.map Prod.fst).take 127 := rfl
    rw [htake, List.reverse_cons, rememberAll]
    rcases remember_cases (finishLru_length h) c.1 c.2 with ⟨hlt, he⟩ | ⟨old, rest, hl, hlen, he⟩
    · have hshort : (h.map Prod.fst).length ≤ 127 := by
        rw [ih, List.length_reverse, List.length_take, kMaxPublications] at hlt
        omega
      rw [he, ih, List.take_of_length_le hshort, List.take_of_length_le (Nat.le_trans hshort (by decide))]
    · obtain ⟨_, hrest⟩ := oldest_eq (hl.symm.trans ih) hlen
      rw [he, hrest, List.reverse_reverse]

/-- What the store must satisfy after a history of calls, newest first. -/
structure Correct (h : List (UInt64 × CapturePublication)) : Prop where
  newest : ∀ cid pub, h.head? = some (cid, pub) →
    (rememberAll h).publications.lookup cid = some { pub with clientCaptureId := cid }
  latest : h ≠ [] → (rememberAll h).latestClientCaptureId ∈ (rememberAll h).publications
  keys : ∀ cid, cid ∈ (rememberAll h).publications ↔ cid ∈ (rememberAll h).finishLru
  once : (rememberAll h).finishLru.Nodup
  bounded : (rememberAll h).publications.keys.length ≤ kMaxPublications
  recent : ∀ cid, (rememberAll h).publications.lookup cid =
    ((recent kMaxPublications h).lookup cid).map fun pub => { pub with clientCaptureId := cid }

/-- Spaced ids: the store holds the last 128 calls. -/
theorem lookup_of_spaced {h : List (UInt64 × CapturePublication)}
    (hs : Spaced kMaxPublications (h.map Prod.fst)) (cid : UInt64) :
    (rememberAll h).publications.lookup cid =
      ((h.take kMaxPublications).lookup cid).map fun pub =>
        { pub with clientCaptureId := cid } := by
  induction h generalizing cid with
  | nil => rfl
  | cons c h ih =>
    obtain ⟨hnot, hs⟩ := hs
    have htake : (c :: h).take kMaxPublications = c :: h.take 127 := rfl
    have hne : ∀ {k : UInt64}, k ≠ c.1 → (k == c.1) = false := fun hk => beq_eq_false_iff_ne.mpr hk
    rw [htake, rememberAll]
    rcases remember_cases (finishLru_length h) c.1 c.2 with ⟨hlt, he⟩ | ⟨old, rest, hl, hlen, he⟩
    · have hshort : h.length ≤ 127 := by
        rw [finishLru_eq, List.length_reverse, List.length_take, List.length_map,
          kMaxPublications] at hlt
        omega
      rw [he, List.take_of_length_le hshort]
      by_cases hc : cid = c.1
      · subst hc
        rw [AList.lookup_insert, List.lookup_cons_self, Option.map_some]
      · rw [AList.lookup_insert_ne hc, ih hs, List.take_of_length_le (Nat.le_trans hshort (by decide)),
          List.lookup_cons, hne hc]
    · rw [finishLru_eq] at hl
      obtain ⟨hids, _⟩ := oldest_eq hl.symm hlen
      obtain ⟨pub, hpub⟩ := take_succ_of_keys (n := 127) hids
      have hold : old ≠ c.1 := by
        rintro rfl
        exact hnot (hids ▸ List.mem_append_right _ (List.mem_singleton.mpr rfl))
      have honce : old ∉ (h.take 127).map Prod.fst := by
        have hnodup := hs.nodup_take
        rw [hids, List.nodup_append] at hnodup
        rw [List.map_take]
        exact fun hmem => hnodup.2.2 old hmem old (List.mem_singleton.mpr rfl) rfl
      rw [he]
      by_cases hc : cid = c.1
      · subst hc
        rw [AList.lookup_erase_ne hold.symm, AList.lookup_insert, List.lookup_cons_self,
          Option.map_some]
      · rw [List.lookup_cons, hne hc]
        by_cases hco : cid = old
        · subst hco
          rw [AList.lookup_erase, lookup_eq_none_of_not_mem honce]
          rfl
        · rw [AList.lookup_erase_ne hco, AList.lookup_insert_ne hc, ih hs, kMaxPublications, hpub,
            lookup_append_singleton_of_ne hco]

theorem mem_of_spaced {h : List (UInt64 × CapturePublication)}
    (hs : Spaced kMaxPublications (h.map Prod.fst)) (cid : UInt64) :
    cid ∈ (rememberAll h).publications ↔ cid ∈ (rememberAll h).finishLru := by
  rw [← AList.lookup_isSome, lookup_of_spaced hs, finishLru_eq, List.mem_reverse, Option.isSome_map,
    ← List.map_take]
  constructor
  · intro hsome
    obtain ⟨pub, hpub⟩ := Option.isSome_iff_exists.mp hsome
    obtain ⟨l₁, l₂, heq, _⟩ := List.lookup_eq_some_iff.mp hpub
    rw [heq, List.map_append]
    exact List.mem_append_right _ (List.mem_map.mpr ⟨_, List.mem_cons_self, rfl⟩)
  · intro hmem
    obtain ⟨e, he, rfl⟩ := List.mem_map.mp hmem
    by_contra hnone
    rw [Bool.not_eq_true, Option.isSome_eq_false_iff, Option.isNone_iff_eq_none] at hnone
    exact bne_iff_ne.mp (List.lookup_eq_none_iff.mp hnone e he) rfl

theorem correct_of_spaced {h : List (UInt64 × CapturePublication)}
    (hs : Spaced kMaxPublications (h.map Prod.fst)) : Correct h where
  newest cid pub hhead := by
    cases h with
    | nil => cases hhead
    | cons c h =>
      cases hhead
      have htake : ((cid, pub) :: h).take kMaxPublications = (cid, pub) :: h.take 127 := rfl
      rw [lookup_of_spaced hs, htake, List.lookup_cons_self, Option.map_some]
  latest hne := by
    cases h with
    | nil => exact absurd rfl hne
    | cons c h =>
      have hlast : (rememberAll (c :: h)).latestClientCaptureId = c.1 := rfl
      have htake : ((c :: h).map Prod.fst).take kMaxPublications =
          c.1 :: (h.map Prod.fst).take 127 := rfl
      rw [hlast, mem_of_spaced hs, finishLru_eq, List.mem_reverse, htake]
      exact List.mem_cons_self
  keys := mem_of_spaced hs
  once := by
    rw [finishLru_eq, List.nodup_reverse]
    exact hs.nodup_take
  bounded := by
    have hsub : (rememberAll h).publications.keys ⊆ (rememberAll h).finishLru := fun cid hc =>
      (mem_of_spaced hs cid).mp (AList.mem_keys.mpr hc)
    exact Nat.le_trans (List.subperm_of_subset (AList.keys_nodup _) hsub).length_le
      (finishLru_length h)
  recent cid := by rw [lookup_of_spaced hs, recent_eq_take hs]

/-- A repeated id among the last 128 shows up in the call that repeats it. -/
theorem not_mem_of_correct {c : UInt64 × CapturePublication}
    {h : List (UInt64 × CapturePublication)} (hc : Correct (c :: h)) :
    c.1 ∉ (h.map Prod.fst).take kMaxPublications := by
  have honce := hc.once
  have hnew := hc.newest c.1 c.2 rfl
  rw [rememberAll] at honce hnew
  rw [← List.mem_reverse, ← finishLru_eq]
  rcases remember_cases (finishLru_length h) c.1 c.2 with ⟨_, he⟩ | ⟨old, rest, hl, _, he⟩
  · rw [he, List.nodup_append] at honce
    exact fun hmem => honce.2.2 c.1 hmem c.1 (List.mem_singleton.mpr rfl) rfl
  · rw [he, List.nodup_append] at honce
    rw [he] at hnew
    rw [hl]
    intro hmem
    rcases List.mem_cons.mp hmem with rfl | hmem
    · rw [AList.lookup_erase] at hnew
      cases hnew
    · exact honce.2.2 c.1 hmem c.1 (List.mem_singleton.mpr rfl) rfl

/-- The store is a correct bounded store after each call of a history, if and only if no call
reuses an id of the 128 calls before it. -/
theorem correct_iff_spaced (h : List (UInt64 × CapturePublication)) :
    (∀ h', h' <:+ h → Correct h') ↔ Spaced kMaxPublications (h.map Prod.fst) := by
  induction h with
  | nil =>
    refine iff_of_true (fun h' hsuf => ?_) trivial
    rw [List.suffix_nil.mp hsuf]
    exact correct_of_spaced trivial
  | cons c h ih =>
    constructor
    · intro hall
      exact ⟨not_mem_of_correct (hall _ List.suffix_rfl),
        ih.mp fun h' hsuf => hall h' (hsuf.trans (List.suffix_cons c h))⟩
    · intro hs h' hsuf
      rcases List.suffix_cons_iff.mp hsuf with rfl | hsuf
      · exact correct_of_spaced hs
      · exact ih.mpr hs.2 h' hsuf

theorem repeated_id_breaks_store : ¬ ∀ h h', h' <:+ h → Correct h' := by
  intro hall
  have honce := (hall [(5, {}), (5, {})] _ List.suffix_rfl).once
  revert honce
  decide

end PublicationStore
end Camera3D.Hub
