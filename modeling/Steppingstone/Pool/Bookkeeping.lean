/-
  Steppingstone.Pool.Bookkeeping — the counter, the lists and the entries of
  the running batch agree.

  The counter of a batch is raised when a list is committed and lowered in the
  callback of a list; the entries are marked as sent in the one and unmarked or
  taken out in the other.  While no tick gives a batch up, the three agree.
-/
import Mathlib.Data.List.Induction
import Steppingstone.Pool.Batch

namespace Steppingstone.Pool

open Std (TreeMap)
open NestedMap

variable {μ : Type}

/-! ## §1. The property. -/

namespace RequestInfo

/-- The list belongs to a batch: `updateToDbCallback` is its callback. -/
def isBatch (ri : RequestInfo μ) : Bool := ri.callBack == .updateToDb

/-- The owner and the guid of each request. -/
def keys (ri : RequestInfo μ) : List (UInt64 × UInt64) :=
  ri.requestList.requestVec.map fun r => (r.ownerGuid, r.guid)

end RequestInfo

/-- The list belongs to the running batch. -/
def PoolHistory.isCurrent (w : PoolHistory μ) (ri : RequestInfo μ) : Bool :=
  ri.isBatch && decide (w.batchFrom < ri.requestList.requestId)

/-- **The bookkeeping is exact.** -/
structure ExactBooks (w : PoolHistory μ) : Prop where
  /-- The counter is the number of outstanding lists of a batch. -/
  counter : w.pool.updateToDbNum = w.pool.requestInfoVec.countP (·.isBatch)
  /-- A batch starts only when there are none. -/
  startsClear : StartsBatch w.pool → w.pool.requestInfoVec.countP (·.isBatch) = 0
  /-- A sent entry belongs to one outstanding list of the running batch. -/
  sent : ∀ o g info, entry w.pool.updatingDbEntityMap o g = some info →
    info.alreadyRequest = true →
    w.pool.requestInfoVec.countP (fun ri => w.isCurrent ri && decide ((o, g) ∈ ri.keys)) = 1

/-- The tick does not give the batch up. -/
def NoBailOut (w : PoolHistory μ) (a : Action μ) : Prop :=
  a = .update → ¬ BailsOut w.pool

/-! ## §2. The invariant. -/

/-- What the books say about a list. -/
structure Listing where
  requestId : Nat
  isBatch : Bool
  keys : List (UInt64 × UInt64)

/-- What the lists of the pool say of a request. -/
def RequestInfo.listing (ri : RequestInfo μ) : Listing where
  requestId := ri.requestList.requestId
  isBatch := ri.isBatch
  keys := ri.keys

/-- What they say of all. -/
def PoolImp.listings (s : PoolImp μ) : List Listing :=
  s.requestInfoVec.map (·.listing)

/-- Two lists of batches have no owner in common. -/
def Listing.OtherOwners (a b : Listing) : Prop :=
  a.isBatch = true → b.isBatch = true → ∀ k ∈ a.keys, ∀ k' ∈ b.keys, k.1 ≠ k'.1

/-- **The invariant** of the runs in which no batch is given up. -/
structure Booked (s : PoolImp μ) (batchFrom : Nat) : Prop where
  pending : Pending s
  counter : s.updateToDbNum = s.listings.countP (·.isBatch)
  current : ∀ l ∈ s.listings, l.isBatch = true → batchFrom < l.requestId
  owners : s.listings.Pairwise Listing.OtherOwners
  covered : ∀ o g info, entry s.updatingDbEntityMap o g = some info →
    info.alreadyRequest = true → ∃ l ∈ s.listings, l.isBatch = true ∧ (o, g) ∈ l.keys

theorem Booked.of_call {s s' : PoolImp μ} {batchFrom : Nat} (h : Booked s batchFrom)
    (hcall : Call s s') : Booked s' batchFrom := by
  have hlist : s'.listings = s.listings := by
    unfold PoolImp.listings
    rw [hcall.requestInfoVec]
  refine ⟨hcall.pending h.pending, ?_, ?_, ?_, ?_⟩
  · rw [hcall.updateToDbNum, hlist]
    exact h.counter
  · rw [hlist]
    exact h.current
  · rw [hlist]
    exact h.owners
  · rw [hcall.updating, hlist]
    exact h.covered

theorem booked_new (cfg : PoolCfg) : Booked ({ cfg } : PoolImp μ) 0 where
  pending o g info h := by simp at h
  counter := rfl
  current l hl := absurd hl (List.not_mem_nil)
  owners := List.Pairwise.nil
  covered o g info h := by simp at h

theorem Booked.commitPlugin {s : PoolImp μ} {batchFrom : Nat} (h : Booked s batchFrom)
    (requests : List (Request μ)) : Booked (s.commitPlugin requests) batchFrom := by
  let l : Listing := RequestInfo.listing
    { requestList := { requestId := s.requestId + 1, requestVec := requests },
      callBack := .plugin }
  have hl : l.isBatch = false := rfl
  have hlist : (s.commitPlugin requests).listings = s.listings ++ [l] :=
    List.map_append ..
  refine ⟨h.pending, ?_, ?_, ?_, ?_⟩
  · rw [hlist, List.countP_append, List.countP_singleton, hl]
    exact h.counter
  · intro x hx hb
    rw [hlist] at hx
    obtain hx | hx := List.mem_append.mp hx
    · exact h.current x hx hb
    · rw [List.mem_singleton.mp hx, hl] at hb
      exact absurd hb (by simp)
  · rw [hlist]
    refine List.pairwise_append.mpr ⟨h.owners, List.pairwise_singleton .., ?_⟩
    intro a _ b hb _ hbatch
    rw [List.mem_singleton.mp hb, hl] at hbatch
    exact absurd hbatch (by simp)
  · intro o g info he hreq
    obtain ⟨x, hx, hb⟩ := h.covered o g info he hreq
    exact ⟨x, by rw [hlist]; exact List.mem_append_left _ hx, hb⟩

/-! ## §3. A batch starts. -/

/-- What a started batch counts, and the ids of its lists. -/
theorem startBatch_counts (s : PoolImp μ) :
    s.startBatch.updateToDbNum + s.listings.countP (·.isBatch)
      = s.updateToDbNum + s.startBatch.listings.countP (·.isBatch) ∧
    s.requestId ≤ s.startBatch.requestId ∧
    ∀ ri ∈ s.startBatch.requestInfoVec, ri ∈ s.requestInfoVec ∨
      s.requestId < ri.requestList.requestId := by
  refine s.startBatch_induction (I := fun t =>
    t.updateToDbNum + s.listings.countP (·.isBatch)
      = s.updateToDbNum + t.listings.countP (·.isBatch) ∧ s.requestId ≤ t.requestId ∧
    ∀ ri ∈ t.requestInfoVec, ri ∈ s.requestInfoVec ∨ s.requestId < ri.requestList.requestId)
    ⟨rfl, Nat.le_refl _, fun ri hri => .inl hri⟩ ?_
  intro t o m _ _ ⟨hnum, hle, hids⟩
  obtain ⟨id, up, log, hid, heq⟩ | ⟨-, up, heq⟩ := t.updateOwner_cases (o, m)
  · rw [heq]
    exact ⟨hnum, Nat.le_trans hle hid, hids⟩
  · rw [heq]
    refine ⟨?_, Nat.le_succ_of_le hle, ?_⟩
    · show t.updateToDbNum + 1 + _ = _ + ((t.requestInfoVec ++ [_]).map _).countP _
      rw [List.map_append, List.countP_append]
      show _ = _ + (t.listings.countP (·.isBatch) + 1)
      omega
    · intro ri hri
      obtain hri | hri := List.mem_append.mp (show ri ∈ t.requestInfoVec ++ [_] from hri)
      · exact hids ri hri
      · rw [List.mem_singleton.mp hri]
        exact .inr (Nat.lt_succ_of_le hle)

/-- A recorded entry that a batch keeps is sent. -/
theorem turn_sends {em : TreeMap UInt64 (EntityInfo μ)} {o g : UInt64} {info k : DbEntityInfo}
    {request : Option (Request μ)} (hp : PendingEntry o g info)
    (h : info.turn em = some (k, request)) : ∃ r, request = some r := by
  unfold DbEntityInfo.turn at h
  rw [hp.notRequested] at h
  simp only [Bool.false_eq_true, if_false] at h
  split at h
  · cases h
    exact ⟨_, rfl⟩
  · next hrem =>
      split at h
      · cases h
      · split at h
        · cases h
        · split at h
          · cases h
            exact ⟨_, rfl⟩
          · cases h
            exact ⟨_, rfl⟩
          · next hadd hupd =>
              -- only these three operations are recorded
              obtain hop | hop | hop := hp.opType
              · exact absurd hop hadd
              · exact absurd hop hrem
              · exact absurd hop hupd

/-- An entry that a batch keeps has its request in one of the lists. -/
theorem startBatch_sent {s : PoolImp μ} (hpending : Pending s) {o g : UInt64}
    {info : DbEntityInfo} (h : entry s.startBatch.updatingDbEntityMap o g = some info) :
    ∃ m : DbEntityMap, s.dbEntityMap[o]? = some m ∧
      ∃ r ∈ batchRequests s.entityMap m, r.ownerGuid = o ∧ r.guid = g := by
  obtain ⟨m', hm', hg⟩ := entry_eq_some.mp h
  rw [s.startBatch_updating] at hm'
  obtain ⟨m, hm, hown⟩ := Option.bind_eq_some_iff.mp hm'
  unfold PoolImp.ownerEntries at hown
  split at hown
  · exact absurd hown (by simp)
  · obtain rfl := Option.some.inj hown
    match hinfo : m[g]?, hturn : (m[g]?).bind (·.turn s.entityMap) with
    | none, _ => simp [keptEntries, hinfo] at hg
    | some info₀, none =>
        rw [hinfo, Option.bind_some] at hturn
        simp [keptEntries, hinfo, hturn] at hg
    | some info₀, some (k, request) =>
        rw [hinfo, Option.bind_some] at hturn
        have hp := hpending o g info₀ (by rw [entry_of_getElem? hm]; exact hinfo)
        obtain ⟨r, rfl⟩ := turn_sends hp hturn
        obtain ⟨-, hrg, hro, -, -⟩ := turn_request hturn
        exact ⟨m, hm, r, mem_batchRequests.mpr ⟨g, info₀, hinfo, k, hturn⟩,
          hro.trans hp.ownerGuid, hrg.trans hp.guid⟩

/-- **A started batch is booked**, when no list of another one is outstanding. -/
theorem Booked.startBatch {s : PoolImp μ} {batchFrom : Nat} (h : Booked s batchFrom)
    (hstart : StartsBatch s) : Booked s.startBatch s.requestId := by
  obtain ⟨hnum, -, hids⟩ := startBatch_counts s
  obtain ⟨lists, hvec, hfresh, hlist, howners⟩ := startBatch_lists h.pending
  have hzero : s.listings.countP (·.isBatch) = 0 := by
    rw [← h.counter]
    exact hstart.2
  have hnone : ∀ l ∈ s.listings, ¬ l.isBatch = true := List.countP_eq_zero.mp hzero
  have hmap : s.startBatch.listings = s.listings ++ lists.map (·.listing) := by
    unfold PoolImp.listings
    rw [hvec, List.map_append]
  refine ⟨?_, ?_, ?_, ?_, ?_⟩
  · intro o g info he
    obtain ⟨-, hdb, -, -⟩ := s.startBatch_spec
    rw [hdb] at he
    simp at he
  · rw [hstart.2, hzero] at hnum
    omega
  · intro l hl hb
    obtain ⟨ri, hri, rfl⟩ := List.mem_map.mp hl
    obtain hold | hnew := hids ri hri
    · exact absurd hb (hnone _ (List.mem_map_of_mem hold))
    · exact hnew
  · rw [hmap]
    refine List.pairwise_append.mpr ⟨h.owners, ?_, ?_⟩
    · refine List.pairwise_map.mpr (howners.imp ?_)
      intro a b hab _ _ k hk k' hk'
      obtain ⟨r, hr, rfl⟩ := List.mem_map.mp hk
      obtain ⟨r', hr', rfl⟩ := List.mem_map.mp hk'
      exact hab r hr r' hr'
    · intro a ha b _ hbatch
      exact absurd hbatch (hnone a ha)
  · intro o g info he _
    obtain ⟨m, hm, r, hr, rfl, rfl⟩ := startBatch_sent h.pending he
    obtain ⟨ri, hri, hrv⟩ := hlist r.ownerGuid m hm (List.ne_nil_of_mem hr)
    refine ⟨ri.listing, ?_, ?_, ?_⟩
    · rw [hmap]
      exact List.mem_append_right _ (List.mem_map_of_mem hri)
    · obtain ⟨⟨hcb, -, -⟩, -⟩ := hfresh ri hri
      show (ri.callBack == _) = true
      rw [hcb]
      rfl
    · refine List.mem_map.mpr ⟨r, ?_, rfl⟩
      rw [hrv]
      exact hr

/-! ## §4. A reply arrives. -/

/-- A reply changes no owner and no guid of a list. -/
theorem handleFirst_keys (g : UInt64) (reply : CacheReply μ) (rs : List (Request μ)) :
    (handleFirst g reply rs).map (fun r => (r.ownerGuid, r.guid))
      = rs.map fun r => (r.ownerGuid, r.guid) := by
  induction rs with
  | nil => rfl
  | cons r rs ih =>
      rw [handleFirst]
      split
      · rw [List.map_cons, List.map_cons, (r.handlePacket_spec reply).1,
          (r.handlePacket_spec reply).2.1]
      · rw [List.map_cons, List.map_cons, ih]

theorem listing_handlePacket (ri : RequestInfo μ) (g : UInt64) (reply : CacheReply μ) :
    RequestInfo.listing { ri with requestList := ri.requestList.handlePacket g reply }
      = ri.listing := by
  unfold RequestList.handlePacket
  split
  · unfold RequestInfo.listing RequestInfo.keys
    rw [handleFirst_keys]
    rfl
  · rfl

/-- The books after a reply: no listing changes, and the one of a list that is
complete is struck out. -/
theorem handleVec_listings (g : UInt64) (id : Nat) (reply : CacheReply μ)
    (vec : List (RequestInfo μ)) :
    ((handleVec g id reply vec).2 = none ∧
      (handleVec g id reply vec).1.map (·.listing) = vec.map (·.listing)) ∨
    ∃ ri pre post, (handleVec g id reply vec).2 = some ri ∧
      vec.map (·.listing) = pre ++ ri.listing :: post ∧
      (handleVec g id reply vec).1.map (·.listing) = pre ++ post := by
  obtain ⟨hout, -⟩ | ⟨pre, ri, post, hvec, -, -, hout⟩ := handleVec_cases g id reply vec
  · rw [hout]
    exact .inl ⟨rfl, rfl⟩
  · rw [hout, hvec]
    split
    · refine .inr ⟨_, pre.map (·.listing), post.map (·.listing), rfl, ?_, List.map_append ..⟩
      rw [listing_handlePacket, List.map_append, List.map_cons]
    · refine .inl ⟨rfl, ?_⟩
      rw [List.map_append, List.map_cons, List.map_append, List.map_cons, listing_handlePacket]

/-- An answered entry is not marked as sent any more. -/
theorem answeredEntry_sent {ok : Bool} {e : Option DbEntityInfo} {info : DbEntityInfo}
    (h : PoolImp.answeredEntry ok e = some info) : info.alreadyRequest = false := by
  unfold PoolImp.answeredEntry at h
  split at h
  · cases h
  · next x =>
      match hok : ok, hx : x.alreadyRequest with
      | true, true => simp [hx] at h
      | true, false =>
          simp [hx] at h
          rw [← h]
          exact hx
      | false, _ =>
          simp at h
          rw [← h]

/-- The callback of a list leaves no entry of its own marked as sent, and no
other entry changes. -/
theorem answeredBy_sent {rl : RequestList μ} {o g : UInt64} {e : Option DbEntityInfo}
    {info : DbEntityInfo} (h : PoolImp.answeredBy rl o g e = some info)
    (hsent : info.alreadyRequest = true) :
    e = some info ∧ (o, g) ∉ rl.requestVec.map fun r => (r.ownerGuid, r.guid) := by
  unfold PoolImp.answeredBy at h
  have key : ∀ (l : List (Request μ)) (e : Option DbEntityInfo),
      l.foldl (fun v r => PoolImp.answeredEntry r.success v) e = some info → l = [] := by
    intro l
    induction l using List.reverseRecOn with
    | nil => exact fun _ _ => rfl
    | append_singleton l r _ =>
        intro e he
        rw [List.foldl_append] at he
        have := answeredEntry_sent he
        rw [hsent] at this
        exact absurd this (by simp)
  have hnil := key _ _ h
  rw [hnil] at h
  refine ⟨h, fun hmem => ?_⟩
  obtain ⟨r, hr, hk⟩ := List.mem_map.mp hmem
  exact List.filter_eq_nil_iff.mp hnil r hr (decide_eq_true hk)

/-- **A reply keeps the books.** -/
theorem Booked.handlePacket {s : PoolImp μ} {batchFrom : Nat} (h : Booked s batchFrom)
    (g : UInt64) (id : Nat) (reply : CacheReply μ) :
    Booked (s.handlePacket g id reply) batchFrom := by
  obtain ⟨hvec, hdb, -, -, hnum, hentry⟩ := s.handlePacket_books g id reply
  have hpending : Pending (s.handlePacket g id reply) := by
    unfold Pending
    rw [hdb]
    exact h.pending
  obtain ⟨hnone, hlist⟩ | ⟨ri, pre, post, hsome, hold, hnew⟩ :=
    handleVec_listings g id reply s.requestInfoVec
  · have hlist' : (s.handlePacket g id reply).listings = s.listings := by
      unfold PoolImp.listings
      rw [hvec, hlist]
    rw [hnone] at hnum hentry
    refine ⟨hpending, by rw [hnum, hlist']; exact h.counter, ?_, ?_, ?_⟩
    · rw [hlist']
      exact h.current
    · rw [hlist']
      exact h.owners
    · intro o g' info he
      rw [hlist']
      rw [hentry] at he
      exact h.covered o g' info he
  · -- the list is struck out, and the counter lowered if it belongs to a batch
    have hold' : s.listings = pre ++ ri.listing :: post := hold
    have hnew' : (s.handlePacket g id reply).listings = pre ++ post := by
      unfold PoolImp.listings
      rw [hvec, hnew]
    have hsub : (pre ++ post).Sublist s.listings := by
      rw [hold']
      exact List.Sublist.append_left (List.sublist_cons_self _ _) _
    have hcount : s.updateToDbNum
        = (pre ++ post).countP (·.isBatch) + if ri.isBatch = true then 1 else 0 := by
      rw [h.counter, hold', List.countP_append, List.countP_cons, List.countP_append]
      show _ + (_ + if ri.isBatch = true then 1 else 0) = _
      omega
    rw [hsome] at hnum hentry
    refine ⟨hpending, ?_, ?_, ?_, ?_⟩
    · rw [hnew', hnum]
      unfold RequestInfo.isBatch at hcount
      match ri with
      | ⟨rl, .plugin⟩ => exact hcount
      | ⟨rl, .updateToDb⟩ =>
          show s.updateToDbNum - 1 = _
          rw [hcount]
          rfl
    · rw [hnew']
      exact fun l hl => h.current l (hsub.subset hl)
    · rw [hnew']
      exact h.owners.sublist hsub
    · intro o g' info he hsent
      rw [hnew']
      rw [hentry] at he
      -- the entry is one of another list
      have hother : entry s.updatingDbEntityMap o g' = some info ∧
          (ri.isBatch = true → (o, g') ∉ ri.keys) := by
        match ri, he with
        | ⟨rl, .plugin⟩, he => exact ⟨he, fun hb => absurd hb (by simp [RequestInfo.isBatch])⟩
        | ⟨rl, .updateToDb⟩, he =>
            obtain ⟨he', hno⟩ := answeredBy_sent he hsent
            exact ⟨he', fun _ => hno⟩
      obtain ⟨l, hl, hb, hmem⟩ := h.covered o g' info hother.1 hsent
      rw [hold'] at hl
      obtain rfl | hl := mem_middle.mp hl
      · exact absurd hmem (hother.2 hb)
      · exact ⟨l, hl, hb, hmem⟩

/-! ## §5. Every run. -/

theorem Booked.step {w w' : PoolHistory μ} {a : Action μ} (h : Booked w.pool w.batchFrom)
    (hno : NoBailOut w a) (hst : w.step a = some w') : Booked w'.pool w'.batchFrom := by
  obtain ⟨-, hcall, heq⟩ | ⟨rfl, hb, -⟩ | ⟨-, hb, rfl⟩ | ⟨requests, -, rfl⟩ |
    ⟨i, p, reply, -, -, rfl⟩ := PoolHistory.step_cases hst
  · rw [heq]
    exact h.of_call hcall
  · exact absurd hb (hno rfl)
  · exact h.startBatch hb
  · exact h.commitPlugin requests
  · refine Booked.handlePacket ?_ p.guid p.requestId reply
    exact ⟨h.pending, h.counter, h.current, h.owners, h.covered⟩

/-- What the books say, said of the pool. -/
theorem Booked.exact {w : PoolHistory μ} (h : Booked w.pool w.batchFrom) : ExactBooks w := by
  have hcounter : w.pool.updateToDbNum = w.pool.requestInfoVec.countP (·.isBatch) := by
    have := h.counter
    unfold PoolImp.listings at this
    rw [List.countP_map] at this
    exact this
  refine ⟨hcounter, fun hstart => by rw [← hcounter]; exact hstart.2, ?_⟩
  intro o g info he hsent
  obtain ⟨l, hl, hb, hmem⟩ := h.covered o g info he hsent
  obtain ⟨ri, hri, rfl⟩ := List.mem_map.mp hl
  obtain ⟨pre, post, hvec⟩ := List.append_of_mem hri
  have hcur : (w.isCurrent ri && decide ((o, g) ∈ ri.keys)) = true := by
    have hid := h.current _ hl hb
    simp only [PoolHistory.isCurrent, Bool.and_eq_true, decide_eq_true_eq]
    exact ⟨⟨hb, hid⟩, hmem⟩
  -- any other list of the batch has other owners
  have howners := h.owners
  unfold PoolImp.listings at howners
  rw [hvec, List.map_append, List.map_cons, List.pairwise_append, List.pairwise_cons] at howners
  obtain ⟨-, ⟨hpost, -⟩, hpre⟩ := howners
  have hother : ∀ x : RequestInfo μ, Listing.OtherOwners x.listing ri.listing ∨
      Listing.OtherOwners ri.listing x.listing →
      ¬ (w.isCurrent x && decide ((o, g) ∈ x.keys)) = true := by
    intro x hx hboth
    simp only [PoolHistory.isCurrent, Bool.and_eq_true, decide_eq_true_eq] at hboth
    obtain hx | hx := hx
    · exact hx hboth.1.1 hb _ hboth.2 _ hmem rfl
    · exact hx hb hboth.1.1 _ hmem _ hboth.2 rfl
  have hpre0 : pre.countP (fun ri => w.isCurrent ri && decide ((o, g) ∈ ri.keys)) = 0 :=
    List.countP_eq_zero.mpr fun x hx => hother x
      (.inl (hpre _ (List.mem_map_of_mem hx) _ (List.mem_cons_self ..)))
  have hpost0 : post.countP (fun ri => w.isCurrent ri && decide ((o, g) ∈ ri.keys)) = 0 :=
    List.countP_eq_zero.mpr fun x hx => hother x
      (.inr (hpost _ (List.mem_map_of_mem hx)))
  rw [hvec, List.countP_append, List.countP_cons, hpre0, hpost0, if_pos hcur]

/-- **The bookkeeping is exact** in every state of every run in which no tick
gives a batch up. -/
theorem reachable_exact {cfg : PoolCfg} {w : PoolHistory μ}
    (hw : (historySystem cfg).ReachableWhen NoBailOut w) : ExactBooks w := by
  refine Booked.exact (hw.invariant (I := fun w => Booked w.pool w.batchFrom) ?_ ?_)
  · intro w hinit
    have heq : w = { pool := { cfg } } := hinit
    rw [heq]
    exact booked_new cfg
  · intro w a w' h hc hst
    exact h.step hc hst

/-- Two owners, a list of a plugin that completes in between, and a failed
reply: one list of the batch is still outstanding, and so is its entry. -/
theorem reachable_exact_two_owners :
    ∃ w, (historySystem ⟨1, false⟩ : TransSys (PoolHistory Nat) (Action Nat)).run
        { pool := { cfg := ⟨1, false⟩ } }
        [.add 0x0800000000000001 (some 5) true 0x0100000000000001,
          .add 0x0800000000000002 (some 6) true 0x0100000000000002, .update,
          .commit [{ requestType := .load, guid := 3, message := none, ownerGuid := 1 }],
          .reply 2 (.result true (some (some 7))), .reply 0 (.result false none), .update]
          = some w ∧
      w.pool.updateToDbNum = 1 ∧ ExactBooks w := by
  obtain ⟨w, hw, hnum⟩ :
      ∃ w, (historySystem ⟨1, false⟩ : TransSys (PoolHistory Nat) (Action Nat)).run
          { pool := { cfg := ⟨1, false⟩ } }
          [.add 0x0800000000000001 (some 5) true 0x0100000000000001,
            .add 0x0800000000000002 (some 6) true 0x0100000000000002, .update,
            .commit [{ requestType := .load, guid := 3, message := none, ownerGuid := 1 }],
            .reply 2 (.result true (some (some 7))), .reply 0 (.result false none), .update]
            = some w ∧ w.pool.updateToDbNum = 1 :=
    ⟨_, rfl, by decide +kernel⟩
  refine ⟨w, hw, hnum, @reachable_exact Nat ⟨1, false⟩ w
    (TransSys.reachableWhen_of_run rfl ?_ hw)⟩
  exact ⟨nofun, _, rfl, nofun, _, rfl, fun _ => by decide +kernel, _, rfl, nofun, _, rfl,
    nofun, _, rfl, nofun, _, rfl, fun _ => by decide +kernel, _, rfl, trivial⟩

end Steppingstone.Pool
