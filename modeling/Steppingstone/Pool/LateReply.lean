/-
  Steppingstone.Pool.LateReply — replies that arrive after their batch was
  given up.

  A tick can give a batch up and the next one start another, while lists of the
  first are still in the vector.  The callback of such a list lowers the counter
  of the running batch and takes entries out by owner and guid, whichever batch
  they are of.
-/
import Mathlib.Data.List.Nodup
import Steppingstone.Pool.Completion

namespace Steppingstone.Pool

open Std (TreeMap)
open NestedMap

variable {μ : Type}

/-! ## §1. The property. -/

/-- The list belongs to a batch before the running one. -/
def RequestInfo.isEarlier (ri : RequestInfo μ) (batchFrom : Nat) : Prop :=
  ri.isBatch = true ∧ ri.requestList.requestId ≤ batchFrom

/-- In one of the lists of the running batch, the request for the entry has succeeded. -/
def WrittenIn (lists : List (RequestInfo μ)) (batchFrom : Nat) (o g : UInt64) : Prop :=
  ∃ ri ∈ lists, ri.isBatch = true ∧ batchFrom < ri.requestList.requestId ∧
    ∃ r ∈ ri.requestList.requestVec, r.ownerGuid = o ∧ r.guid = g ∧ r.success = true

namespace ReplyEvent

/-- The reply belongs to a list of an earlier batch. -/
def Late (ev : ReplyEvent μ) : Prop :=
  ∃ ri ∈ ev.before.requestInfoVec, ri.requestList.requestId = ev.packet.requestId ∧
    ri.isEarlier ev.batchFrom

/-- The lists once the reply is in, with the one it completes. -/
def listsAfter (ev : ReplyEvent μ) : List (RequestInfo μ) :=
  ev.completed.toList ++ ev.after.requestInfoVec

/-- **The reply is safe**: a late one leaves the counter alone, and an entry that
leaves the running batch has its own success. -/
structure Safe (ev : ReplyEvent μ) : Prop where
  counter : ev.Late → ev.after.updateToDbNum = ev.before.updateToDbNum
  entries : ∀ o g info, entry ev.before.updatingDbEntityMap o g = some info →
    entry ev.after.updatingDbEntityMap o g = none → WrittenIn ev.listsAfter ev.batchFrom o g

end ReplyEvent

/-- The status of a request when the reply for `guid` is in. -/
def Request.statusAfter (r : Request μ) (guid : UInt64) (reply : CacheReply μ) : Bool :=
  if r.guid = guid ∧ reply.isReadable = true then reply.isNormal else r.success

/-- The request when the reply for `guid` is in, in a list without a guid twice. -/
def Request.afterReply (r : Request μ) (guid : UInt64) (reply : CacheReply μ) : Request μ :=
  if r.guid = guid then r.handlePacket reply else r

/-- The condition on a reply: if it completes a list of an earlier batch, the
counter is at 0, and no entry for a success of that list is still waiting for the
success of its own request. -/
def TimelyReplies (w : PoolHistory μ) : Action μ → Prop
  | .reply i reply => ∀ p ∈ w.pool.inFlight[i]?, ∀ ri ∈ w.pool.requestInfoVec,
      ri.requestList.requestId = p.requestId → ri.isEarlier w.batchFrom →
      ri.requestList.complatedCount + 1 = ri.requestList.requestVec.length →
        w.pool.updateToDbNum = 0 ∧
        ∀ r ∈ ri.requestList.requestVec, r.statusAfter p.guid reply = true →
          ∀ info ∈ entry w.pool.updatingDbEntityMap r.ownerGuid r.guid,
          info.alreadyRequest = true →
          WrittenIn w.pool.requestInfoVec w.batchFrom r.ownerGuid r.guid
  | _ => True

instance (ri : RequestInfo μ) (batchFrom : Nat) : Decidable (ri.isEarlier batchFrom) :=
  inferInstanceAs (Decidable (_ ∧ _))

instance (lists : List (RequestInfo μ)) (batchFrom : Nat) (o g : UInt64) :
    Decidable (WrittenIn lists batchFrom o g) :=
  inferInstanceAs (Decidable (∃ ri ∈ lists, _ ∧ _ ∧ ∃ r ∈ ri.requestList.requestVec, _ ∧ _ ∧ _))

instance (ev : ReplyEvent μ) : Decidable ev.Late :=
  inferInstanceAs (Decidable (∃ ri ∈ ev.before.requestInfoVec, _ ∧ ri.isEarlier ev.batchFrom))

instance : (w : PoolHistory μ) → (a : Action μ) → Decidable (TimelyReplies w a)
  | w, .reply i _ => inferInstanceAs (Decidable (∀ p ∈ w.pool.inFlight[i]?,
      ∀ ri ∈ w.pool.requestInfoVec, _ → ri.isEarlier w.batchFrom → _ → _ ∧
        ∀ r ∈ ri.requestList.requestVec, _ →
          ∀ info ∈ entry w.pool.updatingDbEntityMap r.ownerGuid r.guid, _ →
            WrittenIn w.pool.requestInfoVec w.batchFrom r.ownerGuid r.guid))
  | _, .add .. | _, .remove .. | _, .updateGuid _ | _, .update | _, .clearUpdateEntity _
  | _, .getWhileFlush _ | _, .clearFlushState _ | _, .write .. | _, .playerIsOnline _
  | _, .playerIsOffline _ | _, .commit _ => inferInstanceAs (Decidable True)

/-! ## §2. Lists without a guid twice. -/

/-- A list of a batch has at most one request for a guid. -/
def DistinctGuids (s : PoolImp μ) : Prop :=
  ∀ l ∈ s.listings, l.isBatch = true → (l.keys.map Prod.snd).Nodup

theorem RequestInfo.keys_snd (ri : RequestInfo μ) :
    ri.keys.map Prod.snd = ri.requestList.requestVec.map (·.guid) := by
  unfold keys
  rw [List.map_map]
  rfl

/-- **The invariant** of every run. -/
structure Dated (w : PoolHistory μ) : Prop where
  served : Served w
  pending : Pending w.pool
  distinct : DistinctGuids w.pool

theorem Dated.step {w w' : PoolHistory μ} {a : Action μ} (h : Dated w)
    (hst : w.step a = some w') : Dated w' := by
  refine ⟨(h.served.step hst).1, PoolHistory.pending_step h.pending hst, ?_⟩
  have hdist := h.distinct
  obtain ⟨-, hcall, -⟩ | ⟨-, -, rfl⟩ | ⟨-, -, rfl⟩ | ⟨requests, -, rfl⟩ |
    ⟨i, p, reply, -, -, rfl⟩ := PoolHistory.step_cases hst
  · unfold DistinctGuids PoolImp.listings
    rw [hcall.requestInfoVec]
    exact hdist
  · exact hdist
  · obtain ⟨lists, hvec, hfresh, -, -⟩ := startBatch_lists h.pending
    intro l hl hb
    obtain ⟨ri, hri, rfl⟩ := List.mem_map.mp hl
    have hri' : ri ∈ w.pool.startBatch.requestInfoVec := hri
    rw [hvec] at hri'
    obtain hold | hnew := List.mem_append.mp hri'
    · exact hdist _ (List.mem_map_of_mem hold) hb
    · obtain ⟨-, -, -, -, -, -, hnd, -⟩ := hfresh ri hnew
      show (ri.keys.map Prod.snd).Nodup
      rw [ri.keys_snd]
      exact hnd
  · intro l hl hb
    obtain ⟨ri, hri, rfl⟩ := List.mem_map.mp hl
    obtain hri | hri := List.mem_append.mp
      (show ri ∈ w.pool.requestInfoVec ++ [_] from hri)
    · exact hdist _ (List.mem_map_of_mem hri) hb
    · rw [List.mem_singleton.mp hri] at hb
      exact absurd hb (by simp [RequestInfo.listing, RequestInfo.isBatch])
  · obtain ⟨hvec, -⟩ := PoolImp.handlePacket_books
      { w.pool with inFlight := w.pool.inFlight.eraseIdx i } p.guid p.requestId reply
    have hlist : (w.pool.takeReply i p reply).listings
        = (handleVec p.guid p.requestId reply w.pool.requestInfoVec).1.map (·.listing) :=
      congrArg (List.map RequestInfo.listing) hvec
    intro l hl hb
    have hl' : l ∈ (w.pool.takeReply i p reply).listings := hl
    rw [hlist] at hl'
    obtain ⟨-, heq⟩ | ⟨ri, pre, post, -, hold, hnew⟩ :=
      handleVec_listings p.guid p.requestId reply w.pool.requestInfoVec
    · rw [heq] at hl'
      exact hdist l hl' hb
    · refine hdist l ?_ hb
      rw [hnew] at hl'
      show l ∈ w.pool.requestInfoVec.map (·.listing)
      rw [hold]
      exact mem_middle.mpr (.inr hl')

/-- With distinct guids the reply goes to the request with its guid. -/
theorem handleFirst_eq_map {g : UInt64} (reply : CacheReply μ) {rs : List (Request μ)}
    (hnd : (rs.map (·.guid)).Nodup) :
    handleFirst g reply rs = rs.map (·.afterReply g reply) := by
  induction rs with
  | nil => rfl
  | cons r rs ih =>
      obtain ⟨hr, hrs⟩ := List.nodup_cons.mp hnd
      rw [handleFirst, List.map_cons]
      unfold Request.afterReply
      by_cases hrg : r.guid = g
      · rw [if_pos hrg, if_pos hrg]
        -- no later request has the guid
        have hid : ∀ x ∈ rs, (if x.guid = g then x.handlePacket reply else x) = x := by
          intro x hx
          refine if_neg fun hxg => hr ?_
          show r.guid ∈ rs.map (·.guid)
          rw [hrg, ← hxg]
          exact List.mem_map_of_mem hx
        rw [List.map_congr_left hid, List.map_id']
      · rw [if_neg hrg, if_neg hrg, ih hrs]
        rfl

theorem Request.afterReply_key (r : Request μ) (g : UInt64) (reply : CacheReply μ) :
    (r.afterReply g reply).ownerGuid = r.ownerGuid ∧ (r.afterReply g reply).guid = r.guid := by
  unfold afterReply
  split
  · exact ⟨(r.handlePacket_spec reply).2.1, (r.handlePacket_spec reply).1⟩
  · exact ⟨rfl, rfl⟩

theorem Request.afterReply_success (r : Request μ) (g : UInt64) (reply : CacheReply μ) :
    (r.afterReply g reply).success = r.statusAfter g reply := by
  unfold afterReply statusAfter
  by_cases hg : r.guid = g
  · rw [if_pos hg]
    by_cases hread : reply.isReadable = true
    · rw [if_pos ⟨hg, hread⟩, handlePacket_success hread]
    · rw [if_neg fun h => hread h.2, handlePacket_unreadable (by simpa using hread)]
  · rw [if_neg hg, if_neg fun h => hg h.1]

/-! ## §3. What the callback of a list erases. -/

/-- An entry that a list erases belongs to a success of the list. -/
theorem answeredBy_none {rl : RequestList μ} {o g : UInt64} {info : DbEntityInfo}
    (h : PoolImp.answeredBy rl o g (some info) = none) :
    ∃ r ∈ rl.requestVec, r.ownerGuid = o ∧ r.guid = g ∧ r.success = true := by
  unfold PoolImp.answeredBy at h
  have key : ∀ (l : List (Request μ)) (info : DbEntityInfo),
      l.foldl (fun v r => PoolImp.answeredEntry r.success v) (some info) = none →
      ∃ r ∈ l, r.success = true := by
    intro l
    induction l with
    | nil => exact fun info h => absurd h (by simp)
    | cons r l ih =>
        intro info h
        by_cases hok : r.success = true
        · exact ⟨r, List.mem_cons_self .., hok⟩
        · have hfail : r.success = false := by simpa using hok
          rw [List.foldl_cons, hfail] at h
          obtain ⟨x, hx, hxs⟩ := ih _ h
          exact ⟨x, List.mem_cons_of_mem _ hx, hxs⟩
  obtain ⟨r, hr, hok⟩ := key _ info h
  obtain ⟨hmem, hkey⟩ := List.mem_filter.mp hr
  have hkey' : (r.ownerGuid, r.guid) = (o, g) := of_decide_eq_true hkey
  exact ⟨r, hmem, congrArg Prod.fst hkey', congrArg Prod.snd hkey', hok⟩

/-- With distinct guids a list answers an entry once. -/
theorem answeredBy_of_mem {rl : RequestList μ} (hnd : (rl.requestVec.map (·.guid)).Nodup)
    {r : Request μ} (hr : r ∈ rl.requestVec) (e : Option DbEntityInfo) :
    PoolImp.answeredBy rl r.ownerGuid r.guid e = PoolImp.answeredEntry r.success e := by
  obtain ⟨pre, post, hsplit⟩ := List.append_of_mem hr
  rw [hsplit, List.map_append, List.map_cons, List.nodup_append] at hnd
  obtain ⟨-, hpost, hpre⟩ := hnd
  have hother : ∀ x : Request μ, x ∈ pre ∨ x ∈ post →
      ¬ decide ((x.ownerGuid, x.guid) = (r.ownerGuid, r.guid)) = true := by
    intro x hx hkey
    have hxg : x.guid = r.guid := congrArg Prod.snd (of_decide_eq_true hkey)
    obtain hx | hx := hx
    · exact hpre _ (List.mem_map_of_mem hx) _ (List.mem_cons_self ..) hxg
    · exact (List.nodup_cons.mp hpost).1 (hxg ▸ List.mem_map_of_mem hx)
  unfold PoolImp.answeredBy
  rw [hsplit, List.filter_append, List.filter_cons_of_pos (by simp),
    List.filter_eq_nil_iff.mpr fun x hx => hother x (.inl hx),
    List.filter_eq_nil_iff.mpr fun x hx => hother x (.inr hx)]
  rfl

/-! ## §4. One reply. -/

/-- The event of a reply. -/
def PoolHistory.replyEvent (w : PoolHistory μ) (i : Nat) (p : CachePacket μ)
    (reply : CacheReply μ) : ReplyEvent μ :=
  { before := w.pool, batchFrom := w.batchFrom, packet := p, reply,
    after := w.pool.takeReply i p reply }

section

variable {w : PoolHistory μ} {i : Nat} {p : CachePacket μ} {reply : CacheReply μ}

theorem replyEvent_entry (o g : UInt64) :
    entry (w.replyEvent i p reply).after.updatingDbEntityMap o g
      = match completedBatch (w.replyEvent i p reply).completed with
        | some rl => PoolImp.answeredBy rl o g (entry w.pool.updatingDbEntityMap o g)
        | none => entry w.pool.updatingDbEntityMap o g := by
  obtain ⟨-, -, -, -, -, hentry⟩ := PoolImp.handlePacket_books
    { w.pool with inFlight := w.pool.inFlight.eraseIdx i } p.guid p.requestId reply
  exact hentry o g

/-- A reply that completes no list of a batch is safe. -/
theorem replyEvent_safe_of_none (hnone : completedBatch (w.replyEvent i p reply).completed = none)
    (hnum : (w.pool.takeReply i p reply).updateToDbNum = w.pool.updateToDbNum) :
    (w.replyEvent i p reply).Safe := by
  refine ⟨fun _ => hnum, fun o g info he he' => ?_⟩
  rw [replyEvent_entry, hnone] at he'
  have he'' : entry w.pool.updatingDbEntityMap o g = some info := he
  rw [he''] at he'
  exact absurd he' (by simp)

/-- The ids of the lists are distinct. -/
theorem Dated.eq_of_id (h : Dated w) {ri ri' : RequestInfo μ} (hri : ri ∈ w.pool.requestInfoVec)
    (hri' : ri' ∈ w.pool.requestInfoVec)
    (hid : ri.requestList.requestId = ri'.requestList.requestId) : ri = ri' :=
  List.inj_on_of_nodup_map h.served.counted.ids hri hri' hid

/-- What is left of the lists has the same successes of the running batch, when
the list that is complete is of an earlier one. -/
theorem writtenIn_of_completed {pre post : List (RequestInfo μ)} {x x' : RequestInfo μ}
    {batchFrom : Nat} (hx : x.requestList.requestId ≤ batchFrom)
    (hx' : x'.requestList.requestId = x.requestList.requestId) (o g : UInt64) :
    WrittenIn (x' :: (pre ++ post)) batchFrom o g ↔
      WrittenIn (pre ++ x :: post) batchFrom o g := by
  constructor
  · intro ⟨ri, hri, hb, hid, hr⟩
    obtain rfl | hri := List.mem_cons.mp hri
    · omega
    · exact ⟨ri, mem_middle.mpr (.inr hri), hb, hid, hr⟩
  · intro ⟨ri, hri, hb, hid, hr⟩
    obtain rfl | hri := mem_middle.mp hri
    · omega
    · exact ⟨ri, List.mem_cons_of_mem _ hri, hb, hid, hr⟩

/-- **A list of an earlier batch that is complete** is harmless when the counter
is at 0 and none of its successes hits an entry that still waits. -/
theorem late_safe_iff {rl : RequestList μ} {pre post : List (RequestInfo μ)}
    (hnd : (rl.requestVec.map (·.guid)).Nodup)
    (hold : w.pool.requestInfoVec = pre ++ ⟨rl, .updateToDb⟩ :: post)
    (hpid : p.requestId = rl.requestId) (hearly : rl.requestId ≤ w.batchFrom)
    (hdone : (w.replyEvent i p reply).completed
      = some ⟨rl.handlePacket p.guid reply, .updateToDb⟩)
    (hrv : (rl.handlePacket p.guid reply).requestVec = handleFirst p.guid reply rl.requestVec)
    (hvec : (w.pool.takeReply i p reply).requestInfoVec = pre ++ post)
    (hnum : (w.pool.takeReply i p reply).updateToDbNum = w.pool.updateToDbNum - 1) :
    (w.replyEvent i p reply).Safe ↔ w.pool.updateToDbNum = 0 ∧
      ∀ r ∈ rl.requestVec, r.statusAfter p.guid reply = true →
        ∀ info, entry w.pool.updatingDbEntityMap r.ownerGuid r.guid = some info →
        info.alreadyRequest = true →
        WrittenIn w.pool.requestInfoVec w.batchFrom r.ownerGuid r.guid := by
  have hlate : (w.replyEvent i p reply).Late :=
    ⟨⟨rl, .updateToDb⟩, by show _ ∈ w.pool.requestInfoVec; rw [hold]; simp, hpid.symm, rfl,
      hearly⟩
  have hlists : (w.replyEvent i p reply).listsAfter
      = ⟨rl.handlePacket p.guid reply, .updateToDb⟩ :: (pre ++ post) := by
    unfold ReplyEvent.listsAfter
    rw [hdone]
    exact congrArg _ hvec
  have hwritten : ∀ o g, WrittenIn (w.replyEvent i p reply).listsAfter w.batchFrom o g ↔
      WrittenIn w.pool.requestInfoVec w.batchFrom o g := by
    intro o g
    rw [hlists, hold]
    exact writtenIn_of_completed hearly (handlePacket_requestId _ _ _) o g
  rw [handleFirst_eq_map reply hnd] at hrv
  -- each request of the complete list is one of before, with the status after the reply
  have hnd' : ((rl.handlePacket p.guid reply).requestVec.map (·.guid)).Nodup := by
    rw [hrv, List.map_map]
    have hguid : ∀ r ∈ rl.requestVec,
        ((fun r : Request μ => r.guid) ∘ fun r => r.afterReply p.guid reply) r = r.guid :=
      fun r _ => (r.afterReply_key p.guid reply).2
    rw [List.map_congr_left hguid]
    exact hnd
  have hentry : ∀ o g, entry (w.replyEvent i p reply).after.updatingDbEntityMap o g
      = PoolImp.answeredBy (rl.handlePacket p.guid reply) o g
          (entry w.pool.updatingDbEntityMap o g) := by
    intro o g
    rw [replyEvent_entry, hdone]
    rfl
  have hof : ∀ r ∈ rl.requestVec, ∀ e : Option DbEntityInfo,
      PoolImp.answeredBy (rl.handlePacket p.guid reply) r.ownerGuid r.guid e
        = PoolImp.answeredEntry (r.statusAfter p.guid reply) e := by
    intro r hr e
    have hmem : r.afterReply p.guid reply ∈ (rl.handlePacket p.guid reply).requestVec := by
      rw [hrv]
      exact List.mem_map_of_mem hr
    obtain ⟨howner, hguid⟩ := r.afterReply_key p.guid reply
    have hanswer := answeredBy_of_mem hnd' hmem e
    rw [r.afterReply_success, howner, hguid] at hanswer
    exact hanswer
  constructor
  · intro hsafe
    have hcounter : w.pool.updateToDbNum - 1 = w.pool.updateToDbNum :=
      hnum.symm.trans (hsafe.counter hlate)
    refine ⟨by omega, fun r hr hok info he hreq => ?_⟩
    refine (hwritten _ _).mp (hsafe.entries r.ownerGuid r.guid info he ?_)
    rw [hentry, he, hof r hr, hok]
    simp [PoolImp.answeredEntry, hreq]
  · intro hsafe
    obtain ⟨hzero, hcond⟩ := hsafe
    refine ⟨fun _ => ?_, fun o g info he he' => ?_⟩
    · show (w.pool.takeReply i p reply).updateToDbNum = w.pool.updateToDbNum
      rw [hnum, hzero]
    · have he₀ : entry w.pool.updatingDbEntityMap o g = some info := he
      rw [hentry, he₀] at he'
      obtain ⟨r', hr', rfl, rfl, hok⟩ := answeredBy_none he'
      rw [hrv] at hr'
      obtain ⟨r, hr, rfl⟩ := List.mem_map.mp hr'
      obtain ⟨howner, hguid⟩ := r.afterReply_key p.guid reply
      rw [r.afterReply_success] at hok
      rw [howner, hguid] at he' he₀ ⊢
      refine (hwritten _ _).mpr (hcond r hr hok info he₀ ?_)
      rw [hof r hr, hok] at he'
      simpa [PoolImp.answeredEntry] using he'

/-- **One reply** is safe exactly under the condition. -/
theorem Dated.safe_iff (h : Dated w) (hp : w.pool.inFlight[i]? = some p) :
    (w.replyEvent i p reply).Safe ↔ TimelyReplies w (.reply i reply) := by
  obtain ⟨-, -, hcases⟩ := takeReply_cases w.pool i p reply
  obtain ⟨hdone, -, hnum, hne⟩ | ⟨pre, x, post, hold, hpid, hcases⟩ := hcases
  · -- no list has the id of the reply
    have hdone' : (w.replyEvent i p reply).completed = none := hdone
    refine iff_of_true (replyEvent_safe_of_none (by rw [hdone']; rfl) hnum) ?_
    intro q hq ri hri hid
    obtain rfl : p = q := Option.some.inj (hp.symm.trans hq)
    exact absurd hid (hne ri hri)
  · have hx : x ∈ w.pool.requestInfoVec := by
      rw [hold]
      exact List.mem_append_right _ (List.mem_cons_self ..)
    have hwait := h.served.counted.lists x hx
    obtain ⟨htaken, -, -⟩ := hwait.taken hp hpid reply
    -- the condition is about this list
    have htimely : TimelyReplies w (.reply i reply) ↔ (x.isEarlier w.batchFrom →
        x.requestList.complatedCount + 1 = x.requestList.requestVec.length →
          w.pool.updateToDbNum = 0 ∧
          ∀ r ∈ x.requestList.requestVec, r.statusAfter p.guid reply = true →
            ∀ info, entry w.pool.updatingDbEntityMap r.ownerGuid r.guid = some info →
            info.alreadyRequest = true →
            WrittenIn w.pool.requestInfoVec w.batchFrom r.ownerGuid r.guid) := by
      constructor
      · exact fun ht => ht p hp x hx hpid.symm
      · intro ht q hq ri hri hid
        obtain rfl : p = q := Option.some.inj (hp.symm.trans hq)
        obtain rfl := h.eq_of_id hri hx (hid.trans hpid)
        exact ht
    rw [htimely]
    obtain ⟨hopen, hdone, -, hnum⟩ | ⟨hcompl, hdone, hvec, hnum⟩ := hcases
    · have hdone' : (w.replyEvent i p reply).completed = none := hdone
      refine iff_of_true (replyEvent_safe_of_none (by rw [hdone']; rfl) hnum) ?_
      intro _ hlen
      refine absurd ?_ hopen
      show (x.requestList.handlePacket p.guid reply).complated = true
      rw [htaken]
      exact beq_iff_eq.mpr hlen
    · have hlen : x.requestList.complatedCount + 1 = x.requestList.requestVec.length := by
        have hcompl' : (x.requestList.handlePacket p.guid reply).complated = true := hcompl
        rw [htaken] at hcompl'
        exact eq_of_beq hcompl'
      have hrv := congrArg RequestList.requestVec htaken
      obtain ⟨rl, callBack⟩ := x
      match callBack with
      | .plugin =>
          -- a plugin's list is no batch
          have hdone' : (w.replyEvent i p reply).completed = some _ := hdone
          refine iff_of_true (replyEvent_safe_of_none (by rw [hdone']; rfl) hnum) ?_
          exact fun hearly => absurd hearly.1 (by simp [RequestInfo.isBatch])
      | .updateToDb =>
          have hnd := h.distinct _ (List.mem_map_of_mem hx) rfl
          rw [show (RequestInfo.listing ⟨rl, .updateToDb⟩).keys.map Prod.snd
            = rl.requestVec.map (·.guid) from RequestInfo.keys_snd ⟨rl, .updateToDb⟩] at hnd
          by_cases hearly : rl.requestId ≤ w.batchFrom
          · rw [late_safe_iff hnd hold hpid hearly hdone hrv hvec hnum]
            exact ⟨fun hc _ _ => hc, fun hc => hc ⟨rfl, hearly⟩ hlen⟩
          · -- the list is of the running batch: what it erases has its own success
            refine iff_of_true ⟨?_, ?_⟩ fun he => absurd he.2 hearly
            · intro hlists
              obtain ⟨ri, hri, hid, hlate⟩ := hlists
              obtain rfl := h.eq_of_id hri hx (hid.trans hpid)
              exact absurd hlate.2 hearly
            · intro o g info he he'
              have hdone' : (w.replyEvent i p reply).completed = some _ := hdone
              have he₀ : entry w.pool.updatingDbEntityMap o g = some info := he
              rw [replyEvent_entry, hdone', he₀] at he'
              obtain ⟨r, hr, hro, hrg, hok⟩ := answeredBy_none he'
              refine ⟨⟨rl.handlePacket p.guid reply, .updateToDb⟩, ?_, rfl, ?_, r, hr, hro, hrg,
                hok⟩
              · unfold ReplyEvent.listsAfter
                rw [hdone']
                exact List.mem_cons_self ..
              · show w.batchFrom < (rl.handlePacket p.guid reply).requestId
                rw [handlePacket_requestId]
                omega

end

/-! ## §5. Every run. -/

theorem timely_of_call {w : PoolHistory μ} {a : Action μ} (h : IsCall w.pool a) :
    TimelyReplies w a := by
  unfold TimelyReplies
  split
  · exact absurd h id
  · trivial

/-- A step adds the events that are safe exactly under the condition. -/
theorem Dated.step_events {w w' : PoolHistory μ} {a : Action μ} (h : Dated w)
    (hst : w.step a = some w') : ∃ evs, w'.replies = evs ++ w.replies ∧
      ((∀ ev ∈ evs, ev.Safe) ↔ TimelyReplies w a) := by
  obtain ⟨hc, -, heq⟩ | ⟨rfl, -, rfl⟩ | ⟨rfl, -, rfl⟩ | ⟨requests, rfl, rfl⟩ |
    ⟨i, p, reply, rfl, hp, rfl⟩ := PoolHistory.step_cases hst
  · refine ⟨[], by rw [heq]; rfl, iff_of_true (by simp) (timely_of_call hc)⟩
  · exact ⟨[], rfl, iff_of_true (by simp) trivial⟩
  · exact ⟨[], rfl, iff_of_true (by simp) trivial⟩
  · exact ⟨[], rfl, iff_of_true (by simp) trivial⟩
  · refine ⟨[w.replyEvent i p reply], rfl, ?_⟩
    rw [← h.safe_iff hp, List.forall_mem_singleton]

theorem Dated.run_events {cfg : PoolCfg} {as : List (Action μ)} {w w' : PoolHistory μ}
    (h : Dated w) (hrun : (historySystem cfg).run w as = some w') :
    ∃ evs, w'.replies = evs ++ w.replies ∧
      ((∀ ev ∈ evs, ev.Safe) ↔ (historySystem cfg).RunMeets TimelyReplies w as) := by
  induction as generalizing w with
  | nil =>
      obtain rfl : w = w' := Option.some.inj hrun
      exact ⟨[], rfl, iff_of_true (by simp) trivial⟩
  | cons a as ih =>
      obtain ⟨m, hst, hrun⟩ := TransSys.run_cons_eq_some.mp hrun
      obtain ⟨evs, hevs, hsafe⟩ := h.step_events hst
      obtain ⟨evs', hevs', hsafe'⟩ := ih (h.step hst) hrun
      refine ⟨evs' ++ evs, by rw [hevs', hevs, List.append_assoc], ?_⟩
      show _ ↔ TimelyReplies w a ∧ ∃ t, (historySystem cfg).step w a = some t ∧ _
      rw [← hsafe, hst]
      constructor
      · intro hall
        refine ⟨fun ev hev => hall ev (List.mem_append_right _ hev), m, rfl, ?_⟩
        exact hsafe'.mp fun ev hev => hall ev (List.mem_append_left _ hev)
      · intro ⟨hnow, t, ht, hrest⟩
        obtain rfl := Option.some.inj ht
        intro ev hev
        obtain hev | hev := List.mem_append.mp hev
        · exact hsafe'.mpr hrest ev hev
        · exact hnow ev hev

theorem dated_new (cfg : PoolCfg) : Dated ({ pool := { cfg } } : PoolHistory μ) where
  served := reachable_served (.start rfl)
  pending o g info h := by simp at h
  distinct l hl := absurd hl (List.not_mem_nil)

/-- **Late replies**: no reply of a run lowers the counter for a list of an
earlier batch, or takes an entry out before its own success, exactly when every
step of the run meets the condition. -/
theorem run_safe_iff {cfg : PoolCfg} {as : List (Action μ)} {w : PoolHistory μ}
    (hrun : (historySystem cfg).run { pool := { cfg } } as = some w) :
    (∀ ev ∈ w.replies, ev.Safe) ↔
      (historySystem cfg).RunMeets TimelyReplies { pool := { cfg } } as := by
  obtain ⟨evs, hevs, hsafe⟩ := (dated_new cfg).run_events hrun
  rw [hevs, List.append_nil]
  exact hsafe

/-- The pool after `n` ticks that wait for the running batch. -/
def PoolHistory.waited (w : PoolHistory μ) (n : Nat) : PoolHistory μ :=
  { w with
    pool := { w.pool with doNotGetTheReplayTime := w.pool.doNotGetTheReplayTime + n } }

theorem run_ticks {cfg : PoolCfg} {w : PoolHistory μ} {n : Nat}
    (hdb : w.pool.dbEntityMap.isEmpty = false) (hnum : w.pool.updateToDbNum ≠ 0)
    (hn : w.pool.doNotGetTheReplayTime + n ≤ 200 * 10) :
    (historySystem cfg).run w (List.replicate n .update) = some (w.waited n) := by
  induction n generalizing w with
  | zero => rfl
  | succ n ih =>
      have hstep : (historySystem cfg).step w .update = some (w.waited 1) := by
        have hno : ¬ StartsBatch w.pool := fun h => hnum h.2
        have hupd : w.pool.update = (w.waited 1).pool := by
          unfold PoolImp.update
          rw [if_neg (by rw [hdb]; simp), if_pos hnum]
          exact if_neg (by omega)
        show some (PoolHistory.mk w.pool.update (if _ then _ else _) _) = _
        rw [hupd, if_neg hno]
        rfl
      have hmore : (w.waited 1).waited n = w.waited (n + 1) := by
        show PoolHistory.mk { w.pool with
          doNotGetTheReplayTime := w.pool.doNotGetTheReplayTime + 1 + n } _ _ = _
        rw [Nat.add_assoc, Nat.add_comm 1 n]
        rfl
      rw [List.replicate_succ]
      refine TransSys.run_cons_eq_some.mpr ⟨_, hstep, ?_⟩
      rw [← hmore]
      refine ih hdb hnum ?_
      show w.pool.doNotGetTheReplayTime + 1 + n ≤ _
      omega

/-- A run with 2000 ticks that wait for the running batch. -/
theorem run_slow {cfg : PoolCfg} {as bs : List (Action μ)} {w₀ w₁ w₂ : PoolHistory μ}
    (hw₁ : (historySystem cfg).run w₀ as = some w₁)
    (hdb : w₁.pool.dbEntityMap.isEmpty = false) (hnum : w₁.pool.updateToDbNum = 1)
    (htime : w₁.pool.doNotGetTheReplayTime = 0)
    (hw₂ : (historySystem cfg).run (w₁.waited 2000) bs = some w₂) :
    (historySystem cfg).run w₀ (as ++ (List.replicate 2000 .update ++ bs)) = some w₂ := by
  have hticks : (historySystem cfg).run w₁ (List.replicate 2000 .update)
      = some (w₁.waited 2000) := run_ticks hdb (by omega) (by omega)
  rw [TransSys.run_append, hw₁, Option.bind_some, TransSys.run_append, hticks, Option.bind_some,
    hw₂]

/-- The reply to the first batch comes when the second is through: it is late and
does no harm. -/
theorem harmless_late_reply :
    ∃ w, (historySystem ⟨1, false⟩ : TransSys (PoolHistory Nat) (Action Nat)).run
        { pool := { cfg := ⟨1, false⟩ } }
        ([.add 0x0800000000000001 (some 5) true 0x0100000000000001, .update,
            .add 0x0800000000000002 (some 6) true 0x0100000000000002]
          ++ (List.replicate 2000 .update ++ [.update, .update, .reply 1 (.result true none),
            .reply 0 (.result true none)])) = some w ∧
      (∃ ev ∈ w.replies, ev.Late) ∧ ∀ ev ∈ w.replies, ev.Safe := by
  obtain ⟨w₁, hw₁, hdb, hnum, htime, hmeets, w, hw, hlate⟩ :
      ∃ w₁ ∈ (historySystem ⟨1, false⟩ : TransSys (PoolHistory Nat) (Action Nat)).run
          { pool := { cfg := ⟨1, false⟩ } }
          [.add 0x0800000000000001 (some 5) true 0x0100000000000001, .update,
            .add 0x0800000000000002 (some 6) true 0x0100000000000002],
        w₁.pool.dbEntityMap.isEmpty = false ∧ w₁.pool.updateToDbNum = 1 ∧
        w₁.pool.doNotGetTheReplayTime = 0 ∧
        (historySystem ⟨1, false⟩).RunMeets TimelyReplies (w₁.waited 2000)
          [.update, .update, .reply 1 (.result true none), .reply 0 (.result true none)] ∧
        ∃ w ∈ (historySystem ⟨1, false⟩).run (w₁.waited 2000)
          [.update, .update, .reply 1 (.result true none), .reply 0 (.result true none)],
          ∃ ev ∈ w.replies, ev.Late := by
    decide +kernel
  have hmeets₁ : (historySystem ⟨1, false⟩ : TransSys (PoolHistory Nat) (Action Nat)).RunMeets
      TimelyReplies { pool := { cfg := ⟨1, false⟩ } }
      [.add 0x0800000000000001 (some 5) true 0x0100000000000001, .update,
        .add 0x0800000000000002 (some 6) true 0x0100000000000002] := by
    decide +kernel
  have hrun := run_slow hw₁ hdb hnum htime hw
  refine ⟨w, hrun, hlate, (run_safe_iff hrun).mpr ?_⟩
  have hticks : (historySystem ⟨1, false⟩).run w₁ (List.replicate 2000 .update)
      = some (w₁.waited 2000) := run_ticks hdb (by omega) (by omega)
  refine hmeets₁.append hw₁ (TransSys.RunMeets.append ?_ hticks hmeets)
  refine TransSys.runMeets_of_forall (fun a ha t => ?_) hticks
  rw [List.eq_of_mem_replicate ha]
  trivial

/-- **A late reply erases a change**: the entity is changed again and sent with the
second batch, when the reply to the first one comes in.  The counter of the
second batch is lowered and its entry taken out, though its own request is not
answered. -/
theorem late_reply_erases :
    ∃ w, (historySystem ⟨1, false⟩ : TransSys (PoolHistory Nat) (Action Nat)).run
        { pool := { cfg := ⟨1, false⟩ } }
        ([.add 0x0800000000000001 (some 5) true 0x0100000000000001, .update,
            .updateGuid 0x0800000000000001]
          ++ (List.replicate 2000 .update ++ [.update, .update, .reply 0 (.result true none)]))
        = some w ∧
      ∃ ev ∈ w.replies, ev.Late ∧ ev.before.updateToDbNum = 1 ∧ ev.after.updateToDbNum = 0 ∧
        (entry ev.before.updatingDbEntityMap 0x0100000000000001 0x0800000000000001).isSome ∧
        entry ev.after.updatingDbEntityMap 0x0100000000000001 0x0800000000000001 = none ∧
        ¬ WrittenIn ev.listsAfter ev.batchFrom 0x0100000000000001 0x0800000000000001 ∧
        ¬ ev.Safe := by
  obtain ⟨w₁, hw₁, hdb, hnum, htime, w, hw, ev, hev, hlate, hbefore, hafter, hin, hout, hno⟩ :
      ∃ w₁ ∈ (historySystem ⟨1, false⟩ : TransSys (PoolHistory Nat) (Action Nat)).run
          { pool := { cfg := ⟨1, false⟩ } }
          [.add 0x0800000000000001 (some 5) true 0x0100000000000001, .update,
            .updateGuid 0x0800000000000001],
        w₁.pool.dbEntityMap.isEmpty = false ∧ w₁.pool.updateToDbNum = 1 ∧
        w₁.pool.doNotGetTheReplayTime = 0 ∧
        ∃ w ∈ (historySystem ⟨1, false⟩).run (w₁.waited 2000)
          [.update, .update, .reply 0 (.result true none)],
        ∃ ev ∈ w.replies, ev.Late ∧ ev.before.updateToDbNum = 1 ∧ ev.after.updateToDbNum = 0 ∧
          (entry ev.before.updatingDbEntityMap 0x0100000000000001 0x0800000000000001).isSome ∧
          entry ev.after.updatingDbEntityMap 0x0100000000000001 0x0800000000000001 = none ∧
          ¬ WrittenIn ev.listsAfter ev.batchFrom 0x0100000000000001 0x0800000000000001 := by
    decide +kernel
  refine ⟨w, run_slow hw₁ hdb hnum htime hw, ev, hev, hlate, hbefore, hafter, hin, hout, hno, ?_⟩
  intro hsafe
  have := hsafe.counter hlate
  omega

end Steppingstone.Pool
