/-
  Steppingstone.Pool.Batch — what each step does to the lists in flight.

  Most calls of the pool leave the lists, the counter of the running batch and
  its entries alone; what remains is a tick that gives the batch up, a batch
  that starts, a committed list, and a reply.  The invariants about batches are
  proved along these cases.
-/
import Steppingstone.Pool.Entities
import Steppingstone.Pool.WriteBack

namespace Steppingstone.Pool

open Std (TreeMap)
open NestedMap

variable {μ : Type}

/-! ## §1. Calls. -/

/-- Every entry that is not sent yet is one that `updateToDb` recorded. -/
def Pending (s : PoolImp μ) : Prop :=
  ∀ o g info, entry s.dbEntityMap o g = some info → PendingEntry o g info

/-- Between the two states nothing happened to the lists and the running batch;
coins may have been sent. -/
structure Call (s s' : PoolImp μ) : Prop where
  requestInfoVec : s'.requestInfoVec = s.requestInfoVec
  updateToDbNum : s'.updateToDbNum = s.updateToDbNum
  updating : s'.updatingDbEntityMap = s.updatingDbEntityMap
  pending : Pending s → Pending s'
  requestId : s.requestId ≤ s'.requestId
  sent : ∃ coins, s'.inFlight = s.inFlight ++ coins ∧
    ∀ p ∈ coins, s.requestId < p.requestId ∧ p.requestId ≤ s'.requestId

/-- A call that records nothing and sends nothing. -/
theorem Call.of_same {s s' : PoolImp μ} (hvec : s'.requestInfoVec = s.requestInfoVec)
    (hnum : s'.updateToDbNum = s.updateToDbNum)
    (hup : s'.updatingDbEntityMap = s.updatingDbEntityMap)
    (hdb : s'.dbEntityMap = s.dbEntityMap) (hid : s'.requestId = s.requestId)
    (hin : s'.inFlight = s.inFlight) : Call s s' := by
  refine ⟨hvec, hnum, hup, ?_, Nat.le_of_eq hid.symm, [], by rw [hin, List.append_nil], by simp⟩
  unfold Pending
  rw [hdb]
  exact id

theorem Call.refl (s : PoolImp μ) : Call s s :=
  .of_same rfl rfl rfl rfl rfl rfl

theorem Call.trans {s t u : PoolImp μ} (h : Call s t) (h' : Call t u) : Call s u := by
  obtain ⟨coins, hin, hids⟩ := h.sent
  obtain ⟨coins', hin', hids'⟩ := h'.sent
  refine ⟨h'.requestInfoVec.trans h.requestInfoVec, h'.updateToDbNum.trans h.updateToDbNum,
    h'.updating.trans h.updating, fun hp => h'.pending (h.pending hp),
    Nat.le_trans h.requestId h'.requestId, coins ++ coins', ?_, ?_⟩
  · rw [hin', hin, List.append_assoc]
  · intro p hp
    have hle := h.requestId
    have hle' := h'.requestId
    obtain hp | hp := List.mem_append.mp hp
    · have := hids p hp
      omega
    · have := hids' p hp
      omega

namespace PoolImp

variable (s : PoolImp μ)

/-- Recording a change only adds to what is to be written. -/
theorem updateToDb_call (o g : UInt64) {t : EntityOpType}
    (ht : t = .add ∨ t = .remove ∨ t = .update) : Call s (s.updateToDb o g t) := by
  have heq := s.updateToDb_eq o g t
  refine ⟨s.updateToDb_requestInfoVec o g t, by rw [heq], s.updateToDb_updatingDbEntityMap o g t,
    ?_, Nat.le_of_eq (by rw [heq]), [], by rw [heq, List.append_nil], by simp⟩
  intro hp o' g' info he
  rw [s.updateToDb_entry] at he
  by_cases hkey : o' = o ∧ g' = g
  · obtain ⟨rfl, rfl⟩ := hkey
    exact pendingEntry_coalesce ht (fun i hi => hp _ _ i hi) (by simpa using he)
  · exact hp o' g' info (by simpa [hkey] using he)

/-- So does `add`. -/
theorem add_call (g : UInt64) (message : Option μ) (addToDb : Bool) (o : UInt64) :
    Call s (s.add g message addToDb o).1 := by
  match message with
  | none => exact .refl s
  | some m =>
      match hg : s.entityMap[g]? with
      | some info =>
          rw [s.add_of_some hg]
          exact .of_same rfl rfl rfl rfl rfl rfl
      | none =>
          rw [s.add_of_none hg]
          have hwith : Call s (s.withEntity g o m) := .of_same rfl rfl rfl rfl rfl rfl
          split
          · split
            · -- the coin goes out with an id of its own
              refine hwith.trans ⟨rfl, rfl, rfl, id, Nat.le_succ _, _, rfl, ?_⟩
              intro p hp
              obtain rfl := List.mem_singleton.mp hp
              exact ⟨Nat.lt_succ_self _, Nat.le_refl _⟩
            · exact hwith.trans (updateToDb_call _ o g (.inl rfl))
          · exact hwith

/-- So does `remove`. -/
theorem remove_call (g : UInt64) (fromDb removeMsg : Bool) :
    Call s (s.remove g fromDb removeMsg).1 := by
  match fromDb with
  | false =>
      obtain ⟨online, owners, em, heq, -, -⟩ := s.remove_cases g removeMsg
      rw [heq]
      exact .of_same rfl rfl rfl rfl rfl rfl
  | true =>
      have h0 : Call s (if guidType g = etPlayer then
          { s with onlinePlayer := s.onlinePlayer.erase g } else s) := by
        split
        · exact .of_same rfl rfl rfl rfl rfl rfl
        · exact .refl s
      unfold remove
      generalize (if guidType g = etPlayer then
        { s with onlinePlayer := s.onlinePlayer.erase g } else s) = s0 at h0 ⊢
      dsimp only
      split
      · exact h0
      · next o _ =>
          split
          · exact h0.trans (.of_same rfl rfl rfl rfl rfl rfl)
          · simp only [Bool.not_true, Bool.false_and, if_true]
            refine h0.trans ?_
            refine Call.trans (t := PoolImp.updateToDb
              { s0 with guidOwnerguidMap := s0.guidOwnerguidMap.erase g } o g .remove) ?_
              (.of_same rfl rfl rfl rfl rfl rfl)
            refine Call.trans ?_ (updateToDb_call _ o g (.inr (.inl rfl)))
            exact .of_same rfl rfl rfl rfl rfl rfl

theorem updateGuid_call (g : UInt64) : Call s (s.updateGuid g).1 := by
  obtain heq | ⟨o, info, -, -, heq⟩ := s.updateGuid_cases g
  · rw [heq]
    exact .refl s
  · rw [heq]
    refine Call.trans ?_ (updateToDb_call _ o g (.inr (.inr rfl)))
    exact .of_same rfl rfl rfl rfl rfl rfl

theorem clearUpdateEntity_call (o : UInt64) : Call s (s.clearUpdateEntity o).1 := by
  unfold clearUpdateEntity
  match s.dbEntityMap[o]? with
  | none => exact .refl s
  | some m =>
      refine ⟨rfl, rfl, rfl, ?_, Nat.le_refl _, [], by rw [List.append_nil], by simp⟩
      intro hp o' g' info he
      rw [entry_erase] at he
      split at he
      · exact absurd he (by simp)
      · exact hp o' g' info he

end PoolImp

/-! ## §2. The cases of a step. -/

/-- The tick gives the running batch up. -/
def BailsOut (s : PoolImp μ) : Prop :=
  s.dbEntityMap.isEmpty = false ∧ s.updateToDbNum ≠ 0 ∧ 200 * 10 < s.doNotGetTheReplayTime + 1

instance (s : PoolImp μ) : Decidable (BailsOut s) :=
  inferInstanceAs (Decidable (_ ∧ _ ∧ _))

/-- Neither a reply, nor a committed list, nor a tick that does something. -/
def IsCall (s : PoolImp μ) : Action μ → Prop
  | .reply .. | .commit _ => False
  | .update => ¬ StartsBatch s ∧ ¬ BailsOut s
  | _ => True

/-- The pool when a tick gives the batch up. -/
def PoolImp.bailOut (s : PoolImp μ) : PoolImp μ :=
  { s with doNotGetTheReplayTime := s.doNotGetTheReplayTime + 1, updateToDbNum := 0 }

/-- The pool when a plugin commits its requests. -/
def PoolImp.commitPlugin (s : PoolImp μ) (requests : List (Request μ)) : PoolImp μ :=
  PoolImp.commit { s with requestId := s.requestId + 1 }
    { requestId := s.requestId + 1, requestVec := requests } .plugin

/-- The pool when the reply to the `i`-th packet arrives. -/
def PoolImp.takeReply (s : PoolImp μ) (i : Nat) (p : CachePacket μ) (reply : CacheReply μ) :
    PoolImp μ :=
  PoolImp.handlePacket { s with inFlight := s.inFlight.eraseIdx i } p.guid p.requestId reply

/-- A tick starts a batch, bails out, or does nothing. -/
theorem update_cases (s : PoolImp μ) :
    (StartsBatch s ∧ s.update = s.startBatch) ∨ (BailsOut s ∧ s.update = s.bailOut) ∨
    (¬ StartsBatch s ∧ ¬ BailsOut s ∧ Call s s.update) := by
  unfold PoolImp.update StartsBatch BailsOut
  by_cases hemp : s.dbEntityMap.isEmpty = true
  · rw [if_pos hemp, hemp]
    exact .inr (.inr ⟨by simp, by simp, .refl s⟩)
  · have hemp' : s.dbEntityMap.isEmpty = false := by simpa using hemp
    rw [if_neg hemp, hemp']
    by_cases hnum : s.updateToDbNum ≠ 0
    · rw [if_pos hnum]
      dsimp only
      by_cases ht : s.doNotGetTheReplayTime + 1 > 200 * 10
      · rw [if_pos ht]
        exact .inr (.inl ⟨⟨rfl, hnum, ht⟩, rfl⟩)
      · rw [if_neg ht]
        refine .inr (.inr ⟨fun h => hnum h.2, fun h => ht h.2.2, ?_⟩)
        exact .of_same rfl rfl rfl rfl rfl rfl
    · rw [if_neg hnum]
      exact .inl ⟨⟨rfl, by simpa using hnum⟩, rfl⟩

/-- **The cases of a step.** -/
theorem step_cases {s s' : PoolImp μ} {a : Action μ} (hst : step s a = some s') :
    (IsCall s a ∧ Call s s') ∨
    (a = .update ∧ BailsOut s ∧ s' = s.bailOut) ∨
    (a = .update ∧ StartsBatch s ∧ s' = s.startBatch) ∨
    (∃ requests, a = .commit requests ∧ s' = s.commitPlugin requests) ∨
    (∃ i p reply, a = .reply i reply ∧ s.inFlight[i]? = some p ∧ s' = s.takeReply i p reply) := by
  match a with
  | .add g message addToDb o =>
      obtain rfl := Option.some.inj hst
      exact .inl ⟨trivial, s.add_call g message addToDb o⟩
  | .remove g fromDb removeMsg =>
      obtain rfl := Option.some.inj hst
      exact .inl ⟨trivial, s.remove_call g fromDb removeMsg⟩
  | .updateGuid g =>
      obtain rfl := Option.some.inj hst
      exact .inl ⟨trivial, s.updateGuid_call g⟩
  | .update =>
      obtain rfl := Option.some.inj hst
      obtain ⟨hstart, heq⟩ | ⟨hbail, heq⟩ | ⟨hstart, hbail, hcall⟩ := update_cases s
      · exact .inr (.inr (.inl ⟨rfl, hstart, heq⟩))
      · exact .inr (.inl ⟨rfl, hbail, heq⟩)
      · exact .inl ⟨⟨hstart, hbail⟩, hcall⟩
  | .reply i reply =>
      obtain ⟨p, hp, rfl⟩ := Option.map_eq_some_iff.mp hst
      exact .inr (.inr (.inr (.inr ⟨i, p, reply, rfl, hp, rfl⟩)))
  | .clearUpdateEntity o =>
      obtain rfl := Option.some.inj hst
      exact .inl ⟨trivial, s.clearUpdateEntity_call o⟩
  | .getWhileFlush g =>
      obtain rfl := Option.some.inj hst
      refine .inl ⟨trivial, ?_⟩
      unfold PoolImp.getWhileFlush
      split
      · split
        · exact .refl s
        · exact .of_same rfl rfl rfl rfl rfl rfl
      · exact .refl s
  | .clearFlushState g =>
      obtain rfl := Option.some.inj hst
      refine .inl ⟨trivial, ?_⟩
      unfold PoolImp.clearFlushState
      split
      · exact .of_same rfl rfl rfl rfl rfl rfl
      · exact .refl s
  | .write g message =>
      obtain rfl := Option.some.inj hst
      refine .inl ⟨trivial, ?_⟩
      rw [s.write_eq g message]
      exact .of_same rfl rfl rfl rfl rfl rfl
  | .playerIsOnline g =>
      obtain rfl := Option.some.inj hst
      exact .inl ⟨trivial, .of_same rfl rfl rfl rfl rfl rfl⟩
  | .playerIsOffline g =>
      obtain rfl := Option.some.inj hst
      exact .inl ⟨trivial, .of_same rfl rfl rfl rfl rfl rfl⟩
  | .commit requests =>
      obtain rfl := Option.some.inj hst
      exact .inr (.inr (.inr (.inl ⟨requests, rfl, rfl⟩)))

/-! ## §3. The turns of a batch. -/

namespace PoolImp

variable (s : PoolImp μ)

/-- **One owner's turn**: nothing is sent, or one list is committed and counted. -/
theorem updateOwner_cases (e : UInt64 × DbEntityMap) :
    (∃ id up log, s.requestId ≤ id ∧ s.updateOwner e =
      { s with requestId := id, updatingDbEntityMap := up, log := log }) ∨
    (batchRequests s.entityMap e.2 ≠ [] ∧ ∃ up, s.updateOwner e =
      { commit { s.openList e.2 with updateToDbNum := s.updateToDbNum + 1 }
          { requestId := s.requestId + 1, requestVec := batchRequests s.entityMap e.2 }
          .updateToDb with
        updatingDbEntityMap := up }) := by
  unfold updateOwner
  by_cases hemp : e.2.isEmpty = true
  · rw [if_pos hemp]
    exact .inl ⟨s.requestId, _, s.log, Nat.le_refl _, rfl⟩
  · rw [if_neg hemp]
    by_cases hreq : (batchRequests s.entityMap e.2).isEmpty = true
    · rw [s.updateDbEntity_of_isEmpty hreq]
      exact .inl ⟨s.requestId + 1, _, _, Nat.le_succ _, rfl⟩
    · rw [s.updateDbEntity_of_not_isEmpty hreq]
      exact .inr ⟨by simpa using hreq, _, rfl⟩

/-- What every owner's turn keeps, a batch keeps. -/
theorem startBatch_induction {I : PoolImp μ → Prop} (h0 : I s.batchStart)
    (hstep : ∀ (t : PoolImp μ) (o : UInt64) (m : DbEntityMap), s.dbEntityMap[o]? = some m →
      t.entityMap = s.entityMap → I t → I (t.updateOwner (o, m))) : I s.startBatch := by
  have key : ∀ (l : List (UInt64 × DbEntityMap)), (∀ e ∈ l, e ∈ s.dbEntityMap.toList) →
      ∀ t : PoolImp μ, t.entityMap = s.entityMap → I t → I (l.foldl updateOwner t) := by
    intro l
    induction l with
    | nil => exact fun _ _ _ ht => ht
    | cons e l ih =>
        intro hl t hem ht
        obtain ⟨o, m⟩ := e
        have ho := TreeMap.mem_toList_iff_getElem?_eq_some.mp (hl _ (List.mem_cons_self ..))
        obtain ⟨hem', -⟩ := t.updateOwner_spec (o, m)
        exact ih (fun x hx => hl x (List.mem_cons_of_mem _ hx)) _ (hem'.trans hem)
          (hstep t o m ho hem ht)
  exact key _ (fun _ he => he) _ rfl h0

end PoolImp

/-! ## §4. Replies. -/

/-- The list whose callback takes written entries out. -/
def completedBatch (completed : Option (RequestInfo μ)) : Option (RequestList μ) :=
  completed.bind fun ri =>
    match ri.callBack with
    | .updateToDb => some ri.requestList
    | .plugin => none

namespace PoolImp

variable (s : PoolImp μ)

/-- Writing back changes nothing but the entities. -/
theorem writtenBack_eq (info : DbEntityInfo) :
    ∃ online owners em, s.writtenBack info =
      { s with onlinePlayer := online, guidOwnerguidMap := owners, entityMap := em } := by
  have hcheck : ∀ g, ∃ online owners em, s.checkShouldRemovedEntity g =
      { s with onlinePlayer := online, guidOwnerguidMap := owners, entityMap := em } := by
    intro g
    unfold checkShouldRemovedEntity
    split
    · split
      · exact ⟨_, _, _, rfl⟩
      · exact ⟨_, _, _, rfl⟩
    · exact ⟨_, _, _, rfl⟩
  unfold writtenBack
  split
  · exact hcheck _
  · exact hcheck _
  · exact hcheck _
  · obtain ⟨online, owners, em, heq, -, -⟩ := s.remove_cases info.guid true
    exact ⟨online, owners, em, heq⟩
  · exact ⟨_, _, _, rfl⟩

/-- An answer changes nothing but the entities and the entries of the batch. -/
theorem removeDbInfo_frame (o g : UInt64) (ok : Bool) :
    ∃ online owners em up, s.removeDbInfo o g ok =
      { s with
        onlinePlayer := online
        guidOwnerguidMap := owners
        entityMap := em
        updatingDbEntityMap := up } := by
  match ho : s.updatingDbEntityMap[o]? with
  | none =>
      unfold removeDbInfo
      rw [ho]
      exact ⟨_, _, _, _, rfl⟩
  | some m =>
      have htake : ∃ online owners em, (s.takeAnswer m g ok).1 =
          { s with onlinePlayer := online, guidOwnerguidMap := owners, entityMap := em } := by
        unfold takeAnswer
        split
        · exact ⟨_, _, _, rfl⟩
        · split
          · exact s.writtenBack_eq _
          · split
            · exact ⟨_, _, _, rfl⟩
            · exact ⟨_, _, _, rfl⟩
      obtain ⟨online, owners, em, heq⟩ := htake
      rw [s.removeDbInfo_eq ho, heq]
      exact ⟨online, owners, em, _, rfl⟩

/-- Seen through one owner and guid, the callback of a batch is about the
requests for them alone. -/
theorem removeDbInfo_keyed :
    KeyedStep (fun r : Request μ => (r.ownerGuid, r.guid))
      (fun (s : PoolImp μ) k => entry s.updatingDbEntityMap k.1 k.2)
      (fun s r => s.removeDbInfo r.ownerGuid r.guid r.success)
      (fun v r => answeredEntry r.success v) where
  at_key s r := by
    rw [s.removeDbInfo_entry, if_pos ⟨rfl, rfl⟩]
  frame s r k hk := by
    rw [s.removeDbInfo_entry, if_neg]
    intro h
    exact hk (Prod.ext h.1 h.2)

theorem foldl_removeDbInfo_frame (rs : List (Request μ)) :
    ∃ online owners em up,
      rs.foldl (fun s r => s.removeDbInfo r.ownerGuid r.guid r.success) s =
      { s with
        onlinePlayer := online
        guidOwnerguidMap := owners
        entityMap := em
        updatingDbEntityMap := up } := by
  induction rs generalizing s with
  | nil => exact ⟨_, _, _, _, rfl⟩
  | cons r rs ih =>
      obtain ⟨online, owners, em, up, heq⟩ := ih (s.removeDbInfo r.ownerGuid r.guid r.success)
      obtain ⟨online', owners', em', up', heq'⟩ := s.removeDbInfo_frame r.ownerGuid r.guid r.success
      rw [List.foldl_cons, heq, heq']
      exact ⟨online, owners, em, up, rfl⟩

/-- What a batch's entry is after the callback of a list. -/
def answeredBy (rl : RequestList μ) (o g : UInt64) (e : Option DbEntityInfo) :
    Option DbEntityInfo :=
  (rl.requestVec.filter fun r => (r.ownerGuid, r.guid) = (o, g)).foldl
    (fun v r => answeredEntry r.success v) e

/-- The counter stays at 0 once a tick has reset it. -/
theorem updateToDbReplay_eq :
    s.updateToDbReplay = { s with updateToDbNum := s.updateToDbNum - 1 } := by
  unfold updateToDbReplay
  split
  · rfl
  · next h =>
      have hz : s.updateToDbNum - 1 = s.updateToDbNum := by omega
      rw [hz]

/-- **The callback of a batch**, seen in the pool's bookkeeping. -/
theorem updateToDbCallback_books (rl : RequestList μ) :
    let s' := s.updateToDbCallback rl
    s'.requestInfoVec = s.requestInfoVec ∧ s'.dbEntityMap = s.dbEntityMap ∧
    s'.inFlight = s.inFlight ∧ s'.requestId = s.requestId ∧
    s'.updateToDbNum = s.updateToDbNum - 1 ∧
    ∀ o g, entry s'.updatingDbEntityMap o g
      = answeredBy rl o g (entry s.updatingDbEntityMap o g) := by
  have hkeyed := removeDbInfo_keyed.foldl rl.requestVec
    { s with updateToDbNum := s.updateToDbNum - 1 }
  obtain ⟨online, owners, em, up, heq⟩ := foldl_removeDbInfo_frame
    { s with updateToDbNum := s.updateToDbNum - 1 } rl.requestVec
  dsimp only
  unfold updateToDbCallback
  rw [updateToDbReplay_eq]
  refine ⟨?_, ?_, ?_, ?_, ?_, fun o g => hkeyed (o, g)⟩
  · rw [heq]
  · rw [heq]
  · rw [heq]
  · rw [heq]
  · rw [heq]

/-- **A reply**, seen in the pool's bookkeeping. -/
theorem handlePacket_books (guid : UInt64) (requestId : Nat) (reply : CacheReply μ) :
    let out := handleVec guid requestId reply s.requestInfoVec
    let s' := s.handlePacket guid requestId reply
    s'.requestInfoVec = out.1 ∧ s'.dbEntityMap = s.dbEntityMap ∧ s'.inFlight = s.inFlight ∧
    s'.requestId = s.requestId ∧
    s'.updateToDbNum = (match completedBatch out.2 with
      | some _ => s.updateToDbNum - 1
      | none => s.updateToDbNum) ∧
    ∀ o g, entry s'.updatingDbEntityMap o g = (match completedBatch out.2 with
      | some rl => answeredBy rl o g (entry s.updatingDbEntityMap o g)
      | none => entry s.updatingDbEntityMap o g) := by
  dsimp only
  unfold handlePacket
  rw [logReply_eq]
  dsimp only
  match (handleVec guid requestId reply s.requestInfoVec).2 with
  | none => exact ⟨rfl, rfl, rfl, rfl, rfl, fun _ _ => rfl⟩
  | some ⟨rl, .plugin⟩ => exact ⟨rfl, rfl, rfl, rfl, rfl, fun _ _ => rfl⟩
  | some ⟨rl, .updateToDb⟩ => exact updateToDbCallback_books _ rl

end PoolImp

/-! ## §5. The pool with its history. -/

/-- A reply, and the pool before and after it. -/
structure ReplyEvent (μ : Type) where
  before : PoolImp μ
  /-- The last request id given out before the running batch. -/
  batchFrom : Nat
  packet : CachePacket μ
  reply : CacheReply μ
  after : PoolImp μ

/-- The list that the reply completes. -/
def ReplyEvent.completed (ev : ReplyEvent μ) : Option (RequestInfo μ) :=
  (handleVec ev.packet.guid ev.packet.requestId ev.reply ev.before.requestInfoVec).2

/-- The pool, the last request id given out before its running batch, and the
replies so far, latest first. -/
structure PoolHistory (μ : Type) where
  pool : PoolImp μ
  batchFrom : Nat := 0
  replies : List (ReplyEvent μ) := []

namespace PoolHistory

/-- A batch that starts has the request ids from here on. -/
def batchFromAfter (w : PoolHistory μ) : Action μ → Nat
  | .update => if StartsBatch w.pool then w.pool.requestId else w.batchFrom
  | _ => w.batchFrom

/-- What a step that leads to `s'` adds to the replies. -/
def eventsOf (w : PoolHistory μ) (s' : PoolImp μ) : Action μ → List (ReplyEvent μ)
  | .reply i reply => (w.pool.inFlight[i]?).toList.map fun p =>
      { before := w.pool, batchFrom := w.batchFrom, packet := p, reply, after := s' }
  | _ => []

/-- An action of the pool, with its history. -/
def step (w : PoolHistory μ) (a : Action μ) : Option (PoolHistory μ) :=
  (Pool.step w.pool a).map fun s' =>
    { pool := s', batchFrom := w.batchFromAfter a, replies := w.eventsOf s' a ++ w.replies }

/-- The history when the reply to the `i`-th packet arrives. -/
def takeReply (w : PoolHistory μ) (i : Nat) (p : CachePacket μ) (reply : CacheReply μ) :
    PoolHistory μ :=
  let s' := w.pool.takeReply i p reply
  { w with
    pool := s'
    replies :=
      { before := w.pool, batchFrom := w.batchFrom, packet := p, reply, after := s' }
        :: w.replies }

end PoolHistory

/-- The runs of the pool, with their history. -/
def historySystem (cfg : PoolCfg) : TransSys (PoolHistory μ) (Action μ) where
  init w := w = { pool := { cfg } }
  step := PoolHistory.step

theorem PoolHistory.batchFromAfter_of_call {w : PoolHistory μ} {a : Action μ}
    (h : IsCall w.pool a) : w.batchFromAfter a = w.batchFrom := by
  unfold batchFromAfter
  split
  · exact if_neg h.1
  · rfl

theorem PoolHistory.eventsOf_of_call {w : PoolHistory μ} {a : Action μ} (h : IsCall w.pool a)
    (s' : PoolImp μ) : w.eventsOf s' a = [] := by
  unfold eventsOf
  split
  · exact absurd h id
  · rfl

/-- **The cases of a step, with the history.** -/
theorem PoolHistory.step_cases {w w' : PoolHistory μ} {a : Action μ} (hst : w.step a = some w') :
    (IsCall w.pool a ∧ Call w.pool w'.pool ∧ w' = { w with pool := w'.pool }) ∨
    (a = .update ∧ BailsOut w.pool ∧ w' = { w with pool := w.pool.bailOut }) ∨
    (a = .update ∧ StartsBatch w.pool ∧
      w' = { w with pool := w.pool.startBatch, batchFrom := w.pool.requestId }) ∨
    (∃ requests, a = .commit requests ∧ w' = { w with pool := w.pool.commitPlugin requests }) ∨
    (∃ i p reply, a = .reply i reply ∧ w.pool.inFlight[i]? = some p ∧
      w' = w.takeReply i p reply) := by
  obtain ⟨s', hs', rfl⟩ := Option.map_eq_some_iff.mp hst
  obtain ⟨hc, hcall⟩ | ⟨rfl, hb, rfl⟩ | ⟨rfl, hb, rfl⟩ | ⟨requests, rfl, rfl⟩ |
    ⟨i, p, reply, rfl, hp, rfl⟩ := Pool.step_cases hs'
  · refine .inl ⟨hc, hcall, ?_⟩
    rw [batchFromAfter_of_call hc, eventsOf_of_call hc, List.nil_append]
  · refine .inr (.inl ⟨rfl, hb, ?_⟩)
    have hno : ¬ StartsBatch w.pool := fun h => hb.2.1 h.2
    show PoolHistory.mk _ (if _ then _ else _) _ = _
    rw [if_neg hno]
    rfl
  · refine .inr (.inr (.inl ⟨rfl, hb, ?_⟩))
    show PoolHistory.mk _ (if _ then _ else _) _ = _
    rw [if_pos hb]
    rfl
  · exact .inr (.inr (.inr (.inl ⟨requests, rfl, rfl⟩)))
  · refine .inr (.inr (.inr (.inr ⟨i, p, reply, rfl, hp, ?_⟩)))
    show PoolHistory.mk _ _ ((w.pool.inFlight[i]?).toList.map _ ++ w.replies) = _
    rw [hp]
    rfl

/-- The step of a reply. -/
theorem PoolHistory.step_reply {w : PoolHistory μ} {i : Nat} {p : CachePacket μ}
    (hp : w.pool.inFlight[i]? = some p) (reply : CacheReply μ) :
    w.step (.reply i reply) = some (w.takeReply i p reply) := by
  have hst : Pool.step w.pool (.reply i reply) = some (w.pool.takeReply i p reply) := by
    show (w.pool.inFlight[i]?).map _ = _
    rw [hp]
    rfl
  unfold step
  rw [hst]
  show some (PoolHistory.mk _ _ ((w.pool.inFlight[i]?).toList.map _ ++ w.replies)) = _
  rw [hp]
  rfl

/-- The entries that are not sent yet stay as they are recorded. -/
theorem PoolHistory.pending_step {w w' : PoolHistory μ} {a : Action μ} (h : Pending w.pool)
    (hst : w.step a = some w') : Pending w'.pool := by
  obtain ⟨-, hcall, -⟩ | ⟨-, -, rfl⟩ | ⟨-, -, rfl⟩ | ⟨requests, -, rfl⟩ |
    ⟨i, p, reply, -, -, rfl⟩ := PoolHistory.step_cases hst
  · exact hcall.pending h
  · exact h
  · intro o g info he
    obtain ⟨-, hdb, -, -⟩ := w.pool.startBatch_spec
    have he' : entry w.pool.startBatch.dbEntityMap o g = some info := he
    rw [hdb] at he'
    simp at he'
  · exact h
  · obtain ⟨-, hdb, -⟩ := PoolImp.handlePacket_books
      { w.pool with inFlight := w.pool.inFlight.eraseIdx i } p.guid p.requestId reply
    intro o g info he
    refine h o g info ?_
    rw [← he]
    exact congrArg (fun m => entry m o g) hdb.symm

end Steppingstone.Pool
