/-
  Steppingstone.Pool.Coalesce — what the pending operation of an entity stands for.

  Between two ticks `updateToDb` keeps one operation for each owner and guid.  It forgets whether
  the row existed: a removed entity that is added again is an ADD, which leaves the old row, and
  when it is removed once more the ADD and the REMOVE cancel and the row stays.

  An entity that is added again under another owner leaves two operations.  The tick comes to the
  owners in the order of their guids, whatever the calls were.
-/
import Steppingstone.Pool.Marks

namespace Steppingstone.Pool

open Std (TreeMap)
open NestedMap

variable {μ : Type}

/-! ## §1. Calls on one guid. -/

/-- The calls on a guid; `write` is a change of the entity in place. -/
inductive GuidCall (μ : Type)
  | add (m : μ) (ownerGuid : UInt64)
  | update
  | remove (removeEntityMsg : Bool)
  | write (m : μ)

namespace GuidCall

/-- A call that succeeds; `add` and `remove` are for the database as well. -/
def perform (g : UInt64) (s : PoolImp μ) : GuidCall μ → Option (PoolImp μ)
  | add m o => if (s.add g (some m) true o).2 then some (s.add g (some m) true o).1 else none
  | update => if (s.updateGuid g).2 then some (s.updateGuid g).1 else none
  | remove msg => if (s.remove g true msg).2 then some (s.remove g true msg).1 else none
  | write m => some (s.write g m)

/-- The operation that the call records, if it records one. -/
def opType : GuidCall μ → EntityOpType
  | add .. => .add
  | update => .update
  | remove _ => .remove
  | write _ => .null

/-- The call adds the entity. -/
def isAdd : GuidCall μ → Bool
  | add .. => true
  | _ => false

/-- Does the call add the guid under the owner? -/
def returnsTo (o : Option UInt64) : GuidCall μ → Bool
  | add _ o' => o == some o'
  | _ => false

/-- The owner that the call leaves the guid under. -/
def owner (o : Option UInt64) : GuidCall μ → Option UInt64
  | add _ o' => some o'
  | _ => o

/-- The message that the call leaves under the guid. -/
def message (v : Option μ) : GuidCall μ → Option μ
  | add m _ => some m
  | update => v
  | remove _ => none
  | write m => v.map fun _ => m

end GuidCall

/-- Sequences of successful calls on the guid. -/
def guidCalls (g : UInt64) : TransSys (PoolImp μ) (GuidCall μ) where
  init _ := True
  step s c := c.perform g s

/-- The operation that was recorded between the two states: `updateToDb` numbers every one. -/
def recordedBy (s s' : PoolImp μ) (c : GuidCall μ) : List EntityOpType :=
  if s'.log.next = s.log.next then [] else [c.opType]

/-- The operations that a sequence of calls records, in their order. -/
def recordedOps (g : UInt64) : PoolImp μ → List (GuidCall μ) → List EntityOpType
  | _, [] => []
  | s, c :: cs =>
      match c.perform g s with
      | none => []
      | some s' => recordedBy s s' c ++ recordedOps g s' cs

/-- The message under the guid after the calls, as far as an `add` among them brought it. -/
def lastMessage (cs : List (GuidCall μ)) : Option μ :=
  cs.foldl GuidCall.message none

/-- The owner of the last `add`. -/
def lastOwner (cs : List (GuidCall μ)) : Option UInt64 :=
  cs.foldl GuidCall.owner none

/-! ## §2. Rows. -/

/-- What an operation makes of the row: ADD creates it when it is absent, UPDATE overwrites it,
    REMOVE deletes it. -/
def performOp (v : Option μ) (row : Option μ) : EntityOpType → Option μ
  | .add => row.orElse fun _ => v
  | .update => row.map fun old => v.getD old
  | .remove => none
  | _ => row

/-- The operations that are pending for the guid, with their owners, in the order of the tick. -/
def left (s : PoolImp μ) (g : UInt64) : List (UInt64 × EntityOpType) :=
  s.dbEntityMap.toList.filterMap fun e => (e.2[g]?).map fun info => (e.1, info.opType)

/-- The message at the tick. -/
def current (s : PoolImp μ) (g : UInt64) : Option μ :=
  (s.entityMap[g]?).bind (·.message)

/-- **The effect is preserved**: the tick leaves the row that the recorded operations leave. -/
def EffectInOrder (s s' : PoolImp μ) (g : UInt64) (row : Option μ) (cs : List (GuidCall μ)) :
    Prop :=
  ((left s' g).map Prod.snd).foldl (performOp (current s' g)) row
    = (recordedOps g s cs).foldl (performOp (current s' g)) row

/-- It does not matter either in what order the tick comes to the owners. -/
def EffectPreserved (s s' : PoolImp μ) (g : UInt64) (row : Option μ) (cs : List (GuidCall μ)) :
    Prop :=
  ∀ l : List (UInt64 × EntityOpType), l.Perm (left s' g) →
    (l.map Prod.snd).foldl (performOp (current s' g)) row
      = (recordedOps g s cs).foldl (performOp (current s' g)) row

/-- The entity was not in the pool, or is not added; or it comes back to its first owner and is left
    as the row was, or never comes back to it and is not left in the pool. -/
def Coalesces (s : PoolImp μ) (g : UInt64) (row : Option μ) (cs : List (GuidCall μ)) : Prop :=
  s.entityMap[g]? = none ∨ cs.any (·.isAdd) = false ∨
    lastMessage cs = if cs.any (·.returnsTo s.guidOwnerguidMap[g]?) then row else none

/-- Or it is left in the pool, never comes back to its first owner, and that owner comes before the
    last one. -/
def CoalescesInOrder (s : PoolImp μ) (g : UInt64) (row : Option μ) (cs : List (GuidCall μ)) :
    Prop :=
  Coalesces s g row cs ∨
    cs.any (·.returnsTo s.guidOwnerguidMap[g]?) = false ∧ lastMessage cs ≠ none ∧
      ∃ o₀ ∈ s.guidOwnerguidMap[g]?, ∃ o ∈ lastOwner cs, o₀ < o

/-! ## §3. The pending operations of a guid. -/

/-- The operation pending for the guid under the owner. -/
def opAt (s : PoolImp μ) (g o : UInt64) : Option EntityOpType :=
  (entry s.dbEntityMap o g).map (·.opType)

/-- What recording an operation makes of the pending one. -/
def coalesceOp (t : EntityOpType) : Option EntityOpType → Option EntityOpType
  | none => some t
  | some .add => if t = .remove then none else some .add
  | some _ => some t

/-- What is recorded of two changes in a row. -/
theorem coalesce_opType (n : Nat) (t : EntityOpType) (o g : UInt64) (e : Option DbEntityInfo) :
    (coalesce n t o g e).map (·.opType) = coalesceOp t (e.map (·.opType)) := by
  match e with
  | none => rfl
  | some info =>
      unfold coalesce
      by_cases hadd : info.opType = .add
      · by_cases hremove : t = .remove
        · simp [hadd, hremove, coalesceOp]
        · simp [hadd, hremove, coalesceOp]
      · simp only [if_neg hadd, Option.map_some]
        unfold coalesceOp
        split
        · next h => cases h
        · next h => exact absurd (Option.some.inj h) hadd
        · rfl

theorem updateToDb_opAt (s : PoolImp μ) (o g : UInt64) (t : EntityOpType) (o' : UInt64) :
    opAt (s.updateToDb o g t) g o' =
      if o' = o then coalesceOp t (opAt s g o) else opAt s g o' := by
  unfold opAt
  rw [s.updateToDb_entry]
  by_cases ho : o' = o
  · rw [if_pos ⟨ho, rfl⟩, if_pos ho, coalesce_opType]
  · rw [if_neg fun h => ho h.1, if_neg ho]

/-- What is left to be written, owner by owner. -/
theorem mem_left {s : PoolImp μ} {g o : UInt64} {t : EntityOpType} :
    (o, t) ∈ left s g ↔ opAt s g o = some t := by
  unfold left opAt
  rw [List.mem_filterMap]
  constructor
  · intro h
    obtain ⟨⟨o', m⟩, hmem, heq⟩ := h
    obtain ⟨info, hinfo, hpair⟩ := Option.map_eq_some_iff.mp heq
    obtain ⟨rfl, rfl⟩ := Prod.mk.inj hpair
    have ho := TreeMap.mem_toList_iff_getElem?_eq_some.mp hmem
    rw [entry_eq_some.mpr ⟨m, ho, hinfo⟩]
    rfl
  · intro h
    obtain ⟨info, hinfo, rfl⟩ := Option.map_eq_some_iff.mp h
    obtain ⟨m, ho, hg⟩ := entry_eq_some.mp hinfo
    refine ⟨(o, m), TreeMap.mem_toList_iff_getElem?_eq_some.mpr ho, ?_⟩
    rw [hg]
    rfl

theorem left_nodup (s : PoolImp μ) (g : UInt64) : (left s g).Nodup := by
  have hkeys := nodup_keys_toList s.dbEntityMap
  rw [List.Nodup, List.pairwise_map] at hkeys
  unfold left
  refine List.Pairwise.filterMap _ ?_ hkeys
  intro a b hne x hx y hy hxy
  obtain ⟨infoA, -, rfl⟩ := Option.map_eq_some_iff.mp hx
  obtain ⟨infoB, -, rfl⟩ := Option.map_eq_some_iff.mp hy
  exact hne (Prod.mk.inj hxy).1

/-- They are listed in the order of the owners. -/
theorem left_sorted (s : PoolImp μ) (g : UInt64) :
    (left s g).Pairwise (fun a b => a.1 < b.1) := by
  unfold left
  refine List.Pairwise.filterMap _ ?_ s.dbEntityMap.ordered_keys_toList
  intro a b hlt x hx y hy
  obtain ⟨infoA, -, rfl⟩ := Option.map_eq_some_iff.mp hx
  obtain ⟨infoB, -, rfl⟩ := Option.map_eq_some_iff.mp hy
  exact Std.compare_eq_lt.mp hlt

/-- The pending operations are the listed ones. -/
theorem left_perm {s : PoolImp μ} {g : UInt64} {l : List (UInt64 × EntityOpType)} (hnd : l.Nodup)
    (h : ∀ o t, (o, t) ∈ l ↔ opAt s g o = some t) : l.Perm (left s g) := by
  refine (List.perm_ext_iff_of_nodup hnd (left_nodup s g)).mpr ?_
  intro e
  obtain ⟨o, t⟩ := e
  exact (h o t).trans mem_left.symm

/-! ## §4. What each call does. -/

section Calls

variable {s s' : PoolImp μ} {g : UInt64}

/-- The call recorded `t` under the owner. -/
structure RecordedAt (s s' : PoolImp μ) (g o : UInt64) (t : EntityOpType) : Prop where
  pending : ∀ o', opAt s' g o' = if o' = o then coalesceOp t (opAt s g o) else opAt s g o'
  next : s'.log.next = s.log.next + 1

theorem RecordedAt.of_updateToDb {u : PoolImp μ} {o : UInt64} {t : EntityOpType}
    (hdb : u.dbEntityMap = s.dbEntityMap) (hlog : u.log.next = s.log.next) :
    RecordedAt s (u.updateToDb o g t) g o t := by
  refine ⟨?_, ?_⟩
  · intro o'
    rw [updateToDb_opAt]
    unfold opAt
    rw [hdb]
  · rw [u.updateToDb_log, hlog]

/-- What `add` does. -/
theorem perform_add {m : μ} {o : UInt64} (hcoin : guidType g ≠ etCoin)
    (h : (GuidCall.add m o).perform g s = some s') :
    s.entityMap[g]? = none ∧ current s' g = some m ∧ s'.guidOwnerguidMap[g]? = some o ∧
      RecordedAt s s' g o .add := by
  unfold GuidCall.perform at h
  dsimp only at h
  by_cases hok : (s.add g (some m) true o).2 = true
  · rw [if_pos hok] at h
    obtain rfl := Option.some.inj h
    rw [s.add_snd, Option.isSome_some, Bool.true_and, Option.isNone_iff_eq_none,
      s.mark_eq_none] at hok
    refine ⟨hok, ?_, ?_, ?_⟩
    · unfold current
      rw [s.add_getElem?, if_pos ⟨rfl, hok⟩]
      rfl
    · rw [s.add_owner, if_pos rfl]
    · rw [s.add_of_none hok, if_pos rfl, if_neg hcoin]
      exact .of_updateToDb rfl rfl
  · rw [if_neg hok] at h
    cases h

/-- An update that leaves no trace, or one that is recorded. -/
theorem perform_update (h : (GuidCall.update : GuidCall μ).perform g s = some s') :
    s' = s ∨ ∃ o, s.guidOwnerguidMap[g]? = some o ∧ (s.entityMap[g]?).isSome = true ∧
      (s'.entityMap[g]?).isSome = true ∧ current s' g = current s g ∧
      s'.guidOwnerguidMap[g]? = some o ∧ RecordedAt s s' g o .update := by
  unfold GuidCall.perform at h
  dsimp only at h
  by_cases hok : (s.updateGuid g).2 = true
  · rw [if_pos hok] at h
    obtain rfl := Option.some.inj h
    obtain heq | ⟨o, info, ho, hg, heq⟩ := s.updateGuid_cases g
    · exact .inl heq
    · refine .inr ⟨o, ho, by rw [hg]; rfl, ?_, ?_, ?_, ?_⟩
      · rw [heq, PoolImp.updateToDb_entityMap, TreeMap.getElem?_insert_self]
        rfl
      · unfold current
        rw [heq, PoolImp.updateToDb_entityMap, TreeMap.getElem?_insert_self, hg]
        rfl
      · rw [heq, PoolImp.updateToDb_eq]
        exact ho
      · rw [heq]
        exact .of_updateToDb rfl rfl
  · rw [if_neg hok] at h
    cases h

/-- What `remove` does. -/
theorem perform_remove {msg : Bool} (h : (GuidCall.remove msg : GuidCall μ).perform g s = some s') :
    ∃ o, s.guidOwnerguidMap[g]? = some o ∧ (s.entityMap[g]?).isSome = true ∧
      s'.entityMap[g]? = none ∧ RecordedAt s s' g o .remove := by
  unfold GuidCall.perform at h
  dsimp only at h
  by_cases hok : (s.remove g true msg).2 = true
  · rw [if_pos hok] at h
    obtain rfl := Option.some.inj h
    have hgone : (s.remove g true msg).1.mark g = none := by
      refine s.remove_mark hok ?_
      intro hdefer
      cases hdefer.1
    rw [s.remove_snd, Bool.and_eq_true] at hok
    obtain ⟨o, ho⟩ := Option.isSome_iff_exists.mp hok.1
    obtain ⟨_, hm⟩ := Option.isSome_iff_exists.mp hok.2
    obtain ⟨info, hg, -⟩ := Option.map_eq_some_iff.mp hm
    refine ⟨o, ho, by rw [hg]; rfl, (PoolImp.mark_eq_none _).mp hgone, ?_⟩
    have hrec : RecordedAt s (s.disowned g o true) g o .remove := by
      unfold PoolImp.disowned
      rw [if_pos rfl]
      refine .of_updateToDb (s.offline_dbEntityMap g) ?_
      show (s.offline g).log.next = s.log.next
      unfold PoolImp.offline
      split <;> rfl
    rw [s.remove_of_some true msg ho hg]
    exact ⟨hrec.pending, hrec.next⟩
  · rw [if_neg hok] at h
    cases h

/-- What a write does. -/
theorem perform_write {m : μ} (h : (GuidCall.write m).perform g s = some s') :
    (s'.entityMap[g]?).isSome = (s.entityMap[g]?).isSome ∧
      current s' g = (s.entityMap[g]?).map (fun _ => m) ∧
      s'.guidOwnerguidMap = s.guidOwnerguidMap ∧ s'.dbEntityMap = s.dbEntityMap ∧
      s'.log.next = s.log.next := by
  obtain rfl := Option.some.inj h
  unfold PoolImp.write current
  match hg : s.entityMap[g]? with
  | none =>
      rw [hg]
      exact ⟨rfl, rfl, rfl, rfl, rfl⟩
  | some info => simp

theorem recordedBy_of_next {c : GuidCall μ} (h : s'.log.next = s.log.next) :
    recordedBy s s' c = [] := by
  unfold recordedBy
  rw [if_pos h]

theorem RecordedAt.recordedBy_eq {c : GuidCall μ} {o : UInt64} (h : RecordedAt s s' g o c.opType) :
    recordedBy s s' c = [c.opType] := by
  have hne : ¬ s'.log.next = s.log.next := by
    have hnext := h.next
    omega
  unfold recordedBy
  rw [if_neg hne]

theorem recordedOps_cons {c : GuidCall μ} {cs : List (GuidCall μ)} (h : c.perform g s = some s') :
    recordedOps g s (c :: cs) = recordedBy s s' c ++ recordedOps g s' cs := by
  rw [recordedOps, h]

end Calls

/-! ## §5. What is pending after a sequence of calls. -/

section Phases

variable {s₀ : PoolImp μ} {g : UInt64} {row : Option μ}

/-- Has nothing been left to delete for the first owner: there was no entity, or it came back? -/
def cameBack (s₀ : PoolImp μ) (g : UInt64) (cs : List (GuidCall μ)) : Bool :=
  (s₀.entityMap[g]?).isNone || cs.any (·.returnsTo s₀.guidOwnerguidMap[g]?)

/-- The REMOVE under the first owner, until the entity comes back to it. -/
def leftover (s₀ : PoolImp μ) (g : UInt64) (cs : List (GuidCall μ)) (o : UInt64) :
    Option EntityOpType :=
  if cameBack s₀ g cs = false ∧ s₀.guidOwnerguidMap[g]? = some o then some .remove else none

/-- The entity is there from the start. -/
structure Kept (s₀ : PoolImp μ) (g : UInt64) (s : PoolImp μ) (cs : List (GuidCall μ))
    (ts : List EntityOpType) : Prop where
  first : (s₀.entityMap[g]?).isSome = true
  here : (s.entityMap[g]?).isSome = true
  owner : s.guidOwnerguidMap[g]? = s₀.guidOwnerguidMap[g]?
  noAdd : cs.any (·.isAdd) = false
  recorded : ∀ t ∈ ts, t = .update
  pending : (ts = [] ∧ ∀ o, opAt s g o = none) ∨
    ∃ o₀, ts ≠ [] ∧ s₀.guidOwnerguidMap[g]? = some o₀ ∧
      ∀ o, opAt s g o = if o = o₀ then some .update else none

/-- The entity is not there. -/
structure Away (s₀ : PoolImp μ) (g : UInt64) (row : Option μ) (s : PoolImp μ)
    (cs : List (GuidCall μ)) (ts : List EntityOpType) : Prop where
  known : s₀.entityMap[g]? = none ∨ ∃ o, s₀.guidOwnerguidMap[g]? = some o
  gone : s.entityMap[g]? = none
  last : lastMessage cs = none
  pending : ∀ o, opAt s g o = leftover s₀ g cs o
  replay : ∀ v, ts.foldl (performOp v) row = none

/-- The entity was added last under the owner. -/
structure Added (s₀ : PoolImp μ) (g : UInt64) (row : Option μ) (s : PoolImp μ)
    (cs : List (GuidCall μ)) (ts : List EntityOpType) (o : UInt64) (x : μ) : Prop where
  known : s₀.entityMap[g]? = none ∨ ∃ o, s₀.guidOwnerguidMap[g]? = some o
  here : current s g = some x
  owner : s.guidOwnerguidMap[g]? = some o
  added : cs.any (·.isAdd) = true
  last : lastMessage cs = some x
  lastOwner : lastOwner cs = some o
  nothingLeft : leftover s₀ g cs o = none
  pending : ∀ o', opAt s g o' = if o' = o then some .add else leftover s₀ g cs o'
  replay : ∀ v, ts.foldl (performOp (some v)) row = some v

/-- After every sequence of calls one of the three holds. -/
inductive Phase (s₀ : PoolImp μ) (g : UInt64) (row : Option μ) (s : PoolImp μ)
    (cs : List (GuidCall μ)) (ts : List EntityOpType) : Prop
  | kept (h : Kept s₀ g s cs ts)
  | away (h : Away s₀ g row s cs ts)
  | added (o : UInt64) (x : μ) (h : Added s₀ g row s cs ts o x)

theorem isSome_of_current {s : PoolImp μ} {x : μ} (h : current s g = some x) :
    (s.entityMap[g]?).isSome = true := by
  obtain ⟨info, hinfo, -⟩ := Option.bind_eq_some_iff.mp h
  rw [hinfo]
  rfl

theorem lastMessage_snoc (cs : List (GuidCall μ)) (c : GuidCall μ) :
    lastMessage (cs ++ [c]) = c.message (lastMessage cs) := by
  unfold lastMessage
  rw [List.foldl_append]
  rfl

theorem lastOwner_snoc (cs : List (GuidCall μ)) (c : GuidCall μ) :
    lastOwner (cs ++ [c]) = c.owner (lastOwner cs) := by
  unfold lastOwner
  rw [List.foldl_append]
  rfl

/-- Only an `add` under the first owner brings the entity back. -/
theorem leftover_snoc (cs : List (GuidCall μ)) {c : GuidCall μ}
    (h : c.returnsTo s₀.guidOwnerguidMap[g]? = false) (o : UInt64) :
    leftover s₀ g (cs ++ [c]) o = leftover s₀ g cs o := by
  unfold leftover cameBack
  rw [List.any_append, List.any_cons, List.any_nil, h, Bool.or_false, Bool.or_false]

/-- An add leaves nothing of its owner behind. -/
theorem leftover_add_self (cs : List (GuidCall μ)) (m : μ) (o : UInt64) :
    leftover s₀ g (cs ++ [.add m o]) o = none := by
  unfold leftover
  refine if_neg ?_
  intro h
  have hback := h.1
  unfold cameBack at hback
  simp [GuidCall.returnsTo, h.2] at hback

theorem leftover_add_ne (cs : List (GuidCall μ)) (m : μ) {o o' : UInt64} (ho : o' ≠ o) :
    leftover s₀ g (cs ++ [.add m o]) o' = leftover s₀ g cs o' := by
  by_cases hfirst : s₀.guidOwnerguidMap[g]? = some o'
  · refine leftover_snoc cs ?_ o'
    show (s₀.guidOwnerguidMap[g]? == some o) = false
    rw [hfirst]
    simp [ho]
  · unfold leftover
    rw [if_neg fun h => hfirst h.2, if_neg fun h => hfirst h.2]

/-- Over nothing or a REMOVE, an ADD is an ADD. -/
theorem coalesceOp_leftover (cs : List (GuidCall μ)) (o : UInt64) :
    coalesceOp .add (leftover s₀ g cs o) = some .add := by
  unfold leftover
  split <;> rfl

theorem Kept.noReturn {s : PoolImp μ} {cs : List (GuidCall μ)} {ts : List EntityOpType}
    (h : Kept s₀ g s cs ts) : cameBack s₀ g cs = false := by
  unfold cameBack
  rw [Option.isNone_eq_false_iff.mpr h.first, Bool.false_or, List.any_eq_false]
  intro c hc hreturns
  have hadd := List.any_eq_false.mp h.noAdd c hc
  match c with
  | .add m o => exact hadd rfl

/-- Nothing has happened yet. -/
theorem phase_start (hidle : ∀ o, entry s₀.dbEntityMap o g = none)
    (hrow : row.isSome = (s₀.entityMap[g]?).isSome) : Phase s₀ g row s₀ [] [] := by
  have hpending : ∀ o, opAt s₀ g o = none := by
    intro o
    unfold opAt
    rw [hidle o]
    rfl
  by_cases hfirst : (s₀.entityMap[g]?).isSome = true
  · exact .kept ⟨hfirst, hfirst, rfl, rfl, fun t ht => absurd ht List.not_mem_nil,
      .inl ⟨rfl, hpending⟩⟩
  · have hnone := Option.not_isSome_iff_eq_none.mp hfirst
    refine .away ⟨.inl hnone, hnone, rfl, ?_, ?_⟩
    · intro o
      rw [hpending o]
      unfold leftover cameBack
      simp [hnone]
    · intro v
      rw [hnone] at hrow
      exact Option.isNone_iff_eq_none.mp (by simpa using hrow)

/-! ## §6. One call after another. -/

section Steps

variable {s s' : PoolImp μ} {cs : List (GuidCall μ)} {ts : List EntityOpType}

/-- **An `add`** finds the entity away. -/
theorem Phase.add {m : μ} {o : UInt64} (hcoin : guidType g ≠ etCoin) (h : Phase s₀ g row s cs ts)
    (hc : (GuidCall.add m o).perform g s = some s') :
    Phase s₀ g row s' (cs ++ [.add m o]) (ts ++ [.add]) := by
  obtain ⟨hnone, hcurrent, howner, hrec⟩ := perform_add hcoin hc
  cases h with
  | kept h =>
      have hhere := h.here
      rw [hnone] at hhere
      cases hhere
  | added o' x h =>
      have hhere := isSome_of_current h.here
      rw [hnone] at hhere
      cases hhere
  | away h =>
      refine .added o m
        ⟨h.known, hcurrent, howner, ?_, ?_, ?_, leftover_add_self cs m o, ?_, ?_⟩
      · rw [List.any_append]
        simp [GuidCall.isAdd]
      · rw [lastMessage_snoc]
        rfl
      · rw [lastOwner_snoc]
        rfl
      · intro o'
        rw [hrec.pending]
        by_cases ho : o' = o
        · rw [if_pos ho, if_pos ho, h.pending, coalesceOp_leftover]
        · rw [if_neg ho, if_neg ho, h.pending, leftover_add_ne cs m ho]
      · intro v
        rw [List.foldl_append, h.replay]
        rfl

/-- **A `remove`** leaves the entity away. -/
theorem Phase.remove {msg : Bool} (h : Phase s₀ g row s cs ts)
    (hc : (GuidCall.remove msg).perform g s = some s') :
    Phase s₀ g row s' (cs ++ [.remove msg]) (ts ++ [.remove]) := by
  obtain ⟨o, ho, hhere, hnone, hrec⟩ := perform_remove hc
  have hlast : lastMessage (cs ++ [.remove msg]) = none := lastMessage_snoc cs _
  have hreplay : ∀ v, (ts ++ [EntityOpType.remove]).foldl (performOp v) row = none := by
    intro v
    rw [List.foldl_append]
    rfl
  have hknown : s₀.entityMap[g]? = none ∨ ∃ o, s₀.guidOwnerguidMap[g]? = some o := by
    cases h with
    | kept h => exact .inr ⟨o, h.owner.symm.trans ho⟩
    | away h => exact h.known
    | added _ _ h => exact h.known
  refine .away ⟨hknown, hnone, hlast, ?_, hreplay⟩
  intro o'
  rw [hrec.pending, leftover_snoc cs rfl]
  cases h with
  | away h =>
      rw [h.gone] at hhere
      cases hhere
  | kept h =>
      have hfirst : s₀.guidOwnerguidMap[g]? = some o := h.owner.symm.trans ho
      unfold leftover
      rw [h.noReturn, hfirst]
      by_cases heq : o' = o
      · -- an UPDATE, or nothing, is overwritten
        have hop : coalesceOp .remove (opAt s g o) = some .remove := by
          obtain hidle | hupdate := h.pending
          · rw [hidle.2 o]
            rfl
          · obtain ⟨o₀, -, hfirst', hat⟩ := hupdate
            obtain rfl : o = o₀ := Option.some.inj (hfirst.symm.trans hfirst')
            rw [hat, if_pos rfl]
            rfl
        rw [if_pos heq, hop, if_pos ⟨rfl, by rw [heq]⟩]
      · have hneq : ¬ (false = false ∧ some o = some o') := by
          intro hc'
          exact heq (Option.some.inj hc'.2).symm
        rw [if_neg heq, if_neg hneq]
        obtain hidle | hupdate := h.pending
        · exact hidle.2 o'
        · obtain ⟨o₀, -, hfirst', hat⟩ := hupdate
          obtain rfl : o = o₀ := Option.some.inj (hfirst.symm.trans hfirst')
          rw [hat, if_neg heq]
  | added o₁ x h =>
      obtain rfl : o = o₁ := Option.some.inj (ho.symm.trans h.owner)
      by_cases heq : o' = o
      · -- the ADD and the REMOVE cancel
        rw [if_pos heq, h.pending, if_pos rfl, heq, h.nothingLeft]
        rfl
      · rw [if_neg heq, h.pending, if_neg heq]

/-- A call that records nothing and leaves the entity. -/
theorem Phase.update_same (h : Phase s₀ g row s cs ts) :
    Phase s₀ g row s (cs ++ [.update]) ts := by
  have hlast : lastMessage (cs ++ [.update]) = lastMessage cs := lastMessage_snoc cs _
  have hany : (cs ++ [GuidCall.update]).any (·.isAdd) = cs.any (·.isAdd) := by
    rw [List.any_append]
    exact Bool.or_false _
  cases h with
  | kept h =>
      exact .kept ⟨h.first, h.here, h.owner, hany.trans h.noAdd, h.recorded, h.pending⟩
  | away h =>
      refine .away ⟨h.known, h.gone, hlast.trans h.last, ?_, h.replay⟩
      intro o
      rw [leftover_snoc cs rfl]
      exact h.pending o
  | added o x h =>
      refine .added o x ⟨h.known, h.here, h.owner, hany.trans h.added, hlast.trans h.last,
        (lastOwner_snoc cs _).trans h.lastOwner, ?_, ?_, h.replay⟩
      · rw [leftover_snoc cs rfl]
        exact h.nothingLeft
      · intro o'
        rw [leftover_snoc cs rfl]
        exact h.pending o'

/-- **An `update`** that is recorded. -/
theorem Phase.update {o : UInt64} (h : Phase s₀ g row s cs ts)
    (ho : s.guidOwnerguidMap[g]? = some o) (hhere : (s.entityMap[g]?).isSome = true)
    (hhere' : (s'.entityMap[g]?).isSome = true) (hcurrent : current s' g = current s g)
    (howner : s'.guidOwnerguidMap[g]? = some o) (hrec : RecordedAt s s' g o .update) :
    Phase s₀ g row s' (cs ++ [.update]) (ts ++ [.update]) := by
  cases h.update_same with
  | away h =>
      rw [h.gone] at hhere
      cases hhere
  | kept h =>
      have hfirst : s₀.guidOwnerguidMap[g]? = some o := h.owner.symm.trans ho
      refine .kept ⟨h.first, hhere', howner.trans hfirst.symm, h.noAdd, ?_,
        .inr ⟨o, ?_, hfirst, ?_⟩⟩
      · intro t ht
        obtain ht | ht := List.mem_append.mp ht
        · exact h.recorded t ht
        · exact List.mem_singleton.mp ht
      · simp
      · intro o'
        rw [hrec.pending]
        obtain hidle | hupdate := h.pending
        · rw [hidle.2 o, hidle.2 o']
          rfl
        · obtain ⟨o₀, -, hfirst', hat⟩ := hupdate
          obtain rfl : o = o₀ := Option.some.inj (hfirst.symm.trans hfirst')
          rw [hat, if_pos rfl, hat]
          by_cases heq : o' = o
          · rw [if_pos heq, if_pos heq]
            rfl
          · rw [if_neg heq, if_neg heq]
  | added o₁ x h =>
      obtain rfl : o = o₁ := Option.some.inj (ho.symm.trans h.owner)
      refine .added o x ⟨h.known, hcurrent.trans h.here, howner, h.added, h.last, h.lastOwner,
        h.nothingLeft, ?_, ?_⟩
      · intro o'
        rw [hrec.pending, h.pending, if_pos rfl, h.pending]
        by_cases heq : o' = o
        · rw [if_pos heq, if_pos heq]
          rfl
        · rw [if_neg heq, if_neg heq]
      · intro v
        rw [List.foldl_append, h.replay]
        rfl

/-- **A change in place**. -/
theorem Phase.write {m : μ} (h : Phase s₀ g row s cs ts)
    (hc : (GuidCall.write m).perform g s = some s') :
    Phase s₀ g row s' (cs ++ [.write m]) ts := by
  obtain ⟨hhere, hcurrent, howner, hdb, -⟩ := perform_write hc
  have hop : ∀ o, opAt s' g o = opAt s g o := by
    intro o
    unfold opAt
    rw [hdb]
  have hlast := lastMessage_snoc cs (.write m)
  have hany : (cs ++ [GuidCall.write m]).any (·.isAdd) = cs.any (·.isAdd) := by
    rw [List.any_append]
    exact Bool.or_false _
  cases h with
  | kept h =>
      refine .kept ⟨h.first, hhere.trans h.here, ?_, hany.trans h.noAdd, h.recorded, ?_⟩
      · rw [howner]
        exact h.owner
      · simp only [hop]
        exact h.pending
  | away h =>
      rw [h.gone] at hhere
      have hgone : s'.entityMap[g]? = none := Option.not_isSome_iff_eq_none.mp (by rw [hhere]; simp)
      refine .away ⟨h.known, hgone, ?_, ?_, h.replay⟩
      · rw [hlast, h.last]
        rfl
      · intro o
        rw [hop, leftover_snoc cs rfl]
        exact h.pending o
  | added o x h =>
      obtain ⟨info, hinfo⟩ := Option.isSome_iff_exists.mp (isSome_of_current h.here)
      rw [hinfo] at hcurrent
      refine .added o m ⟨h.known, hcurrent, ?_, hany.trans h.added, ?_,
        (lastOwner_snoc cs _).trans h.lastOwner, ?_, ?_, ?_⟩
      · rw [howner]
        exact h.owner
      · rw [hlast, h.last]
        rfl
      · rw [leftover_snoc cs rfl]
        exact h.nothingLeft
      · intro o'
        rw [hop, leftover_snoc cs rfl]
        exact h.pending o'
      · exact fun v => h.replay v

end Steps

/-- **Every call** leads from phase to phase. -/
theorem Phase.perform {s s' : PoolImp μ} {cs : List (GuidCall μ)} {ts : List EntityOpType}
    {c : GuidCall μ} (hcoin : guidType g ≠ etCoin) (h : Phase s₀ g row s cs ts)
    (hc : c.perform g s = some s') :
    Phase s₀ g row s' (cs ++ [c]) (ts ++ recordedBy s s' c) := by
  match c with
  | .add m o =>
      have hrec := (perform_add hcoin hc).2.2.2
      rw [hrec.recordedBy_eq (c := .add m o)]
      exact h.add hcoin hc
  | .remove msg =>
      obtain ⟨o, -, -, -, hrec⟩ := perform_remove hc
      rw [hrec.recordedBy_eq (c := .remove msg)]
      exact h.remove hc
  | .update =>
      obtain rfl | ⟨o, ho, hhere, hhere', hcurrent, howner, hrec⟩ := perform_update hc
      · rw [recordedBy_of_next rfl, List.append_nil]
        exact h.update_same
      · rw [hrec.recordedBy_eq (c := .update)]
        exact h.update ho hhere hhere' hcurrent howner hrec
  | .write m =>
      rw [recordedBy_of_next (perform_write hc).2.2.2.2, List.append_nil]
      exact h.write hc

/-- The phase at the end of a sequence, by induction on its calls. -/
theorem Phase.run {s s' : PoolImp μ} {pre cs : List (GuidCall μ)} {ts : List EntityOpType}
    (hcoin : guidType g ≠ etCoin) (h : Phase s₀ g row s pre ts)
    (hr : (guidCalls g).run s cs = some s') :
    Phase s₀ g row s' (pre ++ cs) (ts ++ recordedOps g s cs) := by
  induction cs generalizing s pre ts with
  | nil =>
      obtain rfl : s = s' := Option.some.inj hr
      rw [List.append_nil]
      show Phase s₀ g row s pre (ts ++ [])
      rw [List.append_nil]
      exact h
  | cons c cs ih =>
      obtain ⟨t, hst, hrest⟩ := TransSys.run_cons_eq_some.mp hr
      have hc : c.perform g s = some t := hst
      have hnext := ih (h.perform hcoin hc) hrest
      rw [List.append_assoc, List.append_assoc] at hnext
      rw [recordedOps_cons hc]
      exact hnext

end Phases

/-! ## §7. The effect at the tick. -/

section Effect

variable {s s' : PoolImp μ} {g : UInt64} {row : Option μ} {cs : List (GuidCall μ)}

/-- Updating twice is updating once. -/
theorem foldl_update {v row : Option μ} {ts : List EntityOpType} (hne : ts ≠ [])
    (h : ∀ t ∈ ts, t = .update) : ts.foldl (performOp v) row = performOp v row .update := by
  induction ts generalizing row with
  | nil => exact absurd rfl hne
  | cons t ts ih =>
      obtain rfl : t = .update := h t List.mem_cons_self
      rw [List.foldl_cons]
      by_cases hnil : ts = []
      · rw [hnil]
        rfl
      · rw [ih hnil fun t ht => h t (List.mem_cons_of_mem _ ht)]
        cases row <;> cases v <;> rfl

theorem left_of_nil (h : ∀ o, opAt s' g o = none) : left s' g = [] := by
  refine List.eq_nil_iff_forall_not_mem.mpr fun e he => ?_
  have hop := (mem_left (o := e.1) (t := e.2)).mp he
  rw [h] at hop
  cases hop

theorem left_of_single {o : UInt64} {t : EntityOpType}
    (h : ∀ o', opAt s' g o' = if o' = o then some t else none) : left s' g = [(o, t)] := by
  have hleft : [(o, t)].Perm (left s' g) := by
    refine left_perm (by simp) ?_
    intro o' t'
    rw [h o', List.mem_singleton, Prod.mk.injEq]
    by_cases ho : o' = o
    · simp [ho, eq_comm]
    · simp [ho]
  exact (List.singleton_perm.mp hleft).symm

/-- Two operations are listed by their owners. -/
theorem left_of_two {o o' : UInt64} {t t' : EntityOpType}
    (h : [(o, t), (o', t')].Perm (left s' g)) (hlt : o < o') :
    left s' g = [(o, t), (o', t')] := by
  have hsorted : [(o, t), (o', t')].Pairwise (fun a b => a.1 < b.1) := by simpa using hlt
  refine (h.eq_of_pairwise ?_ hsorted (left_sorted s' g)).symm
  intro a b _ _ hab hba
  exact absurd hab (UInt64.lt_asymm hba)

/-- With at most one operation pending there is only one order. -/
theorem effectPreserved_iff (hone : (left s' g).length ≤ 1) :
    EffectPreserved s s' g row cs ↔ EffectInOrder s s' g row cs := by
  constructor
  · intro heffect
    exact heffect _ (.refl _)
  · intro heffect l hl
    have heq : l = left s' g := by
      match hleft : left s' g with
      | [] => exact List.perm_nil.mp (hleft ▸ hl)
      | [e] => exact List.perm_singleton.mp (hleft ▸ hl)
      | _ :: _ :: _ =>
          rw [hleft] at hone
          simp at hone
    rw [heq]
    exact heffect

/-- With nothing pending the tick leaves the row. -/
theorem effectInOrder_of_nil (h : ∀ o, opAt s' g o = none) :
    EffectInOrder s s' g row cs ↔
      row = (recordedOps g s cs).foldl (performOp (current s' g)) row := by
  unfold EffectInOrder
  rw [left_of_nil h]
  rfl

/-- With one operation pending the tick performs it. -/
theorem effectInOrder_of_single {o : UInt64} {t : EntityOpType}
    (h : ∀ o', opAt s' g o' = if o' = o then some t else none) :
    EffectInOrder s s' g row cs ↔
      performOp (current s' g) row t
        = (recordedOps g s cs).foldl (performOp (current s' g)) row := by
  unfold EffectInOrder
  rw [left_of_single h]
  rfl

/-- Both conditions of the calls, where one operation at most is left. -/
theorem preserved_of_inOrder (hone : (left s' g).length ≤ 1)
    (hback : lastMessage cs = none ∨ cs.any (·.returnsTo s.guidOwnerguidMap[g]?) = true ∨
      s.entityMap[g]? = none)
    (h : EffectInOrder s s' g row cs ↔ Coalesces s g row cs) :
    (EffectInOrder s s' g row cs ↔ CoalescesInOrder s g row cs) ∧
      (EffectPreserved s s' g row cs ↔ Coalesces s g row cs) := by
  refine ⟨h.trans ⟨.inl, ?_⟩, (effectPreserved_iff hone).trans h⟩
  rintro (hc | ⟨hnot, hlast, -⟩)
  · exact hc
  · rcases hback with hnone | hreturns | hfirst
    · exact absurd hnone hlast
    · rw [hnot] at hreturns
      cases hreturns
    · exact .inl hfirst

/-- Changes that are kept have their effect. -/
theorem Kept.preserved {ts : List EntityOpType} (h : Kept s g s' cs ts)
    (hts : ts = recordedOps g s cs) :
    EffectInOrder s s' g row cs ∧ EffectPreserved s s' g row cs := by
  obtain ⟨hnil, hidle⟩ | ⟨o, hne, -, hat⟩ := h.pending
  · have heffect : EffectInOrder s s' g row cs := by
      rw [effectInOrder_of_nil hidle, ← hts, hnil]
      rfl
    exact ⟨heffect, (effectPreserved_iff (by rw [left_of_nil hidle]; simp)).mpr heffect⟩
  · have heffect : EffectInOrder s s' g row cs := by
      rw [effectInOrder_of_single hat, ← hts, foldl_update hne h.recorded]
    exact ⟨heffect, (effectPreserved_iff (by rw [left_of_single hat]; simp)).mpr heffect⟩

/-- While the entity has not come back there was one at the start. -/
theorem not_cameBack (h : cameBack s g cs = false) :
    s.entityMap[g]? ≠ none ∧ cs.any (·.returnsTo s.guidOwnerguidMap[g]?) = false := by
  unfold cameBack at h
  rw [Bool.or_eq_false_iff, Option.isNone_eq_false_iff] at h
  exact ⟨Option.isSome_iff_ne_none.mp h.1, h.2⟩

theorem isAdd_of_returnsTo {o : Option UInt64} (h : cs.any (·.returnsTo o) = true) :
    cs.any (·.isAdd) = true := by
  obtain ⟨c, hc, hreturns⟩ := List.any_eq_true.mp h
  refine List.any_eq_true.mpr ⟨c, hc, ?_⟩
  match c with
  | .add m o' => rfl

/-- When the entity is away in the end. -/
theorem Away.preserved_iff {ts : List EntityOpType} (h : Away s g row s' cs ts)
    (hts : ts = recordedOps g s cs) (hrow : row.isSome = (s.entityMap[g]?).isSome) :
    (EffectInOrder s s' g row cs ↔ CoalescesInOrder s g row cs) ∧
      (EffectPreserved s s' g row cs ↔ Coalesces s g row cs) := by
  cases hback : cameBack s g cs with
  | false =>
      obtain ⟨hfirst, hreturns⟩ := not_cameBack hback
      obtain ⟨o₀, ho₀⟩ := h.known.resolve_left hfirst
      -- the REMOVE is pending
      have hat : ∀ o, opAt s' g o = if o = o₀ then some .remove else none := by
        intro o
        rw [h.pending o]
        unfold leftover
        rw [hback, ho₀]
        simp [eq_comm]
      refine preserved_of_inOrder (by rw [left_of_single hat]; simp) (.inl h.last) ?_
      rw [effectInOrder_of_single hat, ← hts, h.replay]
      refine iff_of_true rfl (.inr (.inr ?_))
      rw [hreturns, h.last]
      rfl
  | true =>
      have hat : ∀ o, opAt s' g o = none := by
        intro o
        rw [h.pending o]
        unfold leftover
        rw [hback]
        simp
      refine preserved_of_inOrder (by rw [left_of_nil hat]; simp) (.inl h.last) ?_
      rw [effectInOrder_of_nil hat, ← hts, h.replay]
      by_cases hfirst : s.entityMap[g]? = none
      · rw [hfirst] at hrow
        exact iff_of_true (Option.not_isSome_iff_eq_none.mp (by rw [hrow]; simp)) (.inl hfirst)
      · unfold cameBack at hback
        rw [Option.isNone_eq_false_iff.mpr (Option.isSome_iff_ne_none.mpr hfirst),
          Bool.false_or] at hback
        have hadd := isAdd_of_returnsTo hback
        unfold Coalesces
        rw [hback, h.last, hadd]
        simp [hfirst, eq_comm]

/-- The entity is added under an owner that it did not have at first: an ADD and a REMOVE are
left, and the ADD has to come second. -/
theorem Added.moved_iff {ts : List EntityOpType} {o : UInt64} {x : μ}
    (h : Added s g row s' cs ts o x) (hts : ts = recordedOps g s cs)
    (hback : cameBack s g cs = false) :
    (EffectInOrder s s' g row cs ↔ CoalescesInOrder s g row cs) ∧
      (EffectPreserved s s' g row cs ↔ Coalesces s g row cs) := by
  obtain ⟨hfirst, hreturns⟩ := not_cameBack hback
  obtain ⟨o₀, ho₀⟩ := h.known.resolve_left hfirst
  have hleftover : ∀ o', leftover s g cs o' = if o' = o₀ then some .remove else none := by
    intro o'
    unfold leftover
    rw [hback, ho₀]
    simp [eq_comm]
  have hne : ¬ o = o₀ := by
    intro heq
    have hnone := h.nothingLeft
    rw [hleftover, if_pos heq] at hnone
    cases hnone
  have hperm : [(o, EntityOpType.add), (o₀, .remove)].Perm (left s' g) := by
    refine left_perm (by simp) ?_
    intro o' t
    rw [h.pending, hleftover]
    by_cases ho : o' = o
    · simp only [List.mem_cons, List.not_mem_nil, Prod.mk.injEq, ho, hne, if_true, true_and,
        false_and, or_false, Option.some.injEq]
      exact eq_comm
    · by_cases ho' : o' = o₀
      · have hne' : ¬ o₀ = o := fun heq => hne heq.symm
        simp only [List.mem_cons, List.not_mem_nil, Prod.mk.injEq, ho', hne', if_true,
          if_false, true_and, false_and, false_or, or_false, Option.some.injEq]
        exact eq_comm
      · simp [ho, ho']
  have hnot : ¬ Coalesces s g row cs := by
    unfold Coalesces
    rw [h.added, h.last, hreturns]
    simp [hfirst]
  constructor
  · have hcond : CoalescesInOrder s g row cs ↔ o₀ < o := by
      unfold CoalescesInOrder
      rw [h.last, h.lastOwner, ho₀, ← ho₀, hreturns]
      simp [hnot, ho₀]
    rw [hcond]
    unfold EffectInOrder
    by_cases hlt : o₀ < o
    · rw [left_of_two ((List.Perm.swap ..).trans hperm) hlt, ← hts, h.here, h.replay]
      exact iff_of_true rfl hlt
    · have hgt : o < o₀ := by
        rcases UInt64.lt_or_lt_of_ne hne with hgt | hlt'
        · exact hgt
        · exact absurd hlt' hlt
      rw [left_of_two hperm hgt, ← hts, h.here, h.replay]
      exact iff_of_false (by simp [performOp]) hlt
  · refine iff_of_false ?_ hnot
    intro heffect
    have hlost := heffect _ hperm
    rw [← hts, h.here, h.replay] at hlost
    cases hlost

/-- When it is there in the end. -/
theorem Added.preserved_iff {ts : List EntityOpType} {o : UInt64} {x : μ}
    (h : Added s g row s' cs ts o x) (hts : ts = recordedOps g s cs)
    (hrow : row.isSome = (s.entityMap[g]?).isSome) :
    (EffectInOrder s s' g row cs ↔ CoalescesInOrder s g row cs) ∧
      (EffectPreserved s s' g row cs ↔ Coalesces s g row cs) := by
  cases hback : cameBack s g cs with
  | false => exact h.moved_iff hts hback
  | true =>
      have hat : ∀ o', opAt s' g o' = if o' = o then some .add else none := by
        intro o'
        rw [h.pending o']
        unfold leftover
        rw [hback]
        simp
      have hone : (left s' g).length ≤ 1 := by rw [left_of_single hat]; simp
      unfold cameBack at hback
      by_cases hfirst : s.entityMap[g]? = none
      · refine preserved_of_inOrder hone (.inr (.inr hfirst)) ?_
        rw [effectInOrder_of_single hat, ← hts, h.here, h.replay]
        rw [hfirst] at hrow
        obtain rfl : row = none := Option.not_isSome_iff_eq_none.mp (by rw [hrow]; simp)
        exact iff_of_true rfl (.inl hfirst)
      · rw [Option.isNone_eq_false_iff.mpr (Option.isSome_iff_ne_none.mpr hfirst),
          Bool.false_or] at hback
        refine preserved_of_inOrder hone (.inr (.inl hback)) ?_
        rw [effectInOrder_of_single hat, ← hts, h.here, h.replay]
        have hsome : (s.entityMap[g]?).isSome = true := Option.isSome_iff_ne_none.mpr hfirst
        obtain ⟨r, rfl⟩ := Option.isSome_iff_exists.mp (hrow.trans hsome)
        unfold Coalesces
        rw [hback, h.last, h.added]
        simp [performOp, hfirst, eq_comm]

/-- **The pending operations stand for all of them** exactly when the calls meet the condition; and
for all orders of the owners exactly when they meet the stronger one. -/
theorem coalesced_iff (hcoin : guidType g ≠ etCoin) (hidle : ∀ o, entry s.dbEntityMap o g = none)
    (hrow : row.isSome = (s.entityMap[g]?).isSome) (hrun : (guidCalls g).run s cs = some s') :
    (EffectInOrder s s' g row cs ↔ CoalescesInOrder s g row cs) ∧
      (EffectPreserved s s' g row cs ↔ Coalesces s g row cs) := by
  have hphase : Phase s g row s' ([] ++ cs) ([] ++ recordedOps g s cs) :=
    (phase_start hidle hrow).run hcoin hrun
  rw [List.nil_append, List.nil_append] at hphase
  cases hphase with
  | kept h =>
      have hcond : Coalesces s g row cs := .inr (.inl h.noAdd)
      obtain ⟨horder, hall⟩ := h.preserved rfl
      exact ⟨iff_of_true horder (.inl hcond), iff_of_true hall hcond⟩
  | away h => exact h.preserved_iff rfl hrow
  | added o x h => exact h.preserved_iff rfl hrow

end Effect

/-- An entity of the pool that was written. -/
def writtenOnce : List (Action Nat) :=
  [.add 0x0800000000000001 (some 5) true 0x0100000000000001, .update,
    .reply 0 (.result true none)]

/-- An entity that is removed, added as it was, and updated. -/
theorem coalesced_back :
    ∃ s ∈ (system ⟨1, false⟩).run { cfg := ⟨1, false⟩ } writtenOnce,
      ∃ s' ∈ (guidCalls 0x0800000000000001).run s
          [.remove true, .add 5 0x0100000000000001, .update],
        EffectInOrder s s' 0x0800000000000001 (some 5)
            [.remove true, .add 5 0x0100000000000001, .update] ∧
          EffectPreserved s s' 0x0800000000000001 (some 5)
            [.remove true, .add 5 0x0100000000000001, .update] := by
  obtain ⟨s, hs, hidle, hhere, howner, hruns⟩ :
      ∃ s ∈ (system ⟨1, false⟩).run { cfg := ⟨1, false⟩ } writtenOnce,
        s.dbEntityMap.isEmpty = true ∧
        (s.entityMap[(0x0800000000000001 : UInt64)]?).isSome = true ∧
        s.guidOwnerguidMap[(0x0800000000000001 : UInt64)]? = some 0x0100000000000001 ∧
        ((guidCalls 0x0800000000000001).run s
          [.remove true, .add 5 0x0100000000000001, .update]).isSome = true := by
    decide +kernel
  obtain ⟨s', hs'⟩ := Option.isSome_iff_exists.mp hruns
  have hsame : Coalesces s 0x0800000000000001 (some 5)
      [.remove true, .add 5 0x0100000000000001, .update] := by
    refine .inr (.inr ?_)
    rw [howner]
    decide
  have hnone : ∀ o, entry s.dbEntityMap o 0x0800000000000001 = none := by
    intro o
    unfold entry
    rw [TreeMap.getElem?_of_isEmpty hidle]
    rfl
  have hrow : (some 5 : Option Nat).isSome
      = (s.entityMap[(0x0800000000000001 : UInt64)]?).isSome := hhere.symm
  obtain ⟨horder, hall⟩ := coalesced_iff (by decide) hnone hrow hs'
  exact ⟨s, hs, s', hs', horder.mpr (.inl hsame), hall.mpr hsame⟩

/-- **The row of a removed entity stays**: it is removed, added, and removed again, and nothing is
    pending. -/
theorem removed_row_stays :
    ∃ s ∈ (system ⟨1, false⟩).run { cfg := ⟨1, false⟩ } writtenOnce,
      (∀ o, entry s.dbEntityMap o 0x0800000000000001 = none) ∧
      current s 0x0800000000000001 = some 5 ∧
      ∃ s' ∈ (guidCalls 0x0800000000000001).run s
          [.remove true, .add 5 0x0100000000000001, .remove true],
        left s' 0x0800000000000001 = [] ∧
        recordedOps 0x0800000000000001 s [.remove true, .add 5 0x0100000000000001, .remove true]
          = [.remove, .add, .remove] ∧
        ¬ EffectInOrder s s' 0x0800000000000001 (some 5)
            [.remove true, .add 5 0x0100000000000001, .remove true] ∧
          ¬ EffectPreserved s s' 0x0800000000000001 (some 5)
            [.remove true, .add 5 0x0100000000000001, .remove true] := by
  obtain ⟨s, hs, hidle, hhere, s', hs', hleft, hops⟩ :
      ∃ s ∈ (system ⟨1, false⟩).run { cfg := ⟨1, false⟩ } writtenOnce,
        s.dbEntityMap.isEmpty = true ∧ current s 0x0800000000000001 = some 5 ∧
        ∃ s' ∈ (guidCalls 0x0800000000000001).run s
            [.remove true, .add 5 0x0100000000000001, .remove true],
          left s' 0x0800000000000001 = [] ∧
          recordedOps 0x0800000000000001 s
              [.remove true, .add 5 0x0100000000000001, .remove true]
            = [.remove, .add, .remove] := by
    decide +kernel
  have hlost : ¬ EffectInOrder s s' 0x0800000000000001 (some 5)
      [.remove true, .add 5 0x0100000000000001, .remove true] := by
    intro heffect
    unfold EffectInOrder at heffect
    rw [hleft, hops] at heffect
    cases heffect
  refine ⟨s, hs, ?_, hhere, s', hs', hleft, hops, hlost, fun hall => hlost (hall _ (.refl _))⟩
  intro o
  unfold entry
  rw [TreeMap.getElem?_of_isEmpty hidle]
  rfl

end Steppingstone.Pool
