/-
  Steppingstone.Guid.Alloc — blocks of guids and the guids made from them.

  The guid server (`AllocGuid`) hands out half-open ranges of a 48-bit index
  under an 8-bit seed and writes the next (seed, index) pair to its
  configuration.  A scene (`MakeGuid`) queues the blocks it is sent and packs
  one index after the other into a guid (`MAKE_ENTITY_GUID`).
-/
import Mathlib.Tactic.Ring
import Mathlib.Tactic.Linarith

namespace Steppingstone.Guid

/-! ## §1. The layout of a guid. -/

/-- `MAKE_GUID(type, seed, id)`. -/
def makeGuid (type seed id : UInt64) : UInt64 :=
  ((type <<< (56 : UInt64)) &&& (0xFF00000000000000 : UInt64))
    ||| ((seed <<< (48 : UInt64)) &&& (0x00FF000000000000 : UInt64))
    ||| (id &&& (0x0000FFFFFFFFFFFF : UInt64))

/-- `MAKE_ENTITY_GUID(entity_type, seed, index_value)`. -/
def makeEntityGuid (entityType : UInt64) (seed : UInt32) (indexValue : UInt64) : UInt64 :=
  makeGuid entityType seed.toUInt64 indexValue

/-! ## §2. The guid server. -/

/-- `MAX_GUID_INDEX`. -/
def maxGuidIndex : UInt64 := 0x0000FFFFFFFFFFFF

/-- `m_seed` and `m_index`; also the pair in `guid_config.xml`. -/
structure AllocGuid where
  seed : UInt32
  index : UInt64
  deriving Repr, DecidableEq

/-- The protocol's `ReturnGuid`. -/
structure ReturnGuid where
  seedValue : UInt32
  returnNo : UInt32
  startIndex : UInt64
  deriving Repr, DecidableEq

/-- `AllocGuid::generateGuid` up to the write of the configuration: the new
pair, `generate_no` and `start_index`. -/
def generateGuid (a : AllocGuid) (requestNo : UInt32) : AllocGuid × UInt32 × UInt64 :=
  let startIndex := a.index
  if a.index + requestNo.toUInt64 < maxGuidIndex then
    (⟨a.seed, a.index + requestNo.toUInt64⟩, requestNo, startIndex)
  else (⟨a.seed + 1, 1 + requestNo.toUInt64⟩, requestNo, startIndex)

/-- The server and its configuration file. -/
structure GuidServer where
  alloc : AllocGuid
  cfg : AllocGuid
  deriving Repr, DecidableEq

/-- `AllocGuid::processRequest`; `written` is the result of `writeGuidCfg`.
The seed of the answer is read after `generateGuid` changed it. -/
def GuidServer.processRequest (s : GuidServer) (requestNo : UInt32) (written : Bool) :
    GuidServer × Option ReturnGuid :=
  let (alloc, generateNo, startIndex) := generateGuid s.alloc requestNo
  if written then (⟨alloc, alloc⟩, some ⟨alloc.seed, generateNo, startIndex⟩)
  else (⟨alloc, s.cfg⟩, none)

/-- A restart: `AllocGuid::init` with the pair of the configuration. -/
def GuidServer.restart (s : GuidServer) : GuidServer :=
  { s with alloc := s.cfg }

/-! ## §3. The scene. -/

/-- A run of guids of a client: where it stands and what is left. -/
structure GuidInfo where
  seed : UInt32
  guidNo : UInt32
  guidRest : UInt32
  index : UInt64
  deriving Repr, DecidableEq

/-- `m_guid_info` and `m_guid_info_que`. -/
structure MakeGuid where
  guidInfo : GuidInfo
  guidInfoQue : List GuidInfo
  deriving Repr, DecidableEq

/-- A client without guids. -/
def MakeGuid.new : MakeGuid := ⟨⟨0, 0, 0, 0⟩, []⟩

/-- `MakeGuid::parsePack` of a `SMSG_GUID_RETURN`. -/
def MakeGuid.parsePack (m : MakeGuid) (r : ReturnGuid) : MakeGuid :=
  { m with
    guidInfoQue := m.guidInfoQue ++ [⟨r.seedValue, r.returnNo, r.returnNo, r.startIndex⟩] }

/-- The part of `MakeGuid::get_guid` after `m_guid_info` was refilled. -/
def MakeGuid.makeNext (m : MakeGuid) (entityType : UInt64) : MakeGuid × UInt64 :=
  ({ m with guidInfo := { m.guidInfo with
      index := m.guidInfo.index + 1
      guidRest := m.guidInfo.guidRest - 1 } },
    makeEntityGuid entityType m.guidInfo.seed m.guidInfo.index)

/-- `MakeGuid::get_guid`; `none` when the queue is empty. -/
def MakeGuid.getGuid (m : MakeGuid) (entityType : UInt64) : Option (MakeGuid × UInt64) :=
  if m.guidInfo.guidRest = 0 then
    match m.guidInfoQue with
    | [] => none
    | info :: rest => some ((⟨info, rest⟩ : MakeGuid).makeNext entityType)
  else some (m.makeNext entityType)

/-- One call for each of the types, as long as there are guids. -/
def MakeGuid.getGuids (m : MakeGuid) : List UInt64 → List UInt64
  | [] => []
  | entityType :: types =>
      match m.getGuid entityType with
      | none => []
      | some (m, guid) => guid :: m.getGuids types

/-! ## §4. Slots. -/

/-- The pairs (seed, index) of a range. -/
def slots (seed : UInt32) (start : UInt64) (no : Nat) : List (UInt32 × UInt64) :=
  (List.range no).map fun k => (seed, start + UInt64.ofNat k)

/-- The slots a reply hands out. -/
def ReturnGuid.slots (b : ReturnGuid) : List (UInt32 × UInt64) :=
  Guid.slots b.seedValue b.startIndex b.returnNo.toNat

/-- The slots a run still has. -/
def GuidInfo.slots (info : GuidInfo) : List (UInt32 × UInt64) :=
  Guid.slots info.seed info.index info.guidRest.toNat

/-- What a scene can still hand out. -/
def MakeGuid.slots (m : MakeGuid) : List (UInt32 × UInt64) :=
  m.guidInfo.slots ++ m.guidInfoQue.flatMap GuidInfo.slots

theorem slots_succ (seed : UInt32) (start : UInt64) (no : Nat) :
    slots seed start (no + 1) = (seed, start) :: slots seed (start + 1) no := by
  unfold slots
  rw [List.range_succ_eq_map, List.map_cons, List.map_map]
  refine congrArg₂ List.cons ?_ (List.map_congr_left ?_)
  · show (seed, start + UInt64.ofNat 0) = _
    simp
  · intro k _
    show (seed, start + UInt64.ofNat (k + 1)) = (seed, start + 1 + UInt64.ofNat k)
    have hk : UInt64.ofNat (k + 1) = 1 + UInt64.ofNat k := by
      rw [Nat.add_comm, UInt64.ofNat_add]
      rfl
    rw [hk, UInt64.add_assoc]

/-- A call takes the first slot. -/
theorem MakeGuid.makeNext_slots (m : MakeGuid) (entityType : UInt64)
    (h : m.guidInfo.guidRest ≠ 0) :
    m.slots = (m.guidInfo.seed, m.guidInfo.index) :: (m.makeNext entityType).1.slots := by
  have hpos : 0 < m.guidInfo.guidRest.toNat := by
    refine Nat.pos_of_ne_zero ?_
    intro hz
    exact h (UInt32.toNat_inj.mp hz)
  have hrest : m.guidInfo.guidRest.toNat = (m.guidInfo.guidRest - 1).toNat + 1 := by
    have hle : (1 : UInt32) ≤ m.guidInfo.guidRest := UInt32.le_iff_toNat_le.mpr hpos
    rw [UInt32.toNat_sub_of_le _ _ hle]
    show _ = m.guidInfo.guidRest.toNat - 1 + 1
    omega
  unfold MakeGuid.slots GuidInfo.slots
  rw [hrest, slots_succ, List.cons_append]
  rfl

/-- Blocks that are queued are not empty. -/
def MakeGuid.Filled (m : MakeGuid) : Prop :=
  ∀ info ∈ m.guidInfoQue, info.guidRest ≠ 0

/-- **`get_guid` hands out the next slot**, and fails only when there is none. -/
theorem MakeGuid.getGuid_spec (m : MakeGuid) (h : m.Filled) (entityType : UInt64) :
    (m.slots = [] ∧ m.getGuid entityType = none) ∨
      ∃ m' slot, m.slots = slot :: m'.slots ∧ m'.Filled ∧
        m.getGuid entityType = some (m', makeEntityGuid entityType slot.1 slot.2) := by
  unfold MakeGuid.getGuid
  by_cases hrest : m.guidInfo.guidRest = 0
  · rw [if_pos hrest]
    have hnone : m.guidInfo.slots = [] := by
      unfold GuidInfo.slots
      rw [hrest]
      rfl
    match hq : m.guidInfoQue with
    | [] =>
        refine .inl ⟨?_, rfl⟩
        unfold MakeGuid.slots
        rw [hnone, hq]
        rfl
    | info :: rest =>
        have hinfo : info.guidRest ≠ 0 := h info (by rw [hq]; exact List.mem_cons_self)
        have hnext := (⟨info, rest⟩ : MakeGuid).makeNext_slots entityType hinfo
        refine .inr ⟨((⟨info, rest⟩ : MakeGuid).makeNext entityType).1, (info.seed, info.index),
          ?_, ?_, rfl⟩
        · refine Eq.trans ?_ hnext
          unfold MakeGuid.slots
          rw [hnone, hq]
          rfl
        · intro x hx
          exact h x (by rw [hq]; exact List.mem_cons_of_mem _ hx)
  · rw [if_neg hrest]
    exact .inr ⟨_, (m.guidInfo.seed, m.guidInfo.index), m.makeNext_slots entityType hrest,
      h, rfl⟩

/-- **What a scene hands out**: the slots of its blocks in order, each once,
under the types that are asked for. -/
theorem MakeGuid.getGuids_eq (m : MakeGuid) (h : m.Filled) (types : List UInt64) :
    m.getGuids types
      = List.zipWith (fun t slot => makeEntityGuid t slot.1 slot.2) types m.slots := by
  induction types generalizing m with
  | nil => rfl
  | cons t types ih =>
      unfold MakeGuid.getGuids
      obtain ⟨hnone, hget⟩ | ⟨m', slot, hslots, hfilled, hget⟩ := m.getGuid_spec h t
      · rw [hget, hnone]
        rfl
      · rw [hget, hslots]
        show _ :: m'.getGuids types = _
        rw [ih m' hfilled]
        rfl

/-- A block that arrives is queued behind the others. -/
theorem MakeGuid.parsePack_slots (m : MakeGuid) (r : ReturnGuid) :
    (m.parsePack r).slots = m.slots ++ r.slots := by
  unfold MakeGuid.parsePack MakeGuid.slots
  rw [List.flatMap_append, ← List.append_assoc]
  show _ ++ [_].flatMap GuidInfo.slots = _
  rw [List.flatMap_singleton]
  rfl

/-! ## §5. Distinct slots make distinct guids. -/

/-- The low 56 bits of a guid are its seed and its index. -/
theorem makeGuid_toNat_mod (type seed id : UInt64) :
    (makeGuid type seed id).toNat % 2 ^ 56
      = 2 ^ 48 * (seed.toNat % 2 ^ 8) + id.toNat % 2 ^ 48 := by
  have hid : (id &&& (0x0000FFFFFFFFFFFF : UInt64)).toNat = id.toNat % 2 ^ 48 := by
    rw [UInt64.toNat_and]
    exact Nat.and_two_pow_sub_one_eq_mod id.toNat 48
  have hseed : ((seed <<< (48 : UInt64)) &&& (0x00FF000000000000 : UInt64)).toNat
      = 2 ^ 48 * (seed.toNat % 2 ^ 8) := by
    rw [UInt64.toNat_and, UInt64.toNat_shiftLeft]
    show (seed.toNat <<< 48) % 2 ^ 64 &&& ((2 ^ 8 - 1) <<< 48) = _
    have hmask : (2 ^ 8 - 1) <<< 48 = ((2 ^ 8 - 1) <<< 48) % 2 ^ 64 := rfl
    rw [hmask, ← Nat.and_mod_two_pow, ← Nat.shiftLeft_and_distrib, Nat.and_two_pow_sub_one_eq_mod,
      Nat.shiftLeft_eq]
    omega
  have htype : ((type <<< (56 : UInt64)) &&& (0xFF00000000000000 : UInt64)).toNat
      % 2 ^ 56 = 0 := by
    rw [UInt64.toNat_and, Nat.and_mod_two_pow]
    show _ &&& (0xFF00000000000000 % 2 ^ 56) = 0
    exact Nat.and_zero _
  unfold makeGuid
  rw [UInt64.toNat_or, UInt64.toNat_or, hid, hseed, Nat.or_mod_two_pow, Nat.or_mod_two_pow, htype,
    Nat.zero_or]
  have hlt : id.toNat % 2 ^ 48 < 2 ^ 48 := Nat.mod_lt _ (by decide)
  have hsum := Nat.two_pow_add_eq_or_of_lt hlt (seed.toNat % 2 ^ 8)
  rw [← Nat.or_mod_two_pow, ← hsum]
  omega

/-- **The layout is injective** in the seed and the index modulo 2^48, as long
as the seed fits its 8 bits. -/
theorem makeEntityGuid_inj {entityType : UInt64} {seed seed' : UInt32} {i j : UInt64}
    (hs : seed.toNat < 2 ^ 8) (hs' : seed'.toNat < 2 ^ 8) :
    makeEntityGuid entityType seed i = makeEntityGuid entityType seed' j ↔
      seed = seed' ∧ i.toNat % 2 ^ 48 = j.toNat % 2 ^ 48 := by
  unfold makeEntityGuid
  have hi := makeGuid_toNat_mod entityType seed.toUInt64 i
  have hj := makeGuid_toNat_mod entityType seed'.toUInt64 j
  rw [UInt32.toNat_toUInt64] at hi hj
  refine ⟨?_, ?_⟩
  · intro h
    rw [h, hj] at hi
    refine ⟨UInt32.toNat_inj.mp ?_, ?_⟩ <;> omega
  · intro h
    obtain ⟨rfl, hmod⟩ := h
    unfold makeGuid
    congr 1
    refine UInt64.toNat_inj.mp ?_
    rw [UInt64.toNat_and, UInt64.toNat_and]
    have hmask : ∀ x : Nat, x &&& (0x0000FFFFFFFFFFFF : UInt64).toNat = x % 2 ^ 48 :=
      fun x => Nat.and_two_pow_sub_one_eq_mod x 48
    rw [hmask, hmask, hmod]

end Steppingstone.Guid
