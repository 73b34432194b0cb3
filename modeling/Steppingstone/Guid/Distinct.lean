/-
  Steppingstone.Guid.Distinct — when guids are issued twice.

  A run is a sequence of requests of positive sizes below 2^24, whose
  configuration may or may not be written, and of restarts.  Runs are followed
  as long as the 8-bit seed does not wrap.  The answered blocks are a ghost.

  A request that does not fit below `MAX_GUID_INDEX` is answered with the next
  seed and the old start index, so the block that opens a seed lies at its upper
  end, and later blocks of the seed may grow into it.
-/
import Mathlib.Data.List.Nodup
import Mathlib.Data.List.Pairwise
import Mathlib.Tactic.Ring
import Steppingstone.Lib.TransSys
import Steppingstone.Guid.Alloc

namespace Steppingstone.Guid

/-! ## §1. The system. -/

/-- The server and the blocks it answered with. -/
structure World where
  server : GuidServer
  blocks : List ReturnGuid
  deriving Repr, DecidableEq

/-- What happens to the server: a request, whose state may not be written, or a restart. -/
inductive Act where
  | request (requestNo : UInt32) (written : Bool)
  | restart
  deriving Repr, DecidableEq

/-- The first state after the server read its configuration. -/
def World.start (cfg : AllocGuid) : World := ⟨⟨cfg, cfg⟩, []⟩

/-- One act; requests are positive and stay below the seed's range. -/
def step (w : World) : Act → Option World
  | .request requestNo written =>
      let (server, block) := w.server.processRequest requestNo written
      if 0 < requestNo.toNat ∧ requestNo.toNat < 2 ^ 24 ∧ server.alloc.seed.toNat < 2 ^ 8 then
        some ⟨server, w.blocks ++ block.toList⟩
      else none
  | .restart => some { w with server := w.server.restart }

/-- Runs start from a pair that `generateGuid` can have written. -/
def guidSystem : TransSys World Act where
  init w := ∃ cfg : AllocGuid, cfg.seed.toNat < 2 ^ 8 ∧ cfg.index < maxGuidIndex ∧
    w = World.start cfg
  step := step

theorem guidSystem_step (w : World) (a : Act) : guidSystem.step w a = step w a := rfl

/-- All guids of one type that can be made from the answered blocks. -/
def World.guids (entityType : UInt64) (w : World) : List UInt64 :=
  (w.blocks.flatMap ReturnGuid.slots).map fun slot => makeEntityGuid entityType slot.1 slot.2

/-- The block did not fit below the limit and opened its seed. -/
def ReturnGuid.Crosses (b : ReturnGuid) : Prop :=
  maxGuidIndex.toNat ≤ b.startIndex.toNat + b.returnNo.toNat

instance (b : ReturnGuid) : Decidable b.Crosses :=
  inferInstanceAs (Decidable (_ ≤ _))

/-- **The condition on a step**: a request that fits below the limit ends at or
below the block that opened the seed it is served from. -/
def StaysBelow (w : World) : Act → Prop
  | .request requestNo true =>
      w.server.alloc.index.toNat + requestNo.toNat < maxGuidIndex.toNat →
        ∀ b ∈ w.blocks, b.seedValue = w.server.alloc.seed → b.Crosses →
          w.server.alloc.index.toNat + requestNo.toNat ≤ b.startIndex.toNat
  | .request _ false => True
  | .restart => True

instance decidableStaysBelow (w : World) : (a : Act) → Decidable (StaysBelow w a)
  | .request requestNo true =>
      inferInstanceAs (Decidable (w.server.alloc.index.toNat + requestNo.toNat < maxGuidIndex.toNat →
        ∀ b ∈ w.blocks, b.seedValue = w.server.alloc.seed → b.Crosses →
          w.server.alloc.index.toNat + requestNo.toNat ≤ b.startIndex.toNat))
  | .request _ false => isTrue trivial
  | .restart => isTrue trivial

/-! ## §2. Keys. -/

/-- What a guid keeps of a slot. -/
def slotKey (slot : UInt32 × UInt64) : UInt32 × Nat :=
  (slot.1, slot.2.toNat % 2 ^ 48)

/-- The guids of a reply, as pairs of seed and index. -/
def ReturnGuid.keys (b : ReturnGuid) : List (UInt32 × Nat) :=
  b.slots.map slotKey

/-- The guids of all replies. -/
def World.keys (w : World) : List (UInt32 × Nat) :=
  w.blocks.flatMap ReturnGuid.keys

/-- A block as `generateGuid` makes them. -/
structure ReturnGuid.Small (b : ReturnGuid) : Prop where
  pos : 0 < b.returnNo.toNat
  size : b.returnNo.toNat < 2 ^ 24
  start : b.startIndex.toNat < maxGuidIndex.toNat

theorem maxGuidIndex_toNat : maxGuidIndex.toNat = 2 ^ 48 - 1 := rfl

section

variable {b c : ReturnGuid}

theorem ReturnGuid.keys_eq (h : b.Small) :
    b.keys = (List.range b.returnNo.toNat).map
      (fun k => (b.seedValue, (b.startIndex.toNat + k) % 2 ^ 48)) := by
  unfold ReturnGuid.keys ReturnGuid.slots Guid.slots
  rw [List.map_map]
  refine List.map_congr_left ?_
  intro k hk
  have hk' := List.mem_range.mp hk
  have hstart := h.start
  have hsize := h.size
  rw [maxGuidIndex_toNat] at hstart
  show (b.seedValue, (b.startIndex + UInt64.ofNat k).toNat % 2 ^ 48) = _
  rw [UInt64.toNat_add, UInt64.toNat_ofNat']
  congr 1
  omega

theorem ReturnGuid.mem_keys (h : b.Small) {key : UInt32 × Nat} :
    key ∈ b.keys ↔ ∃ k, k < b.returnNo.toNat ∧
      key = (b.seedValue, (b.startIndex.toNat + k) % 2 ^ 48) := by
  rw [ReturnGuid.keys_eq h, List.mem_map]
  refine ⟨?_, ?_⟩
  · intro hk
    obtain ⟨k, hmem, heq⟩ := hk
    exact ⟨k, List.mem_range.mp hmem, heq.symm⟩
  · intro hk
    obtain ⟨k, hlt, heq⟩ := hk
    exact ⟨k, List.mem_range.mpr hlt, heq.symm⟩

/-- A block is shorter than the index field is wide. -/
theorem ReturnGuid.keys_nodup (h : b.Small) : b.keys.Nodup := by
  have hsize := h.size
  rw [ReturnGuid.keys_eq h]
  refine List.Nodup.map_on ?_ List.nodup_range
  intro x hx y hy heq
  have hx' := List.mem_range.mp hx
  have hy' := List.mem_range.mp hy
  have hmod := (Prod.mk.inj heq).2
  omega

theorem ReturnGuid.disjoint_of_seed (hb : b.Small) (hc : c.Small)
    (hne : b.seedValue ≠ c.seedValue) : b.keys.Disjoint c.keys := by
  intro key hkb hkc
  obtain ⟨k, -, hk⟩ := (ReturnGuid.mem_keys hb).mp hkb
  obtain ⟨l, -, hl⟩ := (ReturnGuid.mem_keys hc).mp hkc
  rw [hk] at hl
  exact hne (Prod.mk.inj hl).1

/-- All slots of `b` lie before index `i`, but for the upper end if `b` opened
its seed. -/
def ReturnGuid.Behind (b : ReturnGuid) (i : Nat) : Prop :=
  b.startIndex.toNat + b.returnNo.toNat ≤ i ∨
    (b.Crosses ∧ b.startIndex.toNat + b.returnNo.toNat ≤ 2 ^ 48 + i)

theorem ReturnGuid.Behind.mono {i j : Nat} (h : b.Behind i) (hij : i ≤ j) : b.Behind j := by
  obtain hbelow | ⟨hcross, hbelow⟩ := h
  · exact .inl (Nat.le_trans hbelow hij)
  · exact .inr ⟨hcross, by omega⟩

/-- **Two blocks of one seed**: a block that fits below the limit avoids the
blocks behind it exactly when it ends below the one that opened the seed. -/
theorem ReturnGuid.disjoint_iff (hb : b.Small) (hc : c.Small) (hseed : b.seedValue = c.seedValue)
    (hfits : ¬ c.Crosses) (hbehind : b.Behind c.startIndex.toNat) :
    b.keys.Disjoint c.keys ↔
      (b.Crosses → c.startIndex.toNat + c.returnNo.toNat ≤ b.startIndex.toNat) := by
  have hbstart := hb.start
  have hcsize := hc.size
  have hbsize := hb.size
  have hcpos := hc.pos
  have hbpos := hb.pos
  unfold ReturnGuid.Crosses at hfits ⊢
  unfold ReturnGuid.Behind ReturnGuid.Crosses at hbehind
  rw [maxGuidIndex_toNat] at *
  refine ⟨?_, ?_⟩
  · intro hdisj hcross
    by_contra hover
    -- the larger of the two starts is in both blocks
    have hmax : ∃ x, b.startIndex.toNat ≤ x ∧ x < b.startIndex.toNat + b.returnNo.toNat ∧
        c.startIndex.toNat ≤ x ∧ x < c.startIndex.toNat + c.returnNo.toNat := by
      refine ⟨max b.startIndex.toNat c.startIndex.toNat, ?_⟩
      omega
    obtain ⟨x, hbx, hbx', hcx, hcx'⟩ := hmax
    refine hdisj (a := (b.seedValue, x % 2 ^ 48)) ?_ ?_
    · refine (ReturnGuid.mem_keys hb).mpr ⟨x - b.startIndex.toNat, by omega, ?_⟩
      rw [Nat.add_sub_cancel' hbx]
    · refine (ReturnGuid.mem_keys hc).mpr ⟨x - c.startIndex.toNat, by omega, ?_⟩
      rw [Nat.add_sub_cancel' hcx, hseed]
  · intro hbelow key hkb hkc
    obtain ⟨k, hk, rfl⟩ := (ReturnGuid.mem_keys hb).mp hkb
    obtain ⟨l, hl, heq⟩ := (ReturnGuid.mem_keys hc).mp hkc
    have hmod := (Prod.mk.inj heq).2
    omega

end

/-! ## §3. The invariant. -/

/-- **The pair that is in use and the one that is written are ahead of the
answered blocks.** -/
structure Ahead (w : World) : Prop where
  index : w.server.alloc.index.toNat < maxGuidIndex.toNat
  cfgIndex : w.server.cfg.index.toNat < maxGuidIndex.toNat
  seed : w.server.alloc.seed.toNat < 2 ^ 8
  ahead : w.server.cfg.seed.toNat < w.server.alloc.seed.toNat ∨
    (w.server.cfg.seed = w.server.alloc.seed ∧
      w.server.cfg.index.toNat ≤ w.server.alloc.index.toNat)
  small : ∀ b ∈ w.blocks, b.Small
  behind : ∀ b ∈ w.blocks, b.seedValue.toNat < w.server.cfg.seed.toNat ∨
    (b.seedValue = w.server.cfg.seed ∧ b.Behind w.server.cfg.index.toNat)

section

variable {w w' : World}

theorem start_ahead {cfg : AllocGuid} (hseed : cfg.seed.toNat < 2 ^ 8)
    (hindex : cfg.index < maxGuidIndex) : Ahead (World.start cfg) where
  index := UInt64.lt_iff_toNat_lt.mp hindex
  cfgIndex := UInt64.lt_iff_toNat_lt.mp hindex
  seed := hseed
  ahead := .inr ⟨rfl, Nat.le_refl _⟩
  small _ hb := absurd hb List.not_mem_nil
  behind _ hb := absurd hb List.not_mem_nil

/-- Seeds of answered blocks fit their 8 bits. -/
theorem Ahead.seedValue_lt (h : Ahead w) {b : ReturnGuid} (hb : b ∈ w.blocks) :
    b.seedValue.toNat < 2 ^ 8 := by
  have hseed := h.seed
  have hahead : w.server.cfg.seed.toNat ≤ w.server.alloc.seed.toNat := by
    obtain hlt | ⟨heq, -⟩ := h.ahead
    · omega
    · rw [heq]
  obtain hlt | ⟨heq, -⟩ := h.behind b hb
  · omega
  · rw [heq]
    omega

/-- A block of the seed in use lies behind the index in use. -/
theorem Ahead.behind_alloc (h : Ahead w) {b : ReturnGuid} (hb : b ∈ w.blocks)
    (hseed : b.seedValue = w.server.alloc.seed) : b.Behind w.server.alloc.index.toNat := by
  obtain hlt | ⟨heq, hle⟩ := h.ahead
  · -- nothing was answered from a seed that is not written yet
    exfalso
    obtain hold | ⟨hold, -⟩ := h.behind b hb <;> rw [hseed] at hold
    · omega
    · rw [hold] at hlt
      omega
  · obtain hold | ⟨-, hold⟩ := h.behind b hb
    · exfalso
      rw [hseed, heq] at hold
      omega
    · exact hold.mono hle

/-- What `generateGuid` does, in natural numbers. -/
theorem generateGuid_cases (h : Ahead w) {requestNo : UInt32} (hsize : requestNo.toNat < 2 ^ 24) :
    (w.server.alloc.index.toNat + requestNo.toNat < maxGuidIndex.toNat ∧
      ∃ index, index.toNat = w.server.alloc.index.toNat + requestNo.toNat ∧
        generateGuid w.server.alloc requestNo
          = (⟨w.server.alloc.seed, index⟩, requestNo, w.server.alloc.index)) ∨
    (maxGuidIndex.toNat ≤ w.server.alloc.index.toNat + requestNo.toNat ∧
      ∃ seed index, seed.toNat = w.server.alloc.seed.toNat + 1 ∧
        index.toNat = 1 + requestNo.toNat ∧
        generateGuid w.server.alloc requestNo
          = (⟨seed, index⟩, requestNo, w.server.alloc.index)) := by
  have hindex := h.index
  have hseed := h.seed
  rw [maxGuidIndex_toNat] at hindex
  have hsum : (w.server.alloc.index + requestNo.toUInt64).toNat
      = w.server.alloc.index.toNat + requestNo.toNat := by
    rw [UInt64.toNat_add, UInt32.toNat_toUInt64]
    omega
  unfold generateGuid
  dsimp only
  by_cases hfits : w.server.alloc.index + requestNo.toUInt64 < maxGuidIndex
  · rw [if_pos hfits]
    refine .inl ⟨?_, _, hsum, rfl⟩
    rw [← hsum]
    exact UInt64.lt_iff_toNat_lt.mp hfits
  · rw [if_neg hfits]
    refine .inr ⟨?_, _, _, ?_, ?_, rfl⟩
    · rw [← hsum]
      exact Nat.le_of_not_lt fun hlt => hfits (UInt64.lt_iff_toNat_lt.mpr hlt)
    · rw [UInt32.toNat_add]
      show (w.server.alloc.seed.toNat + 1) % 2 ^ 32 = _
      omega
    · rw [UInt64.toNat_add, UInt32.toNat_toUInt64]
      show (1 + requestNo.toNat) % 2 ^ 64 = _
      omega

/-! ## §4. One step. -/

theorem keys_snoc (server : GuidServer) (blocks : List ReturnGuid) (b : ReturnGuid) :
    (⟨server, blocks ++ [b]⟩ : World).keys = (⟨server, blocks⟩ : World).keys ++ b.keys := by
  unfold World.keys
  rw [List.flatMap_append, List.flatMap_singleton]

/-- Answering with one more block. -/
theorem nodup_snoc_iff {blocks : List ReturnGuid} {server : GuidServer} {b : ReturnGuid}
    (hb : b.Small) :
    (⟨server, blocks ++ [b]⟩ : World).keys.Nodup ↔
      (⟨server, blocks⟩ : World).keys.Nodup ∧ ∀ c ∈ blocks, c.keys.Disjoint b.keys := by
  rw [keys_snoc, List.nodup_append']
  refine and_congr_right ?_
  intro _
  refine ⟨?_, ?_⟩
  · intro h c hc key hkc hkb
    exact h.2 (List.mem_flatMap.mpr ⟨c, hc, hkc⟩) hkb
  · intro h
    refine ⟨ReturnGuid.keys_nodup hb, ?_⟩
    intro key hk hkb
    obtain ⟨c, hc, hkc⟩ := List.mem_flatMap.mp hk
    exact h c hc hkc hkb

/-- A request that fits below the limit and is written. -/
theorem served_fits (h : Ahead w) {requestNo : UInt32} {index : UInt64}
    (hpos : 0 < requestNo.toNat) (hsize : requestNo.toNat < 2 ^ 24)
    (hfits : w.server.alloc.index.toNat + requestNo.toNat < maxGuidIndex.toNat)
    (hindex : index.toNat = w.server.alloc.index.toNat + requestNo.toNat) :
    Ahead ⟨⟨⟨w.server.alloc.seed, index⟩, ⟨w.server.alloc.seed, index⟩⟩,
        w.blocks ++ [⟨w.server.alloc.seed, requestNo, w.server.alloc.index⟩]⟩ ∧
      ((⟨⟨⟨w.server.alloc.seed, index⟩, ⟨w.server.alloc.seed, index⟩⟩,
          w.blocks ++ [⟨w.server.alloc.seed, requestNo, w.server.alloc.index⟩]⟩ : World).keys.Nodup ↔
        w.keys.Nodup ∧ StaysBelow w (.request requestNo true)) := by
  have hsmall : (⟨w.server.alloc.seed, requestNo, w.server.alloc.index⟩ : ReturnGuid).Small :=
    ⟨hpos, hsize, h.index⟩
  refine ⟨⟨?_, ?_, h.seed, .inr ⟨rfl, Nat.le_refl _⟩, ?_, ?_⟩, ?_⟩
  · show index.toNat < _
    omega
  · show index.toNat < _
    omega
  · exact List.forall_mem_append.mpr ⟨h.small, List.forall_mem_singleton.mpr hsmall⟩
  · intro b hb
    obtain hold | hnew := List.mem_append.mp hb
    · by_cases hseed : b.seedValue = w.server.alloc.seed
      · exact .inr ⟨hseed, (h.behind_alloc hold hseed).mono (by
          show _ ≤ index.toNat
          omega)⟩
      · refine .inl ?_
        show b.seedValue.toNat < w.server.alloc.seed.toNat
        have hne : b.seedValue.toNat ≠ w.server.alloc.seed.toNat :=
          fun heq => hseed (UInt32.toNat_inj.mp heq)
        obtain hlt | ⟨heq, -⟩ := h.ahead <;> obtain hb | ⟨hb, -⟩ := h.behind b hold
        · omega
        · rw [hb]
          exact hlt
        · rw [← heq]
          exact hb
        · exact absurd (hb.trans heq) hseed
    · obtain rfl := List.mem_singleton.mp hnew
      refine .inr ⟨rfl, .inl ?_⟩
      show w.server.alloc.index.toNat + requestNo.toNat ≤ index.toNat
      omega
  · rw [nodup_snoc_iff hsmall]
    refine and_congr_right ?_
    intro _
    have hnot : ¬ (⟨w.server.alloc.seed, requestNo, w.server.alloc.index⟩ : ReturnGuid).Crosses := by
      exact Nat.not_le_of_lt hfits
    refine ⟨?_, ?_⟩
    · intro hdisj _ b hb hseed hcross
      exact (ReturnGuid.disjoint_iff (h.small b hb) hsmall hseed hnot
        (h.behind_alloc hb hseed)).mp (hdisj b hb) hcross
    · intro hbelow b hb
      by_cases hseed : b.seedValue = w.server.alloc.seed
      · exact (ReturnGuid.disjoint_iff (h.small b hb) hsmall hseed hnot
          (h.behind_alloc hb hseed)).mpr (hbelow hfits b hb hseed)
      · exact ReturnGuid.disjoint_of_seed (h.small b hb) hsmall hseed

/-- A request that crosses the limit and is written opens a seed that no block
was answered from. -/
theorem served_crosses (h : Ahead w) {requestNo seed : UInt32} {index : UInt64}
    (hpos : 0 < requestNo.toNat) (hsize : requestNo.toNat < 2 ^ 24)
    (hcross : maxGuidIndex.toNat ≤ w.server.alloc.index.toNat + requestNo.toNat)
    (hseed : seed.toNat = w.server.alloc.seed.toNat + 1) (hwrap : seed.toNat < 2 ^ 8)
    (hindex : index.toNat = 1 + requestNo.toNat) :
    Ahead ⟨⟨⟨seed, index⟩, ⟨seed, index⟩⟩,
        w.blocks ++ [⟨seed, requestNo, w.server.alloc.index⟩]⟩ ∧
      ((⟨⟨⟨seed, index⟩, ⟨seed, index⟩⟩,
          w.blocks ++ [⟨seed, requestNo, w.server.alloc.index⟩]⟩ : World).keys.Nodup ↔
        w.keys.Nodup ∧ StaysBelow w (.request requestNo true)) := by
  have hstart := h.index
  have hsmall : (⟨seed, requestNo, w.server.alloc.index⟩ : ReturnGuid).Small :=
    ⟨hpos, hsize, h.index⟩
  have holder : ∀ b ∈ w.blocks, b.seedValue.toNat < seed.toNat := by
    intro b hb
    obtain hlt | ⟨heq, -⟩ := h.ahead <;> obtain hb | ⟨hb, -⟩ := h.behind b hb
    · omega
    · rw [hb]
      omega
    · rw [heq] at hb
      omega
    · rw [hb, heq]
      omega
  rw [maxGuidIndex_toNat] at hstart hcross
  refine ⟨⟨?_, ?_, hwrap, .inr ⟨rfl, Nat.le_refl _⟩, ?_, ?_⟩, ?_⟩
  · show index.toNat < _
    rw [maxGuidIndex_toNat]
    omega
  · show index.toNat < _
    rw [maxGuidIndex_toNat]
    omega
  · exact List.forall_mem_append.mpr ⟨h.small, List.forall_mem_singleton.mpr hsmall⟩
  · intro b hb
    obtain hold | hnew := List.mem_append.mp hb
    · exact .inl (holder b hold)
    · obtain rfl := List.mem_singleton.mp hnew
      refine .inr ⟨rfl, .inr ⟨hcross, ?_⟩⟩
      show w.server.alloc.index.toNat + requestNo.toNat ≤ 2 ^ 48 + index.toNat
      omega
  · rw [nodup_snoc_iff hsmall]
    refine and_congr_right ?_
    intro _
    refine ⟨?_, ?_⟩
    · intro _ hfits
      rw [maxGuidIndex_toNat] at hfits
      omega
    · intro _ b hb
      refine ReturnGuid.disjoint_of_seed (h.small b hb) hsmall ?_
      intro heq
      have hlt := holder b hb
      rw [heq] at hlt
      exact Nat.lt_irrefl _ hlt

/-- A request whose configuration is not written leaves no block. -/
theorem served_unwritten (h : Ahead w) {a : AllocGuid} (hindex : a.index.toNat < maxGuidIndex.toNat)
    (hseed : a.seed.toNat < 2 ^ 8)
    (hahead : w.server.alloc.seed.toNat < a.seed.toNat ∨
      (w.server.alloc.seed = a.seed ∧ w.server.alloc.index.toNat ≤ a.index.toNat)) :
    Ahead ⟨⟨a, w.server.cfg⟩, w.blocks⟩ where
  index := hindex
  cfgIndex := h.cfgIndex
  seed := hseed
  ahead := by
    show w.server.cfg.seed.toNat < a.seed.toNat ∨
      (w.server.cfg.seed = a.seed ∧ w.server.cfg.index.toNat ≤ a.index.toNat)
    obtain hlt | ⟨heq, hle⟩ := h.ahead <;> obtain ha | ⟨ha, hi⟩ := hahead
    · exact .inl (by omega)
    · exact .inl (by rw [← ha]; exact hlt)
    · exact .inl (by rw [heq]; exact ha)
    · exact .inr ⟨heq.trans ha, by omega⟩
  small := h.small
  behind := h.behind

/-- **One step**: the pair stays ahead, and the slots stay distinct if and only
if the step stays below the block that opened its seed. -/
theorem step_distinct_iff (h : Ahead w) {a : Act} (hst : step w a = some w') :
    Ahead w' ∧ (w'.keys.Nodup ↔ w.keys.Nodup ∧ StaysBelow w a) := by
  cases a with
  | restart =>
      obtain rfl := Option.some.inj hst
      have hseed : w.server.cfg.seed.toNat < 2 ^ 8 := by
        have hlt := h.seed
        obtain hahead | ⟨heq, -⟩ := h.ahead
        · omega
        · rw [heq]
          exact hlt
      -- the server goes on with what it has saved, which is ahead of every answered block
      exact ⟨⟨h.cfgIndex, h.cfgIndex, hseed, .inr ⟨rfl, Nat.le_refl _⟩, h.small, h.behind⟩,
        (and_iff_left trivial).symm⟩
  | request requestNo written =>
      unfold step at hst
      dsimp only at hst
      split at hst
      · next hguard =>
          obtain ⟨hpos, hsize, hwrap⟩ := hguard
          obtain rfl := Option.some.inj hst
          unfold GuidServer.processRequest at hwrap ⊢
          -- the block fits below the limit, or it starts the next seed
          obtain ⟨hfits, index, hindex, hgen⟩ | ⟨hcross, seed, index, hseed, hindex, hgen⟩ :=
            generateGuid_cases h hsize
          · rw [hgen] at hwrap ⊢
            match written with
            | true => exact served_fits h hpos hsize hfits hindex
            | false =>
                refine ⟨?_, ?_⟩
                · show Ahead ⟨_, w.blocks ++ []⟩
                  rw [List.append_nil]
                  refine served_unwritten h ?_ h.seed (.inr ⟨rfl, ?_⟩)
                  · show index.toNat < _
                    omega
                  · show _ ≤ index.toNat
                    omega
                · show (World.keys ⟨_, w.blocks ++ []⟩).Nodup ↔ _
                  rw [List.append_nil]
                  exact (and_iff_left trivial).symm
          · rw [hgen] at hwrap ⊢
            match written with
            | true => exact served_crosses h hpos hsize hcross hseed hwrap hindex
            | false =>
                refine ⟨?_, ?_⟩
                · show Ahead ⟨_, w.blocks ++ []⟩
                  rw [List.append_nil]
                  refine served_unwritten h ?_ hwrap (.inl ?_)
                  · show index.toNat < _
                    rw [maxGuidIndex_toNat]
                    omega
                  · show _ < seed.toNat
                    omega
                · show (World.keys ⟨_, w.blocks ++ []⟩).Nodup ↔ _
                  rw [List.append_nil]
                  exact (and_iff_left trivial).symm
      · cases hst

/-! ## §5. Runs. -/

theorem run_distinct_iff {acts : List Act} (h : Ahead w) (hrun : guidSystem.run w acts = some w') :
    Ahead w' ∧ (w'.keys.Nodup ↔ w.keys.Nodup ∧ guidSystem.RunMeets StaysBelow w acts) := by
  induction acts generalizing w with
  | nil =>
      obtain rfl := Option.some.inj hrun
      exact ⟨h, (and_iff_left trivial).symm⟩
  | cons a acts ih =>
      obtain ⟨m, hst, hrest⟩ := TransSys.run_cons_eq_some.mp hrun
      obtain ⟨hm, hstep⟩ := step_distinct_iff h hst
      obtain ⟨hw', htail⟩ := ih hm hrest
      refine ⟨hw', ?_⟩
      rw [htail, hstep]
      refine ⟨?_, ?_⟩
      · intro hall
        exact ⟨hall.1.1, hall.1.2, m, hst, hall.2⟩
      · intro hall
        obtain ⟨hnodup, hbelow, m', hst', hmeets⟩ := hall
        obtain rfl : m = m' := Option.some.inj (hst.symm.trans hst')
        exact ⟨⟨hnodup, hbelow⟩, hmeets⟩

/-- Guids of one type repeat exactly when the keys of their slots do. -/
theorem guids_nodup_iff (h : Ahead w) (entityType : UInt64) :
    (w.guids entityType).Nodup ↔ w.keys.Nodup := by
  have hkeys : w.keys = (w.blocks.flatMap ReturnGuid.slots).map slotKey := by
    unfold World.keys
    rw [List.map_flatMap]
    rfl
  have hsmall : ∀ slot ∈ w.blocks.flatMap ReturnGuid.slots, slot.1.toNat < 2 ^ 8 := by
    intro slot hslot
    obtain ⟨b, hb, hmem⟩ := List.mem_flatMap.mp hslot
    obtain ⟨k, -, rfl⟩ := List.mem_map.mp hmem
    exact h.seedValue_lt hb
  rw [hkeys]
  unfold World.guids List.Nodup
  rw [List.pairwise_map, List.pairwise_map]
  refine List.Pairwise.iff_of_mem ?_
  intro x y hx hy
  refine not_congr ?_
  rw [makeEntityGuid_inj (hsmall x hx) (hsmall y hy)]
  exact Prod.mk_inj.symm

end

/-- **When guids are issued twice**: the guids of every type are distinct if and
only if every request of the run that fits below the limit ends at or below the
block that opened its seed. -/
theorem guids_distinct_iff {cfg : AllocGuid} {acts : List Act} {w : World}
    (hseed : cfg.seed.toNat < 2 ^ 8) (hindex : cfg.index < maxGuidIndex)
    (hrun : guidSystem.run (World.start cfg) acts = some w) :
    (∀ entityType, (w.guids entityType).Nodup) ↔
      guidSystem.RunMeets StaysBelow (World.start cfg) acts := by
  obtain ⟨hw, hkeys⟩ := run_distinct_iff (start_ahead hseed hindex) hrun
  have hstart : (World.start cfg).keys.Nodup := List.nodup_nil
  refine ⟨?_, ?_⟩
  · intro hall
    exact (hkeys.mp ((guids_nodup_iff hw 0).mp (hall 0))).2
  · intro hmeets entityType
    exact (guids_nodup_iff hw entityType).mpr (hkeys.mpr ⟨hstart, hmeets⟩)

/-- Three blocks across a restart, from the configuration of the repository. -/
theorem guids_distinct_restarted : ∃ w,
    guidSystem.run (World.start ⟨1, 749724⟩)
        [.request 5000 true, .request 5000 false, .restart, .request 100 true] = some w ∧
      w.blocks.length = 2 ∧ ∀ entityType, (w.guids entityType).Nodup := by
  obtain ⟨w, hrun, hlen⟩ : ∃ w,
      guidSystem.run (World.start ⟨1, 749724⟩)
        [.request 5000 true, .request 5000 false, .restart, .request 100 true] = some w ∧
      w.blocks.length = 2 := ⟨_, rfl, by decide +kernel⟩
  refine ⟨w, hrun, hlen, (guids_distinct_iff (by decide) (by decide) hrun).mpr ?_⟩
  decide +kernel

/-! ## §6. A seed that grows into the block that opened it. -/

/-- A request that is answered. -/
theorem step_served {w : World} {requestNo : UInt32} {a : AllocGuid} {startIndex : UInt64}
    (hpos : 0 < requestNo.toNat) (hsize : requestNo.toNat < 2 ^ 24) (hseed : a.seed.toNat < 2 ^ 8)
    (hgen : generateGuid w.server.alloc requestNo = (a, requestNo, startIndex)) :
    step w (.request requestNo true)
      = some ⟨⟨a, a⟩, w.blocks ++ [⟨a.seed, requestNo, startIndex⟩]⟩ := by
  unfold step GuidServer.processRequest
  dsimp only
  rw [hgen]
  exact if_pos ⟨hpos, hsize, hseed⟩

/-- Equal requests that fit below the limit. -/
theorem run_requests (requestNo seed : UInt32) (hpos : 0 < requestNo.toNat)
    (hsize : requestNo.toNat < 2 ^ 24) (hseed : seed.toNat < 2 ^ 8) (n : Nat) :
    ∀ w : World, Ahead w → w.server.alloc.seed = seed →
      w.server.alloc.index.toNat + n * requestNo.toNat < maxGuidIndex.toNat →
      ∃ w', guidSystem.run w (List.replicate n (.request requestNo true)) = some w' ∧
        w'.server.alloc.seed = seed ∧
        w'.server.alloc.index.toNat = w.server.alloc.index.toNat + n * requestNo.toNat ∧
        ∀ b ∈ w.blocks, b ∈ w'.blocks := by
  induction n with
  | zero =>
      intro w _ hw _
      exact ⟨w, rfl, hw, by omega, fun _ hb => hb⟩
  | succ n ih =>
      intro w h hw hfits
      have hmul : (n + 1) * requestNo.toNat = n * requestNo.toNat + requestNo.toNat := by ring
      obtain ⟨-, index, hindex, hgen⟩ | ⟨hcross, -⟩ := generateGuid_cases h hsize
      · have hst := step_served hpos hsize (by rw [hw]; exact hseed) hgen
        obtain ⟨hm, -⟩ := step_distinct_iff h hst
        obtain ⟨w', hrun, hseed', hindex', hkept⟩ := ih _ hm hw (by
          show index.toNat + _ < _
          omega)
        refine ⟨w', TransSys.run_cons_eq_some.mpr ⟨_, hst, hrun⟩, hseed', ?_, ?_⟩
        · rw [hindex']
          show index.toNat + _ = _
          omega
        · intro b hb
          exact hkept b (List.mem_append_left _ hb)
      · omega

/-- **The defect**: the block that opens a seed starts where the previous seed
ended, and 2^25 later requests reach it. -/
theorem guid_issued_twice :
    ¬ ∀ (cfg : AllocGuid) (acts : List Act) (w : World), cfg.seed.toNat < 2 ^ 8 →
      cfg.index < maxGuidIndex → guidSystem.run (World.start cfg) acts = some w →
      ∀ entityType, (w.guids entityType).Nodup := by
  intro hall
  have h₀ : Ahead (World.start ⟨0, 281474976710555⟩) := start_ahead (by decide) (by decide)
  -- 200 indexes from 2^48 - 101 on, under seed 1
  obtain ⟨w₁, hst₁, hseed₁, hindex₁, hblock₁⟩ : ∃ w₁,
      step (World.start ⟨0, 281474976710555⟩) (.request 200 true) = some w₁ ∧
      w₁.server.alloc.seed = 1 ∧ w₁.server.alloc.index.toNat = 201 ∧
      (⟨1, 200, 281474976710555⟩ : ReturnGuid) ∈ w₁.blocks :=
    ⟨_, rfl, by decide, by decide, by decide⟩
  obtain ⟨h₁, -⟩ := step_distinct_iff h₀ hst₁
  have hno : (8388608 : UInt32).toNat = 8388608 := rfl
  have hmax : maxGuidIndex.toNat = 281474976710655 := rfl
  -- up to 2^48 - 2^23 + 201
  obtain ⟨w₂, hrun₂, hseed₂, hindex₂, hkept⟩ := run_requests 8388608 1
    (by decide) (by decide) (by decide) 33554431 w₁ h₁ hseed₁ (by
      rw [hindex₁, hno, hmax]
      omega)
  obtain ⟨h₂, -⟩ := run_distinct_iff h₁ hrun₂
  have hlast : (8388358 : UInt32).toNat = 8388358 := rfl
  rw [hindex₁, hno] at hindex₂
  obtain ⟨-, index, -, hgen⟩ | ⟨hcross, -⟩ :=
    generateGuid_cases h₂ (show (8388358 : UInt32).toNat < 2 ^ 24 by decide)
  · obtain ⟨w₃, hst₃⟩ : ∃ w₃, step w₂ (.request 8388358 true) = some w₃ :=
      ⟨_, step_served (by decide) (by decide) (by rw [hseed₂]; decide) hgen⟩
    obtain ⟨h₃, hstep⟩ := step_distinct_iff h₂ hst₃
    have hrun : guidSystem.run (World.start ⟨0, 281474976710555⟩)
        (.request 200 true :: (List.replicate 33554431 (.request 8388608 true)
          ++ [.request 8388358 true])) = some w₃ := by
      refine TransSys.run_cons_eq_some.mpr ⟨w₁, hst₁, ?_⟩
      rw [TransSys.run_append, hrun₂, Option.bind_some, TransSys.run_cons_eq_some]
      exact ⟨w₃, (guidSystem_step w₂ _).trans hst₃, rfl⟩
    have hnodup := hall ⟨0, 281474976710555⟩ _ w₃ (by decide) (by decide) hrun 0
    have hbelow := (hstep.mp ((guids_nodup_iff h₃ 0).mp hnodup)).2
    have hstart : (281474976710555 : UInt64).toNat = 281474976710555 := rfl
    have hcross : (⟨1, 200, 281474976710555⟩ : ReturnGuid).Crosses := by
      show (281474976710655 : Nat) ≤ 281474976710555 + 200
      omega
    have hends := hbelow (by rw [hindex₂, hlast, hmax]; omega) ⟨1, 200, 281474976710555⟩
      (hkept _ hblock₁) hseed₂.symm hcross
    rw [hindex₂, hlast, hstart] at hends
    omega
  · rw [hindex₂, hlast, hmax] at hcross
    omega

end Steppingstone.Guid
