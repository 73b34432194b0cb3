/-
  Steppingstone.Cached.View — where the value of one guid is.

  A guid is seen through its entity, its expired entry, its records that are
  not converted yet, its database row, and the last write to it.  `Coherent`
  says that whichever of them a load will look at holds the last write.  Each
  way a request, the converter or an acknowledgement changes a view is one
  definition and one lemma, with the assumption it needs.
-/
import Mathlib.Data.List.Basic
import Steppingstone.Cached.Model

namespace Steppingstone.Cached

open Converter (Record RecordType rowAfter)

variable {μ : Type}

/-! ## §1. Views. -/

/-- Everything about one guid. -/
structure View (μ : Type) where
  entity : Option μ
  expired : Option (ExpiredItem μ)
  pending : List (Record (Option μ))
  row : Option (Option μ)
  written : Option μ

/-- The last record, if there is one, is a removal. -/
def EndsRemoved (rs : List (Record (Option μ))) : Prop :=
  ∀ r, rs.getLast? = some r → r.optype = .remove

namespace View

/-- The row once the pending records are converted. -/
def settled (v : View μ) : Option (Option μ) :=
  v.pending.foldl rowAfter v.row

/-- The expired entry that a load finds. -/
def found (v : View μ) : Option (ExpiredItem μ) :=
  v.expired.filter (fun x => !x.isDelete)

/-- **Whichever place a load looks at holds the last write.** -/
structure Coherent (v : View μ) : Prop where
  live : ∀ x, v.entity = some x → v.written = some x ∧ v.settled.isSome = true
  absent : v.entity = none → v.settled = v.written.map some
  expired : ∀ x, v.entity = none → v.found = some x → x.inUse = false ∧
    (∃ y, x.item = .valid y ∧ v.written = some y) ∧
    ∀ r ∈ v.pending, r.lastModifyTime ≤ x.lastModifyTime
  converted : v.entity = none → v.found = none → EndsRemoved v.pending
  deleted : ∀ x, v.expired = some x → x.isDelete = true → x.inUse = false

/-- A load that goes to the database will find the last write there. -/
structure Settled (v : View μ) : Prop where
  row : v.settled = v.written.map some
  ends : EndsRemoved v.pending

theorem found_eq_some {v : View μ} {x : ExpiredItem μ} :
    v.found = some x ↔ v.expired = some x ∧ x.isDelete = false := by
  simp [found, Option.filter_eq_some_iff]

theorem found_eq_none {v : View μ} :
    v.found = none ↔ ∀ x, v.expired = some x → x.isDelete = true := by
  simp [found, Option.filter_eq_none_iff]

/-- One more record acts on the settled row. -/
theorem settled_append (v : View μ) (r : Record (Option μ)) (entity written : Option μ)
    (expired : Option (ExpiredItem μ)) :
    settled ⟨entity, expired, v.pending ++ [r], v.row, written⟩ = rowAfter v.settled r := by
  unfold settled
  rw [List.foldl_append, List.foldl_cons, List.foldl_nil]

/-- The settled row is that of the records and the row alone. -/
theorem settled_congr (v : View μ) (entity written : Option μ)
    (expired : Option (ExpiredItem μ)) :
    settled ⟨entity, expired, v.pending, v.row, written⟩ = v.settled :=
  rfl

theorem endsRemoved_append {rs : List (Record (Option μ))} {r : Record (Option μ)}
    (hr : r.optype = .remove) : EndsRemoved (rs ++ [r]) := by
  intro x hx
  rw [List.getLast?_concat] at hx
  obtain rfl := Option.some.inj hx
  exact hr

/-- After a removal at the end the row is gone. -/
theorem settled_of_endsRemoved {v : View μ} (h : EndsRemoved v.pending) (hne : v.pending ≠ []) :
    v.settled = none := by
  obtain ⟨init, r, hlast⟩ := (List.eq_nil_or_concat v.pending).resolve_left hne
  rw [List.concat_eq_append] at hlast
  have hr : r.optype = .remove := h r (by rw [hlast, List.getLast?_concat])
  unfold settled
  rw [hlast, List.foldl_append, List.foldl_cons, List.foldl_nil]
  simp [rowAfter, hr]

/-- **What the loader reads**: the last write, when no removal of a present
row is pending. -/
theorem row_of_settled {v : View μ} (h : v.Settled)
    (hrow : (∃ r ∈ v.pending, r.optype = .remove) → v.row = none) :
    v.row.join = v.written := by
  by_cases hne : v.pending = []
  · have hs : v.settled = v.row := by simp [settled, hne]
    rw [← hs, h.row]
    cases v.written <;> rfl
  · have hnone := settled_of_endsRemoved h.ends hne
    have hw : v.written = none := by
      have hrow' := h.row
      rw [hnone] at hrow'
      cases hv : v.written with
      | none => rfl
      | some x => rw [hv] at hrow'; cases hrow'
    obtain ⟨init, r, hlast⟩ := (List.eq_nil_or_concat v.pending).resolve_left hne
    rw [List.concat_eq_append] at hlast
    have hr : r.optype = .remove := h.ends r (by rw [hlast, List.getLast?_concat])
    rw [hw, hrow ⟨r, by rw [hlast]; simp, hr⟩]
    rfl

/-! ## §2. Requests. -/

variable {v : View μ} {r : Record (Option μ)} {x : μ}

/-- What becomes of an expired entry when the entity map deletes its object. -/
def freeItem : Option (ExpiredItem μ) → Option (ExpiredItem μ)
  | some x =>
      match x.inUse, x.item with
      | true, .valid _ => some { x with item := .freed }
      | _, _ => some x
  | none => none

/-- Freeing changes the item of an entry at most. -/
theorem freeItem_spec (e : Option (ExpiredItem μ)) :
    (freeItem e).map (fun x => (x.isDelete, x.inUse)) = e.map (fun x => (x.isDelete, x.inUse)) := by
  cases e with
  | none => rfl
  | some x =>
      unfold freeItem
      dsimp only
      split <;> rfl

private theorem deleted_freeItem {e : Option (ExpiredItem μ)}
    (h : ∀ x, e = some x → x.isDelete = true → x.inUse = false) :
    ∀ x, freeItem e = some x → x.isDelete = true → x.inUse = false := by
  intro x hx hdel
  have hspec := freeItem_spec e
  rw [hx] at hspec
  cases he : e with
  | none => rw [he] at hspec; cases hspec
  | some y =>
      rw [he] at hspec
      simp only [Option.map_some, Option.some.injEq, Prod.mk.injEq] at hspec
      rw [hspec.2]
      exact h y he (by rw [← hspec.1]; exact hdel)

/-- NEW: the entity is added and an insert is logged. -/
theorem Coherent.add (h : v.Coherent) (hr : r.optype = .insert) :
    Coherent { v with entity := some x, pending := v.pending ++ [r], written := some x } where
  live y hy := by
    obtain rfl := Option.some.inj hy
    refine ⟨rfl, ?_⟩
    rw [settled_append v]
    simp [rowAfter, hr]
  absent he := by cases he
  expired y he := by cases he
  converted he := by cases he
  deleted := h.deleted

/-- UPDATE of an entity that is in the map. -/
theorem Coherent.overwrite (h : v.Coherent) (hr : r.optype = .update)
    (he : v.entity.isSome = true) :
    Coherent { v with
      entity := some x, expired := freeItem v.expired, pending := v.pending ++ [r],
      written := some x } where
  live y hy := by
    obtain rfl := Option.some.inj hy
    obtain ⟨old, hold⟩ := Option.isSome_iff_exists.mp he
    refine ⟨rfl, ?_⟩
    rw [settled_append v]
    simpa [rowAfter, hr] using (h.live old hold).2
  absent he := by cases he
  expired y he := by cases he
  converted he := by cases he
  deleted := deleted_freeItem h.deleted

/-- A flushed value waits in the expired table until its record is converted. -/
private theorem coherent_flushed {v' : View μ} {t : UInt64} (hent : v'.entity = none)
    (hexp : v'.expired = some { lastModifyTime := t, inUse := false, item := .valid x })
    (hset : v'.settled = some (some x)) (hw : v'.written = some x)
    (ht : ∀ a ∈ v'.pending, a.lastModifyTime ≤ t) : v'.Coherent where
  live y hy := by rw [hent] at hy; cases hy
  absent _ := by rw [hset, hw]; rfl
  expired y _ hy := by
    obtain ⟨hy, -⟩ := found_eq_some.mp hy
    rw [hexp] at hy
    obtain rfl := Option.some.inj hy
    exact ⟨rfl, ⟨x, rfl, hw⟩, ht⟩
  converted _ hnone := by
    have := found_eq_none.mp hnone _ hexp
    cases this
  deleted y hy hdel := by
    rw [hexp] at hy
    obtain rfl := Option.some.inj hy
    cases hdel

/-- A record as late as those before it can be added. -/
theorem stamps_append {pending : List (Record (Option μ))}
    (h : ∀ a ∈ pending, a.lastModifyTime ≤ r.lastModifyTime) :
    ∀ a ∈ pending ++ [r], a.lastModifyTime ≤ r.lastModifyTime :=
  List.forall_mem_append.mpr ⟨h, List.forall_mem_singleton.mpr (UInt64.le_refl _)⟩

/-- FLUSH of an entity that is in the map. -/
theorem Coherent.flush (h : v.Coherent) (hr : r.optype = .flush) (hx : r.stream = some x)
    (he : v.entity.isSome = true) (ht : ∀ a ∈ v.pending, a.lastModifyTime ≤ r.lastModifyTime) :
    Coherent { v with
      entity := none
      expired := some
        { lastModifyTime := r.lastModifyTime, inUse := false, item := .valid x }
      pending := v.pending ++ [r]
      written := some x } := by
  refine coherent_flushed rfl rfl ?_ rfl ?_
  · obtain ⟨old, hold⟩ := Option.isSome_iff_exists.mp he
    obtain ⟨row, hrow⟩ := Option.isSome_iff_exists.mp (h.live old hold).2
    rw [settled_append v, hrow]
    simp [rowAfter, hr, hx]
  · exact stamps_append ht

/-- NEW_WITH_FLUSH of an entity that is neither in the map nor going to be in
the database. -/
theorem Coherent.insertFlushed (hr : r.optype = .insertWithFlush) (hx : r.stream = some x)
    (he : v.entity = none) (hset : v.settled = none)
    (ht : ∀ a ∈ v.pending, a.lastModifyTime ≤ r.lastModifyTime) :
    Coherent { v with
      expired := some
        { lastModifyTime := r.lastModifyTime, inUse := false, item := .valid x }
      pending := v.pending ++ [r]
      written := some x } := by
  refine coherent_flushed he rfl ?_ rfl ?_
  · rw [settled_append v, hset]
    simp [rowAfter, hr, hx]
  · exact stamps_append ht

/-- What `updateToDelete` makes of an expired entry. -/
def deleteItem (e : Option (ExpiredItem μ)) : Option (ExpiredItem μ) :=
  e.map (fun x => { x with inUse := false, isDelete := true, item := .null })

/-- REMOVE. -/
theorem Coherent.delete (v : View μ) (hr : r.optype = .remove) :
    Coherent { v with
      entity := none, expired := deleteItem v.expired, pending := v.pending ++ [r],
      written := none } where
  live y hy := by cases hy
  absent _ := by
    rw [settled_append v]
    simp [rowAfter, hr]
  expired y _ hy := by
    obtain ⟨hy, hdel⟩ := found_eq_some.mp hy
    obtain ⟨z, -, rfl⟩ := Option.map_eq_some_iff.mp hy
    cases hdel
  converted _ _ := endsRemoved_append hr
  deleted y hy _ := by
    obtain ⟨z, -, rfl⟩ := Option.map_eq_some_iff.mp hy
    rfl

/-- ONLY_REMOVE of an entity that the database holds as it is. -/
theorem Coherent.drop (h : v.Coherent) {y : μ} (he : v.entity = some y) (hf : v.found = none)
    (hp : v.pending = []) (hrow : v.row = some (some y)) :
    Coherent { v with entity := none, expired := freeItem v.expired } where
  live z hz := by cases hz
  absent _ := by
    rw [settled_congr v, (h.live y he).1]
    simp [settled, hp, hrow]
  expired z _ hz := by
    obtain ⟨hexp, hdel⟩ := found_eq_some.mp hz
    exfalso
    have hz' : freeItem v.expired = some z := hexp
    have hspec := freeItem_spec v.expired
    rw [hz'] at hspec
    cases hold : v.expired with
    | none => rw [hold] at hspec; cases hspec
    | some w =>
        rw [hold] at hspec
        have := found_eq_none.mp hf w hold
        simp [hdel, this] at hspec
  converted _ _ := by
    show EndsRemoved v.pending
    rw [hp]
    intro a ha
    cases ha
  deleted := deleted_freeItem h.deleted

/-- LOAD from the expired table: the item is lent to the entity map. -/
theorem Coherent.lend (h : v.Coherent) {y : μ} {e : ExpiredItem μ} (he : v.entity = none)
    (hf : v.found = some e) (hy : e.item = .valid y) :
    Coherent { v with entity := some y, expired := some { e with inUse := true } } where
  live z hz := by
    obtain rfl := Option.some.inj hz
    obtain ⟨-, ⟨w, hw, hwritten⟩, -⟩ := h.expired e he hf
    rw [hy] at hw
    obtain rfl : y = w := by injection hw
    refine ⟨hwritten, ?_⟩
    rw [settled_congr v, h.absent he, hwritten]
    rfl
  absent he := by cases he
  expired z he := by cases he
  converted he := by cases he
  deleted z hz hdel := by
    obtain rfl := Option.some.inj hz
    rw [(found_eq_some.mp hf).2] at hdel
    cases hdel

/-- A loaded row enters the entity map. -/
theorem Coherent.load (h : v.Coherent) {y : μ} (hw : v.written = some y)
    (hset : v.settled = v.written.map some) : Coherent { v with entity := some y } where
  live z hz := by
    obtain rfl := Option.some.inj hz
    refine ⟨hw, ?_⟩
    rw [settled_congr v, hset, hw]
    rfl
  absent he := by cases he
  expired z he := by cases he
  converted he := by cases he
  deleted := h.deleted

/-! ## §3. The converter. -/

theorem endsRemoved_tail {rs : List (Record (Option μ))} (h : EndsRemoved (r :: rs)) :
    EndsRemoved rs := by
  intro a ha
  refine h a ?_
  cases rs with
  | nil => cases ha
  | cons b bs => rw [List.getLast?_cons_cons]; exact ha

/-- The next record of the guid is converted. -/
theorem Coherent.convert (h : v.Coherent) {rest : List (Record (Option μ))}
    (hp : v.pending = r :: rest) :
    Coherent { v with pending := rest, row := rowAfter v.row r } := by
  have hset : settled { v with pending := rest, row := rowAfter v.row r } = v.settled := by
    unfold settled
    rw [hp, List.foldl_cons]
  refine ⟨?_, ?_, ?_, ?_, h.deleted⟩
  · rw [hset]
    exact h.live
  · rw [hset]
    exact h.absent
  · intro x he hf
    obtain ⟨huse, hitem, ht⟩ := h.expired x he hf
    exact ⟨huse, hitem, fun a ha => ht a (by rw [hp]; exact List.mem_cons_of_mem _ ha)⟩
  · intro he hf
    have hends := h.converted he hf
    rw [hp] at hends
    exact endsRemoved_tail hends

theorem Settled.convert (h : v.Settled) {rest : List (Record (Option μ))}
    (hp : v.pending = r :: rest) :
    Settled { v with pending := rest, row := rowAfter v.row r } := by
  refine ⟨?_, ?_⟩
  · rw [← show v.settled = v.written.map some from h.row]
    unfold settled
    rw [hp, List.foldl_cons]
  · have hends := h.ends
    rw [hp] at hends
    exact endsRemoved_tail hends

/-- What `remove` makes of an expired entry. -/
def expireItem (t : UInt64) : Option (ExpiredItem μ) → Option (ExpiredItem μ)
  | some x => if x.inUse then none else if t = x.lastModifyTime then none else some x
  | none => none

/-- An acknowledgement that is older than every pending record: the expired
entry goes when the entity map has the item, or when its own record is converted. -/
theorem Coherent.expire (h : v.Coherent) {t : UInt64}
    (ht : ∀ a ∈ v.pending, t < a.lastModifyTime) :
    Coherent { v with expired := expireItem t v.expired } := by
  -- an item that is still there has not been changed
  have hsub : ∀ x, expireItem t v.expired = some x → v.expired = some x := by
    intro x hx
    unfold expireItem at hx
    split at hx
    · split at hx
      · cases hx
      · split at hx
        · cases hx
        · rw [← hx]
          assumption
    · cases hx
  refine ⟨h.live, h.absent, ?_, ?_, ?_⟩
  · intro x he hf
    obtain ⟨hx, hdel⟩ := found_eq_some.mp hf
    exact h.expired x he (found_eq_some.mpr ⟨hsub x hx, hdel⟩)
  · intro he hf
    cases hfound : v.found with
    | none => exact h.converted he hfound
    | some x =>
        obtain ⟨huse, -, htimes⟩ := h.expired x he hfound
        obtain ⟨hx, hdel⟩ := found_eq_some.mp hfound
        by_cases heq : t = x.lastModifyTime
        · -- its record is converted, and no later one exists
          have hnil : v.pending = [] := by
            refine List.eq_nil_iff_forall_not_mem.mpr ?_
            intro a ha
            have hlt := ht a ha
            have hle := htimes a ha
            rw [heq] at hlt
            exact absurd hlt (UInt64.not_lt.mpr hle)
          show EndsRemoved v.pending
          rw [hnil]
          intro a ha
          cases ha
        · exfalso
          have hkept : expireItem t v.expired = some x := by
            rw [hx]
            simp [expireItem, huse, heq]
          have := found_eq_none.mp hf x hkept
          rw [hdel] at this
          cases this
  · intro x hx
    exact h.deleted x (hsub x hx)

end View

end Steppingstone.Cached
