/-
  Steppingstone.Converter.Change — the abstract account of record merging.

  For one guid, a record is a change of a row: create it when absent,
  overwrite it when present, delete it.  `Change.merge` is the rule by which
  two changes are folded into the one that will be written, and this file
  says exactly for which sequences the merged change does to the row what the
  whole sequence does (`MergeExact`, `mergeAll_exact_iff`).

  The shape of the argument:
    * `standing` strips the leading groups "create … first delete": they
      cancel in the merge map and leave no trace;
    * what stands after them is empty, or a create without later delete, or
      starts with an overwrite or a delete; each shape has a closed form for
      the merged change (`merge_*`) and for the row (`applyAll_*`).
-/
import Mathlib.Data.List.Basic

namespace Steppingstone.Converter

variable {σ : Type*}

/-! ## §1. Changes of a row and their merging. -/

/-- What a record asks of the row of its guid. -/
inductive Change (σ : Type*) where
  /-- Create the row when it is absent. -/
  | create (v : σ)
  /-- Overwrite the row when it is present. -/
  | overwrite (v : σ)
  /-- Delete the row. -/
  | delete
  deriving Repr, DecidableEq

namespace Change

/-- The change makes the row. -/
def isCreate : Change σ → Bool
  | create _ => true
  | _ => false

/-- The change removes the row. -/
def isDelete : Change σ → Bool
  | delete => true
  | _ => false

@[simp] theorem isDelete_create (v : σ) : (create v).isDelete = false := rfl
@[simp] theorem isDelete_overwrite (v : σ) : (overwrite v).isDelete = false := rfl
@[simp] theorem isDelete_delete : (delete : Change σ).isDelete = true := rfl

/-- The row after one change. -/
def apply : Option σ → Change σ → Option σ
  | row, create v => some (row.getD v)
  | row, overwrite v => row.map (fun _ => v)
  | _, delete => none

/-- The row after a sequence of changes. -/
def applyAll (row : Option σ) (cs : List (Change σ)) : Option σ :=
  cs.foldl apply row

/-- **The merging rule**: the pending change of a guid after one more change.
The value is always the newer one; a create followed by a delete cancels; a
pending delete absorbs whatever follows. -/
def merge : Option (Change σ) → Change σ → Option (Change σ)
  | none, c => some c
  | some (create _), create v => some (create v)
  | some (create _), overwrite v => some (create v)
  | some (create _), delete => none
  | some (overwrite _), create v => some (overwrite v)
  | some (overwrite _), overwrite v => some (overwrite v)
  | some (overwrite _), delete => some delete
  | some delete, _ => some delete

/-- The pending change after a sequence of changes. -/
def mergeAll (pending : Option (Change σ)) (cs : List (Change σ)) : Option (Change σ) :=
  cs.foldl merge pending

/-- The row after the pending change, if there is one, is written. -/
def applyPending (row : Option σ) : Option (Change σ) → Option σ
  | none => row
  | some c => apply row c

@[simp] theorem applyAll_nil (row : Option σ) : applyAll row [] = row := rfl

@[simp] theorem applyAll_cons (row : Option σ) (c : Change σ) (cs : List (Change σ)) :
    applyAll row (c :: cs) = applyAll (apply row c) cs := rfl

@[simp] theorem mergeAll_nil (p : Option (Change σ)) : mergeAll p [] = p := rfl

@[simp] theorem mergeAll_cons (p : Option (Change σ)) (c : Change σ) (cs : List (Change σ)) :
    mergeAll p (c :: cs) = mergeAll (merge p c) cs := rfl

/-- Changes are applied one list after the other. -/
theorem applyAll_append (row : Option σ) (cs ds : List (Change σ)) :
    applyAll row (cs ++ ds) = applyAll (applyAll row cs) ds :=
  List.foldl_append

/-- They are merged the same way. -/
theorem mergeAll_append (p : Option (Change σ)) (cs ds : List (Change σ)) :
    mergeAll p (cs ++ ds) = mergeAll (mergeAll p cs) ds :=
  List.foldl_append

/-! ## §2. Reading a sequence of changes. -/

/-- The value of the last overwrite, `w` when there is none. -/
def lastOverwrite (w : σ) : List (Change σ) → σ
  | [] => w
  | overwrite v :: cs => lastOverwrite v cs
  | _ :: cs => lastOverwrite w cs

/-- The value of the last create or overwrite, `w` when there is none. -/
def lastValue (w : σ) : List (Change σ) → σ
  | [] => w
  | create v :: cs | overwrite v :: cs => lastValue v cs
  | delete :: cs => lastValue w cs

/-- The first create, with what follows it. -/
def firstCreate : List (Change σ) → Option (σ × List (Change σ))
  | [] => none
  | create v :: cs => some (v, cs)
  | _ :: cs => firstCreate cs

/-- Whether a create comes after the last delete (`b` when no delete and no
create follow). -/
def createdLast (b : Bool) : List (Change σ) → Bool
  | [] => b
  | create _ :: cs => createdLast true cs
  | overwrite _ :: cs => createdLast b cs
  | delete :: cs => createdLast false cs

/-- Strip the leading groups "create … first delete".  `group` holds the
changes of the group that is open, in order. -/
def standing (group : List (Change σ)) : List (Change σ) → List (Change σ)
  | [] => group
  | c :: cs =>
      match group, c with
      | [], create v => standing [create v] cs
      | [], _ => c :: cs
      | _ :: _, delete => standing [] cs
      | g :: gs, _ => standing (g :: gs ++ [c]) cs

/-- **When merging is exact**: a condition on the row before and on the
sequence of changes of one guid. -/
def MergeExact [DecidableEq σ] (row : Option σ) (cs : List (Change σ)) : Bool :=
  match standing [] cs, row with
  -- everything cancelled: right unless a row was there to be deleted
  | [], none => true
  | [], some _ => cs.isEmpty
  -- a create stands: it writes its last value into an absent row only
  | create v :: rest, none => lastOverwrite v rest == lastValue v rest
  | create v :: rest, some w =>
      if (create v :: rest).length = cs.length then lastOverwrite w rest == w
      else lastOverwrite v rest == w
  -- an overwrite or a delete stands: an absent row stays absent
  | c :: rest, none => !createdLast false (c :: rest)
  | c :: rest, some w =>
      if (c :: rest).any isDelete then !createdLast false (c :: rest)
      else if (c :: rest).length = cs.length then
        lastOverwrite w (c :: rest) == lastValue w (c :: rest)
      else
        -- the row was deleted by the cancelled groups, so a create must revive it
        match firstCreate (c :: rest) with
        | none => false
        | some (v, after) => lastOverwrite v after == lastValue w (c :: rest)

/-! ## §3. Closed forms: the row. -/

/-- On a row, changes without a delete leave the last value. -/
theorem applyAll_some {w : σ} {cs : List (Change σ)} (h : cs.any isDelete = false) :
    applyAll (some w) cs = some (lastOverwrite w cs) := by
  induction cs generalizing w with
  | nil => rfl
  | cons c cs ih =>
      cases c with
      | create v => simpa [apply, lastOverwrite] using ih (by simpa using h)
      | overwrite v => simpa [apply, lastOverwrite] using ih (by simpa using h)
      | delete => simp at h

/-- Without a row, they count from the first create. -/
theorem applyAll_none {cs : List (Change σ)} (h : cs.any isDelete = false) :
    applyAll none cs = (firstCreate cs).map (fun p => lastOverwrite p.1 p.2) := by
  induction cs with
  | nil => rfl
  | cons c cs ih =>
      cases c with
      | create v =>
          simpa [apply, firstCreate] using applyAll_some (by simpa using h)
      | overwrite v => simpa [apply, firstCreate] using ih (by simpa using h)
      | delete => simp at h

/-- Whether there is a row in the end. -/
theorem applyAll_isSome (row : Option σ) (cs : List (Change σ)) :
    (applyAll row cs).isSome = createdLast row.isSome cs := by
  induction cs generalizing row with
  | nil => rfl
  | cons c cs ih => cases c <;> simp [ih, apply, createdLast]

/-- A delete makes what was there before it irrelevant. -/
theorem createdLast_of_delete (b b' : Bool) {cs : List (Change σ)}
    (h : cs.any isDelete = true) : createdLast b cs = createdLast b' cs := by
  induction cs generalizing b b' with
  | nil => simp at h
  | cons c cs ih =>
      cases c with
      | create v => rfl
      | overwrite v => exact ih b b' (by simpa using h)
      | delete => rfl

/-! ## §4. Closed forms: the merged change. -/

/-- A create takes over the later values. -/
theorem merge_create {v : σ} {cs : List (Change σ)} (h : cs.any isDelete = false) :
    mergeAll (some (create v)) cs = some (create (lastValue v cs)) := by
  induction cs generalizing v with
  | nil => rfl
  | cons c cs ih =>
      cases c with
      | create u => exact ih (by simpa using h)
      | overwrite u => exact ih (by simpa using h)
      | delete => simp at h

/-- A delete swallows what follows. -/
theorem merge_delete (cs : List (Change σ)) :
    mergeAll (some delete) cs = some delete := by
  induction cs with
  | nil => rfl
  | cons c cs ih => exact ih

/-- An overwrite takes the last value, unless a delete follows. -/
theorem merge_overwrite (v : σ) (cs : List (Change σ)) :
    mergeAll (some (overwrite v)) cs
      = if cs.any isDelete then some delete else some (overwrite (lastValue v cs)) := by
  induction cs generalizing v with
  | nil => rfl
  | cons c cs ih =>
      cases c with
      | create u => simpa [merge, lastValue] using ih u
      | overwrite u => simpa [merge, lastValue] using ih u
      | delete => simpa [merge] using merge_delete cs

/-- Whatever starts with an overwrite or a delete never writes an absent row. -/
theorem merge_of_not_create {c : Change σ} {cs : List (Change σ)} (hc : c.isCreate = false)
    (w : σ) :
    mergeAll none (c :: cs)
      = if (c :: cs).any isDelete then some delete
        else some (overwrite (lastValue w (c :: cs))) := by
  cases c with
  | create v => simp [isCreate] at hc
  | overwrite v => simpa [lastValue, merge] using merge_overwrite v cs
  | delete => simpa [merge] using merge_delete cs

/-! ## §5. The cancelled groups. -/

/-- A sequence of groups "create … first delete". -/
inductive Cancelled : List (Change σ) → Prop
  | nil : Cancelled []
  | group {v : σ} {mid rest : List (Change σ)} (hmid : mid.any isDelete = false)
      (hrest : Cancelled rest) : Cancelled (create v :: mid ++ delete :: rest)

/-- Changes that cancel out merge to nothing. -/
theorem Cancelled.mergeAll {cs : List (Change σ)} (h : Cancelled cs) :
    mergeAll none cs = none := by
  induction h with
  | nil => rfl
  | group hmid _ ih =>
      rw [List.cons_append, mergeAll_cons, mergeAll_append, merge, merge_create hmid]
      exact ih

/-- Applied, they leave no row. -/
theorem Cancelled.applyAll {cs : List (Change σ)} (h : Cancelled cs) (hne : cs ≠ [])
    (row : Option σ) : applyAll row cs = none := by
  induction h generalizing row with
  | nil => exact absurd rfl hne
  | @group v mid rest _ _ ih =>
      rw [applyAll_append, applyAll_cons]
      by_cases hr : rest = []
      · rw [hr]; rfl
      · exact ih hr _

/-- An open group either swallows everything, or closes at the first delete. -/
theorem standing_open (g : Change σ) (gs cs : List (Change σ)) :
    (cs.any isDelete = false ∧ standing (g :: gs) cs = g :: gs ++ cs) ∨
      ∃ mid rest, cs = mid ++ delete :: rest ∧ mid.any isDelete = false ∧
        standing (g :: gs) cs = standing [] rest := by
  induction cs generalizing gs with
  | nil => exact .inl ⟨rfl, by simp [standing]⟩
  | cons c cs ih =>
      have grow : c.isDelete = false →
          standing (g :: gs) (c :: cs) = standing (g :: (gs ++ [c])) cs := by
        intro hc
        cases c <;> first | rfl | simp at hc
      cases hc : c.isDelete with
      | true =>
          obtain rfl : c = delete := by cases c <;> simp_all
          exact .inr ⟨[], cs, rfl, rfl, rfl⟩
      | false =>
          rw [grow hc]
          rcases ih (gs ++ [c]) with ⟨hd, hs⟩ | ⟨mid, rest, hcs, hd, hs⟩
          · exact .inl ⟨by simp [hc, hd], by rw [hs]; simp⟩
          · exact .inr ⟨c :: mid, rest, by rw [hcs]; rfl, by simp [hc, hd], hs⟩

/-- **What `standing` strips and what it leaves**: a run of cancelled groups, and
then a sequence that is empty, or opens a group that never closes, or does not
start with a create. -/
theorem standing_spec (cs : List (Change σ)) :
    ∃ gone, cs = gone ++ standing [] cs ∧ Cancelled gone ∧
      ∀ v rest, standing [] cs = create v :: rest → rest.any isDelete = false := by
  induction hn : cs.length using Nat.strongRecOn generalizing cs with
  | ind n ih =>
      cases cs with
      | nil => exact ⟨[], rfl, .nil, by simp [standing]⟩
      | cons c cs =>
          cases c with
          | create v =>
              have hstep : standing [] (create v :: cs) = standing [create v] cs := rfl
              rcases standing_open (create v) [] cs with ⟨hd, hs⟩ | ⟨mid, rest, hcs, hd, hs⟩
              · refine ⟨[], by rw [hstep, hs]; rfl, .nil, ?_⟩
                intro u rest hu
                rw [hstep, hs] at hu
                obtain rfl : cs = rest := by simpa using (List.cons.inj hu).2
                exact hd
              · obtain ⟨gone, hgone, hcan, hshape⟩ :=
                  ih rest.length (by rw [← hn, hcs]; simp; omega) rest rfl
                refine ⟨create v :: mid ++ delete :: gone, ?_, .group hd hcan, ?_⟩
                · rw [hstep, hs, hcs]
                  conv_lhs => rw [hgone]
                  simp
                · rw [hstep, hs]; exact hshape
          | overwrite v => exact ⟨[], rfl, .nil, by simp [standing]⟩
          | delete => exact ⟨[], rfl, .nil, by simp [standing]⟩

/-! ## §6. Exactness. -/

private theorem bool_false_iff {b : Bool} : (!b) = true ↔ b = false := by cases b <;> decide

/-- An overwrite or a delete stands over an absent row. -/
private theorem exact_absent {c : Change σ} {cs : List (Change σ)} (hc : c.isCreate = false) :
    applyPending none (mergeAll none (c :: cs)) = applyAll none (c :: cs) ↔
      createdLast false (c :: cs) = false := by
  have hG : applyPending none (mergeAll none (c :: cs)) = none := by
    cases c with
    | create v => simp [isCreate] at hc
    | overwrite v =>
        rw [merge_of_not_create hc v]
        split <;> rfl
    | delete => rw [show mergeAll none (delete :: cs) = some delete from merge_delete cs]; rfl
  have hF := applyAll_isSome none (c :: cs)
  rw [hG]
  cases h : applyAll none (c :: cs) <;> simp_all

/-- An overwrite or a delete stands over a row: `b` is the row once the
cancelled groups have been applied. -/
private theorem exact_present {c : Change σ} {cs : List (Change σ)} (hc : c.isCreate = false)
    (w : σ) (b : Option σ) :
    applyPending (some w) (mergeAll none (c :: cs)) = applyAll b (c :: cs) ↔
      if (c :: cs).any isDelete then createdLast false (c :: cs) = false
      else applyAll b (c :: cs) = some (lastValue w (c :: cs)) := by
  rw [merge_of_not_create hc w]
  split
  next hd =>
      have hF := applyAll_isSome b (c :: cs)
      rw [createdLast_of_delete b.isSome false hd] at hF
      show none = applyAll b (c :: cs) ↔ _
      cases h : applyAll b (c :: cs) <;> simp_all
  next hd =>
      show some (lastValue w (c :: cs)) = applyAll b (c :: cs) ↔ _
      exact eq_comm

/-- A row that the cancelled groups deleted comes back with the first create. -/
private theorem revived_iff [DecidableEq σ] {cs : List (Change σ)}
    (hd : cs.any isDelete = false) (u : σ) :
    applyAll none cs = some u ↔
      (match firstCreate cs with
        | none => false
        | some (v, after) => lastOverwrite v after == u) = true := by
  rw [applyAll_none hd]
  cases firstCreate cs <;> simp

/-- The case of `exact_present` as `MergeExact` tests it. -/
private theorem exact_present_iff [DecidableEq σ] {c : Change σ} {cs : List (Change σ)}
    (hc : c.isCreate = false) (w : σ) (kept : Prop) [Decidable kept] :
    applyPending (some w) (mergeAll none (c :: cs))
        = applyAll (if kept then some w else none) (c :: cs) ↔
      (if (c :: cs).any isDelete then !createdLast false (c :: cs)
        else if kept then lastOverwrite w (c :: cs) == lastValue w (c :: cs)
        else match firstCreate (c :: cs) with
          | none => false
          | some (v, after) => lastOverwrite v after == lastValue w (c :: cs)) = true := by
  rw [exact_present hc]
  by_cases hd : (c :: cs).any isDelete = true
  · rw [if_pos hd, if_pos hd, bool_false_iff]
  · rw [if_neg hd, if_neg hd]
    rw [Bool.not_eq_true] at hd
    by_cases hk : kept
    · rw [if_pos hk, if_pos hk, applyAll_some hd, beq_iff_eq, Option.some.injEq]
    · rw [if_neg hk, if_neg hk]
      exact revived_iff hd _

/-- **Exactness of merging**: writing the merged change does to the row what
the sequence does if and only if `MergeExact` holds. -/
theorem mergeAll_exact_iff [DecidableEq σ] (row : Option σ) (cs : List (Change σ)) :
    applyPending row (mergeAll none cs) = applyAll row cs ↔ MergeExact row cs = true := by
  obtain ⟨gone, hcs, hcan, hshape⟩ := standing_spec cs
  -- what has been cancelled leaves no trace in the merged change
  have hM : mergeAll none cs = mergeAll none (standing [] cs) := by
    conv_lhs => rw [hcs]
    rw [mergeAll_append, hcan.mergeAll]
  have hA : applyAll row cs
      = applyAll (if gone = [] then row else none) (standing [] cs) := by
    conv_lhs => rw [hcs]
    rw [applyAll_append]
    by_cases hg : gone = []
    · rw [if_pos hg, hg]; rfl
    · rw [if_neg hg, hcan.applyAll hg]
  have hlen : (standing [] cs).length = cs.length ↔ gone = [] := by
    have := congrArg List.length hcs
    rw [List.length_append] at this
    rw [← List.length_eq_zero_iff]
    omega
  rw [hM, hA]
  unfold MergeExact
  -- what is left decides, by its first change and whether there is a row
  match ht : standing [] cs, row with
  | [], none => simp [applyPending]
  | [], some w =>
      have hnil : cs = gone := by rw [ht] at hcs; simpa using hcs
      subst hnil
      by_cases hg : cs = []
      · simp [hg, applyPending]
      · simp [hg, applyPending]
  | create v :: rest, none =>
      have hd := hshape v rest ht
      rw [mergeAll_cons, merge, merge_create hd, ite_self, applyAll_cons]
      simp only [applyPending, apply, Option.getD_none, applyAll_some hd, Option.some.injEq,
        beq_iff_eq]
      exact eq_comm
  | create v :: rest, some w =>
      have hd := hshape v rest ht
      rw [ht] at hlen
      rw [mergeAll_cons, merge, merge_create hd, applyAll_cons]
      by_cases hg : gone = []
      · simp only [hg, hlen.mpr hg, if_true, applyPending, apply, Option.getD_some,
          applyAll_some hd, Option.some.injEq, beq_iff_eq]
        exact eq_comm
      · simp only [hg, hlen, if_false, applyPending, apply, Option.getD_some, Option.getD_none,
          applyAll_some hd, Option.some.injEq, beq_iff_eq]
        exact eq_comm
  | overwrite v :: rest, none =>
      rw [ite_self, exact_absent rfl, bool_false_iff]
  | delete :: rest, none =>
      rw [ite_self, exact_absent rfl, bool_false_iff]
  | overwrite v :: rest, some w =>
      rw [ht] at hlen
      simp only [exact_present_iff (c := overwrite v) rfl w, hlen]
  | delete :: rest, some w =>
      rw [ht] at hlen
      simp only [exact_present_iff (c := delete) rfl w, hlen]

end Change

end Steppingstone.Converter
