/-
  Steppingstone.Converter.Collect — `collectTransaction`
  (`ManageSQLiteFile.cpp`).

  Records arrive in the order the cache wrote them and are put into groups
  keyed by line and transaction id; a group goes to `processRecord` when a
  record whose index equals its transaction's size joins it.  The scene pools
  that share a line each number their transactions from 1, so a key does not
  name one transaction: `Sent` tags every record with the transaction it was
  committed in, which the code never sees.
-/
import Mathlib.Data.List.Induction
import Steppingstone.Converter.Record
import Steppingstone.Lib.KeyedFold

namespace Steppingstone.Converter

variable {τ σ : Type*}

/-! ## §1. `collectTransaction`. -/

/-- A record, tagged with the transaction it was committed in. -/
structure Sent (τ σ : Type*) where
  origin : τ
  record : Record σ
  deriving DecidableEq

/-- `LineTransRecord_t`: line id, then transaction id, to the records collected. -/
abbrev LineTransRecord (τ σ : Type*) :=
  UInt32 → Option (UInt32 → Option (List (Sent τ σ)))

/-- The groups that wait, and the records handed to `processRecord` so far. -/
structure Collector (τ σ : Type*) where
  lineTransRecord : LineTransRecord τ σ := fun _ => none
  processed : List (Sent τ σ) := []

/-- `collectTransaction`. -/
def collectTransaction (st : Collector τ σ) (s : Sent τ σ) : Collector τ σ :=
  let record := s.record
  if record.transactionNum = 1 then
    { st with processed := st.processed ++ [s] }
  else
    match st.lineTransRecord record.lineId with
    | none =>
        let byId := Function.update (fun _ => none) record.transactionId (some [s])
        { st with lineTransRecord :=
            Function.update st.lineTransRecord record.lineId (some byId) }
    | some byId =>
        match byId record.transactionId with
        | none =>
            let byId := Function.update byId record.transactionId (some [s])
            { st with lineTransRecord :=
                Function.update st.lineTransRecord record.lineId (some byId) }
        | some recordSet =>
            if record.transactionNum = record.transactionIndex then
              let byId := Function.update byId record.transactionId none
              { lineTransRecord :=
                  Function.update st.lineTransRecord record.lineId (some byId)
                processed := st.processed ++ (recordSet ++ [s]) }
            else
              let byId := Function.update byId record.transactionId (some (recordSet ++ [s]))
              { st with lineTransRecord :=
                  Function.update st.lineTransRecord record.lineId (some byId) }

/-- `processRecordSet` over the records of all files, in their order. -/
def collect (seq : List (Sent τ σ)) : Collector τ σ :=
  seq.foldl collectTransaction {}

theorem collect_snoc (pre : List (Sent τ σ)) (s : Sent τ σ) :
    collect (pre ++ [s]) = collectTransaction (collect pre) s := by
  simp [collect, List.foldl_append]

/-! ## §2. One step, seen at its key. -/

/-- The key of a record's group. -/
def Sent.key (s : Sent τ σ) : UInt32 × UInt32 :=
  (s.record.lineId, s.record.transactionId)

/-- The group waiting under a key. -/
def Collector.group (st : Collector τ σ) (k : UInt32 × UInt32) : Option (List (Sent τ σ)) :=
  (st.lineTransRecord k.1).bind (fun byId => byId k.2)

/-- The group after a record of its key. -/
def groupAfter (g : Option (List (Sent τ σ))) (s : Sent τ σ) : Option (List (Sent τ σ)) :=
  if s.record.transactionNum = 1 then g
  else
    match g with
    | none => some [s]
    | some recordSet =>
        if s.record.transactionNum = s.record.transactionIndex then none
        else some (recordSet ++ [s])

/-- What a record makes go to `processRecord`. -/
def handedOver (g : Option (List (Sent τ σ))) (s : Sent τ σ) : List (Sent τ σ) :=
  if s.record.transactionNum = 1 then [s]
  else
    match g with
    | none => []
    | some recordSet =>
        if s.record.transactionNum = s.record.transactionIndex then recordSet ++ [s] else []

theorem groupAfter_single {g : Option (List (Sent τ σ))} {s : Sent τ σ}
    (hone : s.record.transactionNum = 1) : groupAfter g s = g := by
  simp [groupAfter, hone]

theorem handedOver_single {g : Option (List (Sent τ σ))} {s : Sent τ σ}
    (hone : s.record.transactionNum = 1) : handedOver g s = [s] := by
  simp [handedOver, hone]

/-- **One step of the collector**: the group of the record's key moves by
`groupAfter`, and `handedOver` goes out. -/
theorem collectTransaction_spec (st : Collector τ σ) (s : Sent τ σ) :
    (∀ k, (collectTransaction st s).group k
        = if k = s.key then groupAfter (st.group k) s else st.group k) ∧
      (collectTransaction st s).processed = st.processed ++ handedOver (st.group s.key) s := by
  have hpair : ∀ k : UInt32 × UInt32, k = s.key ↔
      k.1 = s.record.lineId ∧ k.2 = s.record.transactionId := fun k => Prod.ext_iff
  by_cases hone : s.record.transactionNum = 1
  · simp [collectTransaction, groupAfter, handedOver, hone, Collector.group]
  -- a second level map that changes at the transaction id only, put back under the line id
  have hput : ∀ (byId : UInt32 → Option (List (Sent τ σ))) (g : Option (List (Sent τ σ)))
      (p : List (Sent τ σ)), (∀ k, k.1 = s.record.lineId → k.2 ≠ s.record.transactionId →
        byId k.2 = st.group k) → ∀ k,
      Collector.group
        { lineTransRecord := Function.update st.lineTransRecord s.record.lineId
            (some (Function.update byId s.record.transactionId g))
          processed := p } k = if k = s.key then g else st.group k := by
    intro byId g p hb k
    by_cases h1 : k.1 = s.record.lineId
    · by_cases h2 : k.2 = s.record.transactionId
      · simp [Collector.group, hpair, h1, h2]
      · have := hb k h1 h2
        simp [Collector.group, hpair, h1, h2, this]
    · simp [Collector.group, hpair, h1]
  cases hl : st.lineTransRecord s.record.lineId with
  | none =>
      have hg : st.group s.key = none := by simp [Collector.group, Sent.key, hl]
      have hb : ∀ k : UInt32 × UInt32, k.1 = s.record.lineId →
          k.2 ≠ s.record.transactionId → none = st.group k := by
        intro k h1 _
        simp [Collector.group, h1, hl]
      refine ⟨fun k => ?_, by simp [collectTransaction, handedOver, hone, hl, hg]⟩
      simp only [collectTransaction, hone, hl, groupAfter, if_false]
      rw [hput (fun _ => none) _ _ hb]
      by_cases hk : k = s.key <;> simp [hk, hg]
  | some byId =>
      have hg : st.group s.key = byId s.record.transactionId := by
        simp [Collector.group, Sent.key, hl]
      have hb : ∀ k : UInt32 × UInt32, k.1 = s.record.lineId →
          k.2 ≠ s.record.transactionId → byId k.2 = st.group k := by
        intro k h1 _
        simp [Collector.group, h1, hl]
      cases ht : byId s.record.transactionId with
      | none =>
          refine ⟨fun k => ?_, by simp [collectTransaction, handedOver, hone, hl, hg, ht]⟩
          simp only [collectTransaction, hone, hl, ht, groupAfter, if_false]
          rw [hput byId _ _ hb]
          by_cases hk : k = s.key <;> simp [hk, hg, ht]
      | some recordSet =>
          by_cases hlast : s.record.transactionNum = s.record.transactionIndex
          · refine ⟨fun k => ?_, ?_⟩
            · simp only [collectTransaction, hone, hl, ht, groupAfter, if_false, if_pos hlast]
              rw [hput byId _ _ hb]
              by_cases hk : k = s.key <;> simp [hk, hg, ht]
            · simp only [collectTransaction, handedOver, hone, hl, hg, ht, if_false, if_pos hlast]
          · refine ⟨fun k => ?_, ?_⟩
            · simp only [collectTransaction, hone, hl, ht, groupAfter, if_false, if_neg hlast]
              rw [hput byId _ _ hb]
              by_cases hk : k = s.key <;> simp [hk, hg, ht]
            · simp only [collectTransaction, handedOver, hone, hl, hg, ht, if_false, if_neg hlast,
                List.append_nil]

/-- What goes out and what stays is what was there and the record. -/
theorem handedOver_append_groupAfter {g : Option (List (Sent τ σ))} {s : Sent τ σ}
    (hone : s.record.transactionNum ≠ 1) :
    handedOver g s ++ (groupAfter g s).getD [] = g.getD [] ++ [s] := by
  unfold handedOver groupAfter
  rw [if_neg hone, if_neg hone]
  cases g with
  | none => rfl
  | some recordSet => by_cases h : s.record.transactionNum = s.record.transactionIndex <;> simp [h]

/-! ## §3. What is handed over and what waits. -/

/-- A group holds records that have been read, of its own key and of
transactions of more than one record. -/
theorem collect_group_mem (pre : List (Sent τ σ)) :
    ∀ k, ∀ s ∈ ((collect pre).group k).getD [],
      s ∈ pre ∧ s.key = k ∧ s.record.transactionNum ≠ 1 := by
  induction pre using List.reverseRecOn with
  | nil => intro k s hs; simp [collect, Collector.group] at hs
  | append_singleton pre x ih =>
      intro k s hs
      rw [collect_snoc, (collectTransaction_spec _ x).1 k] at hs
      have old : s ∈ ((collect pre).group k).getD [] →
          s ∈ pre ++ [x] ∧ s.key = k ∧ s.record.transactionNum ≠ 1 := by
        intro h
        obtain ⟨hm, hk, hn⟩ := ih k s h
        exact ⟨List.mem_append_left _ hm, hk, hn⟩
      by_cases hk : k = x.key
      · rw [if_pos hk] at hs
        by_cases hone : x.record.transactionNum = 1
        · rw [groupAfter_single hone] at hs
          exact old hs
        · have hmem : s ∈ ((collect pre).group k).getD [] ++ [x] := by
            rw [← handedOver_append_groupAfter hone]
            exact List.mem_append_right _ hs
          rcases List.mem_append.mp hmem with h | h
          · exact old h
          · obtain rfl : s = x := by simpa using h
            exact ⟨by simp, hk.symm, hone⟩
      · rw [if_neg hk] at hs
        exact old hs

variable [DecidableEq τ]

/-- The records of one transaction, in the order of the sequence. -/
def recordsOf (t : τ) (seq : List (Sent τ σ)) : List (Sent τ σ) :=
  seq.filter (fun s => s.origin = t)

@[simp] theorem mem_recordsOf {t : τ} {seq : List (Sent τ σ)} {s : Sent τ σ} :
    s ∈ recordsOf t seq ↔ s ∈ seq ∧ s.origin = t := by
  simp [recordsOf]

@[simp] theorem recordsOf_append (t : τ) (xs ys : List (Sent τ σ)) :
    recordsOf t (xs ++ ys) = recordsOf t xs ++ recordsOf t ys :=
  List.filter_append xs ys

theorem recordsOf_eq_nil {t : τ} {seq : List (Sent τ σ)} :
    recordsOf t seq = [] ↔ ∀ s ∈ seq, s.origin ≠ t := by
  simp [recordsOf, List.filter_eq_nil_iff]

/-- All records of a transaction carry its line, its id and its size. -/
def SameHeader (t : τ) (seq : List (Sent τ σ)) : Prop :=
  ∀ s ∈ recordsOf t seq, ∀ s' ∈ recordsOf t seq,
    s.key = s'.key ∧ s.record.transactionNum = s'.record.transactionNum

theorem SameHeader.left {t : τ} {xs ys : List (Sent τ σ)} (h : SameHeader t (xs ++ ys)) :
    SameHeader t xs := by
  intro s hs s' hs'
  exact h s (by simp_all) s' (by simp_all)

/-- **Conservation**: what was handed over of a transaction and what waits in
the group of its key are its records so far, in order. -/
theorem collect_conserves {t : τ} {pre : List (Sent τ σ)} (hh : SameHeader t pre)
    {k : UInt32 × UInt32} (hk : ∀ s ∈ recordsOf t pre, s.key = k) :
    recordsOf t (collect pre).processed ++ recordsOf t (((collect pre).group k).getD [])
      = recordsOf t pre := by
  -- on the last record: only the group of its own key moves
  induction pre using List.reverseRecOn with
  | nil => rfl
  | append_singleton pre x ih =>
      have hk' : ∀ s ∈ recordsOf t pre, s.key = k := fun s hs => hk s (by simp_all)
      have ih := ih hh.left hk'
      rw [collect_snoc, (collectTransaction_spec _ x).2, (collectTransaction_spec _ x).1 k,
        recordsOf_append, recordsOf_append, ← ih, List.append_assoc, List.append_assoc,
        List.append_right_inj]
      by_cases hx : k = x.key
      · subst hx
        rw [if_pos rfl]
        by_cases hone : x.record.transactionNum = 1
        · -- a transaction of one record has nothing waiting
          rw [handedOver_single hone, groupAfter_single hone]
          by_cases ho : x.origin = t
          · have hnil : recordsOf t (((collect pre).group x.key).getD []) = [] := by
              rw [recordsOf_eq_nil]
              intro s hs hst
              obtain ⟨hm, -, hn⟩ := collect_group_mem pre x.key s hs
              exact hn ((hh s (by simp [hm, hst]) x (by simp [ho])).2.trans hone)
            rw [hnil]; simp
          · have hnil : recordsOf t [x] = [] := by simp [recordsOf, ho]
            rw [hnil]; simp
        · rw [← recordsOf_append, handedOver_append_groupAfter hone, recordsOf_append]
      · -- the record and what it releases are of another key, hence of other transactions
        rw [if_neg hx]
        have hxo : x.origin ≠ t := fun ho => hx (hk x (by simp [ho])).symm
        have hnil : recordsOf t [x] = [] := by simp [recordsOf, hxo]
        have hout : recordsOf t (handedOver ((collect pre).group x.key) x) = [] := by
          rw [recordsOf_eq_nil]
          intro s hs hst
          have hmem : s = x ∨ s ∈ ((collect pre).group x.key).getD [] := by
            unfold handedOver at hs
            split at hs
            · simp_all
            · split at hs
              · simp at hs
              · split at hs <;> simp_all [or_comm]
          rcases hmem with rfl | hs
          · exact hxo hst
          · obtain ⟨hm, hkey, -⟩ := collect_group_mem pre x.key s hs
            exact hx ((hk' s (by simp [hm, hst])).symm.trans hkey)
        rw [hnil, hout]; simp

/-! ## §4. Sequences of committed transactions. -/

/-- What `PoolImp::commit` makes of every transaction: its records share line,
id and size, and their indexes count up to the size; a request without a
message is counted and not sent, and the cache may not log one, so any may be
missing.  Between the transactions any interleaving is allowed. -/
structure Committed (seq : List (Sent τ σ)) : Prop where
  header : ∀ t, SameHeader t seq
  numbered : ∀ t, (recordsOf t seq).Pairwise fun s s' =>
    s.record.transactionIndex < s'.record.transactionIndex
  bounded : ∀ s ∈ seq, s.record.transactionNum ≠ 1 →
    1 ≤ s.record.transactionIndex ∧ s.record.transactionIndex ≤ s.record.transactionNum

/-- All `transaction_num` records of the transaction occur in the sequence. -/
def Complete (t : τ) (seq : List (Sent τ σ)) : Prop :=
  ∃ s ∈ recordsOf t seq, (recordsOf t seq).length = s.record.transactionNum.toNat

/-- The record carries the last index of its transaction. -/
def Sent.ends (s : Sent τ σ) : Prop :=
  s.record.transactionNum = s.record.transactionIndex

/-- The record with the last index is the last one of its transaction. -/
theorem Committed.nothing_after_end {pre post : List (Sent τ σ)} {s : Sent τ σ}
    (hc : Committed (pre ++ s :: post)) (he : s.ends) (hone : s.record.transactionNum ≠ 1) :
    recordsOf s.origin post = [] := by
  have hnumbered := hc.numbered s.origin
  have hsplit : recordsOf s.origin (pre ++ s :: post)
      = recordsOf s.origin pre ++ s :: recordsOf s.origin post := by
    simp [recordsOf]
  rw [hsplit] at hnumbered
  refine List.eq_nil_iff_forall_not_mem.mpr fun x hx => ?_
  have hlt := (List.pairwise_cons.mp (List.pairwise_append.mp hnumbered).2.1).1 x hx
  -- an index after the last one is none of its transaction
  obtain ⟨hxpost, hxo⟩ := mem_recordsOf.mp hx
  have hsame := (hc.header s.origin x (by rw [hsplit]; simp [hx]) s (by rw [hsplit]; simp)).2
  have hle := (hc.bounded x (by simp [hxpost]) (hsame ▸ hone)).2
  rw [hsame, he] at hle
  exact absurd hle (UInt32.not_le.mpr hlt)

/-- Numbers that count up from `a` or more come to `a` and their count. -/
theorem add_length_le_getLast {l : List Nat} {a : Nat} (h : l.Pairwise (· < ·))
    (ha : ∀ x ∈ l, a ≤ x) (hne : l ≠ []) : a + l.length ≤ l.getLast hne + 1 := by
  induction l generalizing a with
  | nil => exact absurd rfl hne
  | cons x xs ih =>
      obtain ⟨hx, hxs⟩ := List.pairwise_cons.mp h
      have hax := ha x List.mem_cons_self
      by_cases hnil : xs = []
      · subst hnil
        simpa using hax
      · have hlast := ih (a := a + 1) hxs (fun y hy => by have := hx y hy; omega) hnil
        rw [List.getLast_cons hnil, List.length_cons]
        omega

/-- A complete transaction has a record with the last index. -/
theorem Complete.exists_end {t : τ} {seq : List (Sent τ σ)} (hc : Committed seq)
    (ht : Complete t seq) :
    ∃ s ∈ recordsOf t seq, s.record.transactionNum = 1 ∨ s.ends := by
  obtain ⟨s, hs, hlen⟩ := ht
  by_cases hone : s.record.transactionNum = 1
  · exact ⟨s, hs, .inl hone⟩
  have hne : recordsOf t seq ≠ [] := List.ne_nil_of_mem hs
  have hlmem := List.getLast_mem hne
  have hhead := (hc.header t _ hlmem s hs).2
  have hbounds : ∀ x ∈ recordsOf t seq,
      1 ≤ x.record.transactionIndex ∧ x.record.transactionIndex ≤ x.record.transactionNum :=
    fun x hx => hc.bounded x (mem_recordsOf.mp hx).1 ((hc.header t x hx s hs).2 ▸ hone)
  have hsorted : ((recordsOf t seq).map fun x => x.record.transactionIndex.toNat).Pairwise
      (· < ·) := by
    rw [List.pairwise_map]
    exact (hc.numbered t).imp UInt32.lt_iff_toNat_lt.mp
  have hlast := add_length_le_getLast (a := 1) hsorted ?_ (by simpa using hne)
  · refine ⟨_, hlmem, .inr (UInt32.toNat_inj.mp ?_)⟩
    have hle := UInt32.le_iff_toNat_le.mp (hbounds _ hlmem).2
    rw [List.getLast_map, List.length_map, hlen, ← hhead] at hlast
    omega
  · intro n hn
    obtain ⟨x, hx, rfl⟩ := List.mem_map.mp hn
    exact UInt32.le_iff_toNat_le.mp (hbounds x hx).1

/-! ## §5. When every complete transaction is handed over. -/

/-- The record closes the group of the key if one is open. -/
def Sent.closes (k : UInt32 × UInt32) (s : Sent τ σ) : Prop :=
  s.key = k ∧ s.record.transactionNum ≠ 1 ∧ s.ends

instance (k : UInt32 × UInt32) (s : Sent τ σ) : Decidable (s.closes k) := by
  unfold Sent.closes Sent.ends; infer_instance

/-- Whether a group of the key is open after the records `pre`: a record that
finds none opens one, and one that finds it and carries the last index closes it. -/
def openAfter (k : UInt32 × UInt32) (pre : List (Sent τ σ)) : Bool :=
  pre.foldl
    (fun isOpen s =>
      if s.key = k ∧ s.record.transactionNum ≠ 1 then !(isOpen && decide (s.closes k))
      else isOpen) false

/-- **No record that ends a complete transaction is left waiting**: it closes the
group that an earlier record opened, or a later record closes the one it opens. -/
def LastCloses (seq : List (Sent τ σ)) : Prop :=
  ∀ pre s post, seq = pre ++ s :: post → s.ends → s.record.transactionNum ≠ 1 →
    Complete s.origin seq →
      openAfter s.key pre = true ∨ ∃ c ∈ post, c.closes s.key

omit [DecidableEq τ] in
theorem openAfter_eq (k : UInt32 × UInt32) (pre : List (Sent τ σ)) :
    openAfter k pre = ((collect pre).group k).isSome := by
  induction pre using List.reverseRecOn with
  | nil => rfl
  | append_singleton pre x ih =>
      rw [collect_snoc, (collectTransaction_spec _ x).1 k]
      unfold openAfter at ih ⊢
      rw [List.foldl_append, ih, List.foldl_cons, List.foldl_nil]
      by_cases hk : x.key = k
      · subst hk
        by_cases hone : x.record.transactionNum = 1
        · simp [groupAfter_single hone, hone]
        · cases hg : (collect pre).group x.key with
          | none => simp [groupAfter, hone]
          | some recordSet =>
              by_cases hl : x.record.transactionNum = x.record.transactionIndex
              · simp [groupAfter, hl, Sent.closes, Sent.ends]
                simp [← hl, hone]
              · simp [groupAfter, hone, hl, Sent.closes, Sent.ends]
      · simp [hk, Ne.symm hk]

/-- Once nothing of a transaction waits and none of its records follow, nothing
of it waits later. -/
theorem group_stays_without {t : τ} {k : UInt32 × UInt32} {pre : List (Sent τ σ)}
    (post : List (Sent τ σ))
    (hpre : recordsOf t (((collect pre).group k).getD []) = [])
    (hpost : recordsOf t post = []) :
    recordsOf t (((collect (pre ++ post)).group k).getD []) = [] := by
  induction post using List.reverseRecOn with
  | nil => simpa using hpre
  | append_singleton post x ih =>
      rw [recordsOf_append, List.append_eq_nil_iff] at hpost
      have ih := ih hpost.1
      rw [← List.append_assoc, collect_snoc, (collectTransaction_spec _ x).1 k]
      by_cases hk : k = x.key
      · subst hk
        rw [if_pos rfl]
        by_cases hone : x.record.transactionNum = 1
        · rw [groupAfter_single hone]; exact ih
        · have h := congrArg (recordsOf t) (handedOver_append_groupAfter
            (g := (collect (pre ++ post)).group x.key) hone)
          rw [recordsOf_append, recordsOf_append, ih, hpost.2] at h
          exact (List.append_eq_nil_iff.mp h).2
      · rw [if_neg hk]; exact ih

omit [DecidableEq τ] in
/-- A waiting record waits on as long as no record closes its group. -/
theorem group_keeps_waiting {k : UInt32 × UInt32} {pre : List (Sent τ σ)}
    (post : List (Sent τ σ)) {s : Sent τ σ}
    (hs : s ∈ ((collect pre).group k).getD []) (hpost : ∀ c ∈ post, ¬ c.closes k) :
    s ∈ ((collect (pre ++ post)).group k).getD [] := by
  induction post using List.reverseRecOn with
  | nil => simpa using hs
  | append_singleton post x ih =>
      have ih := ih fun c hc => hpost c (List.mem_append_left _ hc)
      have hx := hpost x (by simp)
      rw [← List.append_assoc, collect_snoc, (collectTransaction_spec _ x).1 k]
      by_cases hk : k = x.key
      · subst hk
        rw [if_pos rfl]
        by_cases hone : x.record.transactionNum = 1
        · rw [groupAfter_single hone]; exact ih
        · have hl : x.record.transactionNum ≠ x.record.transactionIndex :=
            fun h => hx ⟨rfl, hone, h⟩
          cases hg : (collect (pre ++ post)).group x.key with
          | none => rw [hg] at ih; simp at ih
          | some recordSet =>
              rw [hg] at ih
              simp only [groupAfter, if_neg hone, if_neg hl, Option.getD_some] at ih ⊢
              exact List.mem_append_left _ ih
      · rw [if_neg hk]; exact ih

/-- A transaction is handed over exactly when nothing of it waits. -/
theorem handed_over_iff_nothing_waits {t : τ} {seq : List (Sent τ σ)} (hh : SameHeader t seq)
    {k : UInt32 × UInt32} (hk : ∀ s ∈ recordsOf t seq, s.key = k) :
    recordsOf t (collect seq).processed = recordsOf t seq ↔
      recordsOf t (((collect seq).group k).getD []) = [] := by
  rw [← collect_conserves hh hk]
  exact List.self_eq_append_right

/-- After the record that closes, nothing of the transactions it ends waits. -/
theorem nothing_waits_after_close {t : τ} {k : UInt32 × UInt32} (pre : List (Sent τ σ))
    {c : Sent τ σ} (hc : c.closes k)
    (h : openAfter k pre = true ∨ c.origin ≠ t) :
    recordsOf t (((collect (pre ++ [c])).group k).getD []) = [] := by
  obtain ⟨rfl, hone, hl⟩ := hc
  rw [Sent.ends] at hl
  rw [collect_snoc, (collectTransaction_spec _ c).1 c.key, if_pos rfl]
  rw [openAfter_eq] at h
  cases hg : (collect pre).group c.key with
  | none =>
      have hne : c.origin ≠ t := by simpa [hg] using h
      simp [groupAfter, hone, recordsOf, hne]
  | some recordSet => simp [groupAfter, if_neg hone, if_pos hl, recordsOf]

/-- **Exactness of the collector**: for every interleaving of committed
transactions, each complete one is handed to `processRecord` exactly once and
in order if and only if `LastCloses` holds of the sequence. -/
theorem complete_handed_over_iff (seq : List (Sent τ σ)) (hc : Committed seq) :
    (∀ t, Complete t seq → recordsOf t (collect seq).processed = recordsOf t seq) ↔
      LastCloses seq := by
  constructor
  -- otherwise the last record would wait for good
  · intro h pre s post hseq he hone hcomp
    subst hseq
    have hkey : ∀ x ∈ recordsOf s.origin (pre ++ s :: post), x.key = s.key :=
      fun x hx => (hc.header s.origin x hx s (by simp)).1
    have hwait := (handed_over_iff_nothing_waits (hc.header _) hkey).mp (h _ hcomp)
    by_contra hno
    rw [not_or, Bool.not_eq_true, openAfter_eq] at hno
    obtain ⟨hopen, hclose⟩ := hno
    have hnone : (collect pre).group s.key = none := by simpa using hopen
    have hs : s ∈ ((collect (pre ++ [s])).group s.key).getD [] := by
      rw [collect_snoc, (collectTransaction_spec _ s).1 s.key, if_pos rfl, hnone]
      simp [groupAfter, hone]
    have hstay := group_keeps_waiting post hs fun c hcm hcc => hclose ⟨c, hcm, hcc⟩
    rw [List.append_assoc] at hstay
    have : s ∈ recordsOf s.origin
        (((collect (pre ++ [s] ++ post)).group s.key).getD []) := by
      simpa using hstay
    rw [List.append_assoc, List.singleton_append, hwait] at this
    exact List.not_mem_nil this
  · intro h t ht
    obtain ⟨s, hs, he⟩ := ht.exists_end hc
    obtain ⟨hmem, rfl⟩ := mem_recordsOf.mp hs
    have hkey : ∀ x ∈ recordsOf s.origin seq, x.key = s.key :=
      fun x hx => (hc.header s.origin x hx s hs).1
    rw [handed_over_iff_nothing_waits (hc.header _) hkey]
    by_cases hone : s.record.transactionNum = 1
    · rw [recordsOf_eq_nil]
      intro x hx ho
      obtain ⟨hxm, -, hxn⟩ := collect_group_mem seq s.key x hx
      exact hxn ((hc.header s.origin x (by simp [hxm, ho]) s hs).2.trans hone)
    have he := he.resolve_left hone
    obtain ⟨pre, post, rfl⟩ := List.append_of_mem hmem
    have hpost := hc.nothing_after_end he hone
    -- the group is closed by the last record itself, or by a later one of its key
    rcases h pre s post rfl he hone ht with hopen | ⟨c, hcm, hcc⟩
    · have := group_stays_without post
        (nothing_waits_after_close pre ⟨rfl, hone, he⟩ (.inl hopen)) hpost
      simpa using this
    · obtain ⟨a, b, rfl⟩ := List.append_of_mem hcm
      have hco : c.origin ≠ s.origin := recordsOf_eq_nil.mp hpost c hcm
      have hb : recordsOf s.origin b = [] := by
        rw [recordsOf_eq_nil] at hpost ⊢
        exact fun x hx => hpost x (by simp [hx])
      have := group_stays_without b
        (nothing_waits_after_close (pre ++ s :: a) hcc (.inr hco)) hb
      simpa using this

/-- The record with number `index` of a transaction of `num` records, line 1, id 1. -/
def numberedRecord (index num : UInt32) : Record Unit :=
  { stream := (), transactionIndex := index, transactionNum := num, transactionId := 1,
    lineId := 1 }

/-- Two pools whose first transactions come one after the other: no record is
left waiting. -/
theorem complete_handed_over_in_turn :
    let seq : List (Sent Bool Unit) :=
      [⟨true, numberedRecord 1 2⟩, ⟨true, numberedRecord 2 2⟩,
       ⟨false, numberedRecord 1 2⟩, ⟨false, numberedRecord 2 2⟩]
    LastCloses seq := by
  intro seq
  refine (complete_handed_over_iff seq ⟨?_, by decide, by decide⟩).mp ?_
  · unfold SameHeader; decide
  · intro t _
    cases t <;> decide

/-- **A complete transaction is stranded**: while a transaction of three records
is collected, a shorter one of another pool under the same key closes the
group; the third record then opens a group that nobody closes. -/
theorem complete_transaction_stranded :
    ¬ ∀ seq : List (Sent Bool Unit), Committed seq →
      ∀ t, Complete t seq → recordsOf t (collect seq).processed = recordsOf t seq := by
  intro h
  have hlost := h
    [⟨true, numberedRecord 1 3⟩, ⟨true, numberedRecord 2 3⟩,
     ⟨false, numberedRecord 1 2⟩, ⟨false, numberedRecord 2 2⟩,
     ⟨true, numberedRecord 3 3⟩]
    ⟨by unfold SameHeader; decide, by decide, by decide⟩ true (by unfold Complete; decide)
  exact absurd hlost (by decide)

end Steppingstone.Converter
