/-
  Steppingstone.Cached.ReadYourWrites — a load returns the last write.

  Every step changes the view of one guid at most (`Cached.View`), so the
  whole server stays coherent; what is added here are the loads under way and
  the time stamps.
-/
import Steppingstone.Cached.View
import Steppingstone.Lib.Lookup

namespace Steppingstone.Cached

open Std (TreeMap)
open Converter (Record RecordType Database writeRecordToDb rowAfter)

variable {μ : Type}

/-! ## §1. The property. -/

/-- A reply that reports the value, or that there is none. -/
def Reply.Returns (r : Reply μ) : Option μ → Prop
  | some v => r.status = .normal ∧ r.message = .value v
  | none => r.status = .entityNotFound

/-- **Read your writes**: each answered load returns what was last written
when it was handled. -/
def ReadYourWrites (s : Server μ) : Prop :=
  ∀ r ∈ s.replies, r.request.opcode = .loadEntity ∨ r.request.opcode = .loadEntityOnce →
    r.Returns r.request.expected

/-- The packets the claim is about: those that write a value carry one. -/
def CarriesEntity : Action μ → Prop
  | .packet info => (info.opcode = .newEntity ∨ info.opcode = .newEntityWithFlush ∨
      info.opcode = .flushEntity) → info.entityMsg.isSome = true
  | _ => True

/-- The view of one guid. -/
def Server.view (s : Server μ) (guid : UInt64) : View μ where
  entity := s.entityMap[guid]?
  expired := s.lruMap[guid]?
  pending := s.recordSet.filter (fun r => r.objectGuid = guid)
  row := s.database guid
  written := s.lastWrite guid

instance : (a : Action μ) → Decidable (CarriesEntity a)
  | .packet info => inferInstanceAs (Decidable (info.opcode = .newEntity ∨
      info.opcode = .newEntityWithFlush ∨ info.opcode = .flushEntity →
      info.entityMsg.isSome = true))
  | .dbLoadReplay | .loader _ | .convert | .ack _ => inferInstanceAs (Decidable True)

/-- What a packet needs of its guid: a new entity is not in the entity map, nor,
if it is flushed at once, going to be in the database; an updated one is in the
map; one that is only dropped is in the database as it is in the map. -/
def OrderlyPacket (v : View μ) (hasEntity : Bool) : Opcode → Prop
  | .newEntity => v.entity = none
  | .newEntityWithFlush => v.entity = none ∧ v.settled = none
  | .updateEntity => hasEntity = true → v.entity.isSome = true
  | .onlyRemoveEntity => v.entity.isSome = true →
      v.found.isNone = true ∧ v.pending.isEmpty = true ∧ v.row = v.entity.map some
  | _ => True

/-- The condition on a step.  Beyond that of the packets: the loader reads a guid
that was not written since the load, and not while a removal of a present row is
pending; and a loaded entity enters the map only if it is not there and was not
written since. -/
def Orderly (s : Server μ) : Action μ → Prop
  | .packet info => OrderlyPacket (s.view info.guid) info.entityMsg.isSome info.opcode
  | .loader i => ∀ info ∈ s.dataReqInfoVec[i]?, info.overtaken = false ∧
      ((∃ r ∈ (s.view info.guid).pending, r.optype = .remove) →
        (s.database info.guid).isNone = true)
  | .dbLoadReplay => ∀ info ∈ s.dbLoadReplayVec.head?, info.opcode = .loadEntity →
      info.entityMsg.isSome = true →
      info.overtaken = false ∧ (s.view info.guid).entity.isNone = true
  | _ => True

instance [DecidableEq μ] (v : View μ) (hasEntity : Bool) :
    (op : Opcode) → Decidable (OrderlyPacket v hasEntity op)
  | .newEntity => inferInstanceAs (Decidable (v.entity = none))
  | .newEntityWithFlush => inferInstanceAs (Decidable (v.entity = none ∧ v.settled = none))
  | .updateEntity => inferInstanceAs (Decidable (hasEntity = true → v.entity.isSome = true))
  | .onlyRemoveEntity => inferInstanceAs (Decidable (v.entity.isSome = true →
      v.found.isNone = true ∧ v.pending.isEmpty = true ∧ v.row = v.entity.map some))
  | .loadEntity | .flushEntity | .removeEntity | .loadEntityOnce => inferInstanceAs (Decidable True)

instance [DecidableEq μ] (s : Server μ) : (a : Action μ) → Decidable (Orderly s a)
  | .packet info => inferInstanceAs
      (Decidable (OrderlyPacket (s.view info.guid) info.entityMsg.isSome info.opcode))
  | .loader i => inferInstanceAs (Decidable (∀ info ∈ s.dataReqInfoVec[i]?,
      info.overtaken = false ∧ ((∃ r ∈ (s.view info.guid).pending, r.optype = .remove) →
        (s.database info.guid).isNone = true)))
  | .dbLoadReplay => inferInstanceAs (Decidable (∀ info ∈ s.dbLoadReplayVec.head?,
      info.opcode = .loadEntity → info.entityMsg.isSome = true →
      info.overtaken = false ∧ (s.view info.guid).entity.isNone = true))
  | .convert => inferInstanceAs (Decidable True)
  | .ack _ => inferInstanceAs (Decidable True)

/-! ## §2. The invariant. -/

/-- A load that waits for the loader. -/
def Waiting (s : Server μ) (info : DataRequestInfo μ) : Prop :=
  info.overtaken = false → info.expected = s.lastWrite info.guid ∧ (s.view info.guid).Settled

/-- A load that the loader has answered. -/
def Loaded (s : Server μ) (info : DataRequestInfo μ) : Prop :=
  info.entityMsg = info.expected ∧ (info.overtaken = false →
    info.expected = s.lastWrite info.guid ∧
    (s.view info.guid).settled = (s.lastWrite info.guid).map some)

/-- Records are in the order of their time stamps, and acknowledgements are older. -/
structure InTime (s : Server μ) : Prop where
  ordered : s.recordSet.Pairwise (fun a b => a.lastModifyTime < b.lastModifyTime)
  past : ∀ r ∈ s.recordSet, r.lastModifyTime ≤ s.clock
  acks : ∀ a ∈ s.acks, ∀ r ∈ s.recordSet, a.2 < r.lastModifyTime
  ackPast : ∀ a ∈ s.acks, a.2 ≤ s.clock

/-- **The invariant** of orderly runs. -/
structure Coherent (s : Server μ) : Prop where
  view : ∀ g, (s.view g).Coherent
  waiting : ∀ info ∈ s.dataReqInfoVec, Waiting s info
  loaded : ∀ info ∈ s.dbLoadReplayVec, Loaded s info
  inTime : InTime s
  answered : ReadYourWrites s

/-! ## §3. Views after the operations of the maps. -/

section Maps

variable (s : Server μ) (g g' : UInt64)

theorem getElem?_free (m : ExpiredItemMap μ) :
    (m.free g)[g']? = if g' = g then View.freeItem (m[g]?) else m[g']? := by
  unfold ExpiredItemMap.free View.freeItem
  by_cases h : g' = g
  · subst h
    rcases hm : m[g']? with _ | x
    · simp [hm]
    · cases huse : x.inUse <;> cases hitem : x.item <;> simp [huse, hitem, hm]
  · have hne : g ≠ g' := Ne.symm h
    rcases hm : m[g]? with _ | x
    · simp [h]
    · simp only [h, if_false]
      split
      · simp [TreeMap.getElem?_insert, hne]
      · rfl

theorem getElem?_update (m : ExpiredItemMap μ) (item : Option μ) (t : UInt64) :
    (m.update g item t)[g']? =
      if g' = g then some { lastModifyTime := t, inUse := false, item := item.elim .null .valid }
      else m[g']? := by
  unfold ExpiredItemMap.update
  exact Lookup.getElem?_insert m g g' _

theorem getElem?_updateToDelete (m : ExpiredItemMap μ) :
    (m.updateToDelete g)[g']? = if g' = g then View.deleteItem (m[g]?) else m[g']? := by
  unfold ExpiredItemMap.updateToDelete View.deleteItem
  by_cases h : g' = g
  · subst h
    rcases hm : m[g']? with _ | x
    · simp [hm]
    · simp
  · have hne : g ≠ g' := Ne.symm h
    rcases hm : m[g]? with _ | x
    · simp [h]
    · simp [TreeMap.getElem?_insert, h, hne]

theorem getElem?_remove (m : ExpiredItemMap μ) (t : UInt64) :
    (m.remove g t)[g']? = if g' = g then View.expireItem t (m[g]?) else m[g']? := by
  unfold ExpiredItemMap.remove View.expireItem
  by_cases h : g' = g
  · subst h
    rcases hm : m[g']? with _ | x
    · simp [hm]
    · by_cases huse : x.inUse = true
      · simp [huse]
      · by_cases ht : t = x.lastModifyTime
        · simp [huse, ht]
        · simp [huse, ht, hm]
  · have hne : g ≠ g' := Ne.symm h
    rcases hm : m[g]? with _ | x
    · simp [h]
    · by_cases huse : x.inUse = true
      · simp [huse, h, TreeMap.getElem?_erase, hne]
      · by_cases ht : t = x.lastModifyTime
        · simp [huse, ht, h, TreeMap.getElem?_erase, hne]
        · simp [huse, ht, h]

/-- A query finds what the view has. -/
theorem query_eq_found : s.lruMap.query g = (s.view g).found := by
  unfold ExpiredItemMap.query Server.view View.found
  rcases s.lruMap[g]? with _ | x
  · rfl
  · cases hx : x.isDelete <;> simp [hx, Option.filter]

theorem getElem?_lend (m : ExpiredItemMap μ) {x : ExpiredItem μ} (hx : m.query g = some x) :
    (m.lend g)[g']? = if g' = g then some { x with inUse := true } else m[g']? := by
  unfold ExpiredItemMap.lend
  rw [hx]
  by_cases h : g' = g
  · simp [h]
  · have hne : g ≠ g' := Ne.symm h
    simp [TreeMap.getElem?_insert, h, hne]

end Maps

/-! ## §4. Steps that write nothing. -/

/-- What a waiting or a loaded request relies on. -/
theorem waiting_congr {s s' : Server μ} (hrec : s'.recordSet = s.recordSet)
    (hdb : s'.database = s.database) (hw : s'.lastWrite = s.lastWrite)
    {info : DataRequestInfo μ} (h : Waiting s info) : Waiting s' info := by
  intro hno
  obtain ⟨hexp, hrow, hends⟩ := h hno
  refine ⟨hexp.trans (congrFun hw _).symm, ?_, ?_⟩
  · unfold View.settled Server.view at hrow ⊢
    rw [hrec, hdb, hw]
    exact hrow
  · unfold Server.view at hends ⊢
    rw [hrec]
    exact hends

/-- A load depends on the records, the database and the last write. -/
theorem loaded_congr {s s' : Server μ} (hrec : s'.recordSet = s.recordSet)
    (hdb : s'.database = s.database) (hw : s'.lastWrite = s.lastWrite)
    {info : DataRequestInfo μ} (h : Loaded s info) : Loaded s' info := by
  refine ⟨h.1, ?_⟩
  intro hno
  obtain ⟨hexp, hrow⟩ := h.2 hno
  refine ⟨hexp.trans (congrFun hw _).symm, ?_⟩
  unfold View.settled Server.view at hrow ⊢
  rw [hrec, hdb, hw]
  exact hrow

/-- **Frame rule** for the steps that leave the log, the database and the last
writes alone. -/
theorem Coherent.frame {s s' : Server μ} (h : Coherent s) (hrec : s'.recordSet = s.recordSet)
    (hdb : s'.database = s.database) (hw : s'.lastWrite = s.lastWrite)
    (hacks : ∀ a ∈ s'.acks, a ∈ s.acks) (hclock : s.clock ≤ s'.clock)
    (hview : ∀ g, (s'.view g).Coherent) (hwait : ∀ i ∈ s'.dataReqInfoVec, Waiting s i)
    (hload : ∀ i ∈ s'.dbLoadReplayVec, Loaded s i) (hans : ReadYourWrites s') :
    Coherent s' where
  view := hview
  waiting i hi := waiting_congr hrec hdb hw (hwait i hi)
  loaded i hi := loaded_congr hrec hdb hw (hload i hi)
  inTime := by
    obtain ⟨hord, hpast, hack, hackPast⟩ := h.inTime
    refine ⟨?_, ?_, ?_, ?_⟩
    · rw [hrec]
      exact hord
    · rw [hrec]
      intro r hr
      exact UInt64.le_trans (hpast r hr) hclock
    · rw [hrec]
      intro a ha
      exact hack a (hacks a ha)
    · intro a ha
      exact UInt64.le_trans (hackPast a (hacks a ha)) hclock
  answered := hans

/-- One more reply keeps the property if it is right. -/
theorem readYourWrites_append {s s' : Server μ} (h : ReadYourWrites s) {r : Reply μ}
    (hrep : s'.replies = s.replies ++ [r])
    (hr : r.request.opcode = .loadEntity ∨ r.request.opcode = .loadEntityOnce →
      r.Returns r.request.expected) : ReadYourWrites s' := by
  intro x hx
  rw [hrep] at hx
  rcases List.mem_append.mp hx with hx | hx
  · exact h x hx
  · obtain rfl := List.mem_singleton.mp hx
    exact hr

/-- The clock alone. -/
theorem Coherent.tick {s : Server μ} (h : Coherent s) {t : UInt64} (ht : s.clock < t) :
    Coherent { s with clock := t } :=
  h.frame rfl rfl rfl (fun _ ha => ha) (UInt64.le_of_lt ht) h.view h.waiting h.loaded h.answered

/-- A right reply and nothing else. -/
theorem Coherent.reply {s : Server μ} (h : Coherent s) (info : DataRequestInfo μ)
    (status : Status) (message : Content μ)
    (hr : info.opcode = .loadEntity ∨ info.opcode = .loadEntityOnce →
      (Reply.mk info status message).Returns info.expected) :
    Coherent (s.reply info status message) := by
  refine h.frame rfl rfl rfl (fun _ ha => ha) (UInt64.le_refl _) h.view h.waiting h.loaded ?_
  exact readYourWrites_append h.answered rfl hr

/-- The view of a server whose entity map and expired table changed at one guid. -/
theorem view_of_maps {s t : Server μ} (g : UInt64) (entity : Option μ)
    (expired : Option (ExpiredItem μ)) (hrec : t.recordSet = s.recordSet)
    (hdb : t.database = s.database) (hw : t.lastWrite = s.lastWrite)
    (hent : ∀ g', t.entityMap[g']? = if g' = g then entity else s.entityMap[g']?)
    (hexp : ∀ g', t.lruMap[g']? = if g' = g then expired else s.lruMap[g']?) (g' : UInt64) :
    t.view g' = if g' = g then { s.view g with entity := entity, expired := expired }
      else s.view g' := by
  unfold Server.view
  rw [hent, hexp, hrec, hdb, hw]
  by_cases h : g' = g
  · subst h
    simp
  · simp [h]

/-- A view that changes at one guid. -/
theorem coherent_view_of_ite {s s' : Server μ} (h : Coherent s) {g : UInt64} {v : View μ}
    (hv : v.Coherent) (hview : ∀ g', s'.view g' = if g' = g then v else s.view g') :
    ∀ g', (s'.view g').Coherent := by
  intro g'
  rw [hview]
  split
  · exact hv
  · exact h.view g'

/-! ## §5. Loads. -/

/-- Does the request load? -/
def IsLoad (info : DataRequestInfo μ) : Prop :=
  info.opcode = .loadEntity ∨ info.opcode = .loadEntityOnce

/-- The load's guid is nowhere in the cache: it goes to the loader. -/
theorem coherent_process {s : Server μ} (h : Coherent s) {info : DataRequestInfo μ}
    (hexp : info.expected = s.lastWrite info.guid) (he : s.entityMap[info.guid]? = none)
    (hf : (s.view info.guid).found = none) : Coherent (s.process info) := by
  refine h.frame rfl rfl rfl (fun _ ha => ha) (UInt64.le_refl _) h.view ?_ h.loaded h.answered
  intro i hi
  rcases List.mem_append.mp hi with hi | hi
  · exact h.waiting i hi
  · obtain rfl := List.mem_singleton.mp hi
    intro _
    have hv := h.view i.guid
    exact ⟨hexp, hv.absent he, hv.converted he hf⟩

/-- The entity map answers with the last write. -/
theorem coherent_reply_live {s : Server μ} (h : Coherent s) {info : DataRequestInfo μ} {v : μ}
    (hexp : info.expected = s.lastWrite info.guid) (he : s.entityMap[info.guid]? = some v) :
    Coherent (s.replayLoad info (.valid v)) := by
  refine h.reply info .normal (.value v) ?_
  intro _
  obtain ⟨hw, -⟩ := (h.view info.guid).live v he
  have hw' : s.lastWrite info.guid = some v := hw
  rw [hexp, hw']
  exact ⟨rfl, rfl⟩

/-- A load keeps it coherent. -/
theorem coherent_handleLoadEntity {s : Server μ} (h : Coherent s) {info : DataRequestInfo μ}
    (hexp : info.expected = s.lastWrite info.guid) : Coherent (s.handleLoadEntity info) := by
  unfold Server.handleLoadEntity
  rcases he : s.entityMap[info.guid]? with _ | v
  · dsimp only
    rcases hq : s.lruMap.query info.guid with _ | x
    · exact coherent_process h hexp he (by rw [← query_eq_found]; exact hq)
    · -- the item is lent to the entity map
      have hf : (s.view info.guid).found = some x := by
        rw [← query_eq_found]
        exact hq
      obtain ⟨-, ⟨v, hv, hw⟩, -⟩ := (h.view info.guid).expired x he hf
      have hw' : s.lastWrite info.guid = some v := hw
      have hadd : ({ s with lruMap := s.lruMap.lend info.guid } : Server μ).addEntity (some v)
          info.guid = ({ s with
            lruMap := s.lruMap.lend info.guid
            entityMap := s.entityMap.insert info.guid v }, true) := by
        unfold Server.addEntity
        simp only [he]
      simp only [hv, hadd]
      have hview := view_of_maps (s := s)
        (t := { s with
          lruMap := s.lruMap.lend info.guid
          entityMap := s.entityMap.insert info.guid v })
        info.guid (some v) (some { x with inUse := true }) rfl rfl rfl
        (fun g' => Lookup.getElem?_insert s.entityMap info.guid g' v)
        (fun g' => getElem?_lend info.guid g' s.lruMap hq)
      refine h.frame rfl rfl rfl (fun _ ha => ha) (UInt64.le_refl _) ?_ h.waiting h.loaded ?_
      · exact coherent_view_of_ite h ((h.view info.guid).lend he hf hv) hview
      · refine readYourWrites_append h.answered rfl ?_
        intro _
        show Reply.Returns _ info.expected
        rw [hexp, hw']
        exact ⟨rfl, rfl⟩
  · exact coherent_reply_live h hexp he

theorem coherent_handleLoadEntityOnce {s : Server μ} (h : Coherent s)
    {info : DataRequestInfo μ} (hexp : info.expected = s.lastWrite info.guid) :
    Coherent (s.handleLoadEntityOnce info) := by
  unfold Server.handleLoadEntityOnce
  rcases he : s.entityMap[info.guid]? with _ | v
  · dsimp only
    rcases hq : s.lruMap.query info.guid with _ | x
    · exact coherent_process h hexp he (by rw [← query_eq_found]; exact hq)
    · have hf : (s.view info.guid).found = some x := by
        rw [← query_eq_found]
        exact hq
      obtain ⟨-, ⟨v, hv, hw⟩, -⟩ := (h.view info.guid).expired x he hf
      have hw' : s.lastWrite info.guid = some v := hw
      simp only [hv]
      refine h.reply info .normal (.value v) ?_
      intro _
      rw [hexp, hw']
      exact ⟨rfl, rfl⟩
  · exact coherent_reply_live h hexp he

/-- **The loader reads the last write.** -/
theorem coherent_loader {s : Server μ} (h : Coherent s) {i : Nat} {info : DataRequestInfo μ}
    (hi : s.dataReqInfoVec[i]? = some info) (hno : info.overtaken = false)
    (hrow : (∃ r ∈ (s.view info.guid).pending, r.optype = .remove) →
      s.database info.guid = none) :
    Coherent (Server.handleLoadRequest
      { s with dataReqInfoVec := s.dataReqInfoVec.eraseIdx i } info) := by
  have hmem : info ∈ s.dataReqInfoVec := List.mem_of_getElem? hi
  obtain ⟨hexp, hset⟩ := h.waiting info hmem hno
  refine h.frame rfl rfl rfl (fun _ ha => ha) (UInt64.le_refl _) h.view ?_ ?_ h.answered
  · intro x hx
    exact h.waiting x (List.mem_of_mem_eraseIdx hx)
  · intro x hx
    rcases List.mem_append.mp hx with hx | hx
    · exact h.loaded x hx
    · obtain rfl := List.mem_singleton.mp hx
      refine ⟨?_, fun _ => ⟨hexp, hset.row⟩⟩
      show (s.database info.guid).join = info.expected
      rw [hexp]
      exact View.row_of_settled hset hrow

/-- **The loader's result is taken in.** -/
theorem coherent_handleDbLoad {s : Server μ} (h : Coherent s) {info : DataRequestInfo μ}
    {rest : List (DataRequestInfo μ)} (hq : s.dbLoadReplayVec = info :: rest)
    (hadd : info.opcode = .loadEntity → info.entityMsg.isSome = true →
      info.overtaken = false ∧ s.entityMap[info.guid]? = none) :
    Coherent (Server.handleDbLoad { s with dbLoadReplayVec := rest } info) := by
  obtain ⟨hmsg, hfresh⟩ := h.loaded info (by rw [hq]; exact List.mem_cons_self ..)
  have hrest : ∀ x ∈ rest, Loaded s x := fun x hx =>
    h.loaded x (by rw [hq]; exact List.mem_cons_of_mem _ hx)
  have h0 : Coherent { s with dbLoadReplayVec := rest } :=
    h.frame rfl rfl rfl (fun _ ha => ha) (UInt64.le_refl _) h.view h.waiting hrest h.answered
  unfold Server.handleDbLoad
  -- the row was absent, or the loader has brought its value
  rcases hm : info.entityMsg with _ | v
  · refine h0.reply info .entityNotFound .empty ?_
    intro _
    rw [← hmsg, hm]
    rfl
  · have hret : (Reply.mk info .normal (.value v)).Returns info.expected := by
      rw [← hmsg, hm]
      exact ⟨rfl, rfl⟩
    by_cases hop : info.opcode = .loadEntity
    · obtain ⟨hno, he⟩ := hadd hop (by rw [hm]; rfl)
      obtain ⟨hexp, hset⟩ := hfresh hno
      have hw : s.lastWrite info.guid = some v := by rw [← hexp, ← hmsg, hm]
      have haddEntity : ({ s with dbLoadReplayVec := rest } : Server μ).addEntity (some v)
          info.guid = ({ s with
            dbLoadReplayVec := rest
            entityMap := s.entityMap.insert info.guid v }, true) := by
        unfold Server.addEntity
        simp only [he]
      simp only [hop, haddEntity]
      have hview := view_of_maps (s := s)
        (t := { s with
          dbLoadReplayVec := rest
          entityMap := s.entityMap.insert info.guid v })
        info.guid (some v) (s.lruMap[info.guid]?) rfl rfl rfl
        (fun g' => Lookup.getElem?_insert s.entityMap info.guid g' v)
        (by intro g'; by_cases hg : g' = info.guid <;> simp [hg])
      refine h.frame rfl rfl rfl (fun _ ha => ha) (UInt64.le_refl _) ?_ h.waiting hrest ?_
      · exact coherent_view_of_ite h ((h.view info.guid).load hw hset) hview
      · exact readYourWrites_append h.answered rfl (fun _ => hret)
    -- a once-load is answered, and the entity map is left alone
    · by_cases honce : info.opcode = .loadEntityOnce
      · simp only [honce]
        exact h0.reply info .normal (.value v) (fun _ => hret)
      · dsimp only
        split
        · contradiction
        · contradiction
        · exact h0

/-! ## §6. Writes. -/

/-- The record that `writeRecord` logs. -/
def recordOf (info : DataRequestInfo μ) (optype : RecordType) : Record (Option μ) :=
  { objectGuid := info.guid, ownerGuid := info.ownerGuid, stream := info.entityMsg, optype,
    lastModifyTime := info.lastModifyTime, transactionIndex := info.transactionIndex,
    transactionNum := info.transactionNum, transactionId := info.transactionId,
    lineId := info.lineId }

/-- What every write answered with NORMAL has done to the server. -/
structure Written (s t : Server μ) (info : DataRequestInfo μ) (optype : RecordType)
    (w : Option μ) : Prop where
  record : t.recordSet = s.recordSet ++ [recordOf info optype]
  database : t.database = s.database
  acks : t.acks = s.acks
  clock : t.clock = info.lastModifyTime
  lastWrite : t.lastWrite = Function.update s.lastWrite info.guid w
  waiting : t.dataReqInfoVec = Server.overtake info.guid s.dataReqInfoVec
  loaded : t.dbLoadReplayVec = Server.overtake info.guid s.dbLoadReplayVec
  replies : t.replies = s.replies ++ [⟨info, .normal, .empty⟩]

theorem mem_overtake {g : UInt64} {l : List (DataRequestInfo μ)} {i : DataRequestInfo μ}
    (hi : i ∈ Server.overtake g l) :
    ∃ j ∈ l, i = { j with overtaken := i.overtaken } ∧
      (i.overtaken = false → i = j ∧ i.guid ≠ g) := by
  unfold Server.overtake at hi
  obtain ⟨j, hj, rfl⟩ := List.mem_map.mp hi
  refine ⟨j, hj, ?_⟩
  split
  · exact ⟨rfl, fun h => by cases h⟩
  · next hne => exact ⟨rfl, fun _ => ⟨rfl, hne⟩⟩

/-- The view of the written guid and of the others. -/
theorem view_of_written {s s' : Server μ} {info : DataRequestInfo μ} {optype : RecordType}
    {w : Option μ} (hw : Written s s' info optype w) (entity : Option μ)
    (expired : Option (ExpiredItem μ))
    (hent : ∀ g', s'.entityMap[g']? = if g' = info.guid then entity else s.entityMap[g']?)
    (hexp : ∀ g', s'.lruMap[g']? = if g' = info.guid then expired else s.lruMap[g']?)
    (g' : UInt64) :
    s'.view g' = if g' = info.guid then
        { s.view info.guid with
          entity := entity
          expired := expired
          pending := (s.view info.guid).pending ++ [recordOf info optype]
          written := w }
      else s.view g' := by
  unfold Server.view
  rw [hent, hexp, hw.record, hw.database, hw.lastWrite]
  by_cases h : g' = info.guid
  · subst h
    simp [recordOf]
  · have hne : ¬ (recordOf info optype).objectGuid = g' := fun hg => h hg.symm
    simp [h, hne, Function.update]

/-- **A write keeps the server coherent** if it keeps the view of its guid coherent. -/
theorem Coherent.write {s s' : Server μ} (h : Coherent s) {info : DataRequestInfo μ}
    {optype : RecordType} {w : Option μ} (hw : Written s s' info optype w)
    (hclock : s.clock < info.lastModifyTime) (hop : ¬ IsLoad info)
    (hothers : ∀ g, g ≠ info.guid → s'.view g = s.view g)
    (hview : (s'.view info.guid).Coherent) : Coherent s' where
  view g := by
    by_cases hg : g = info.guid
    · subst hg
      exact hview
    · rw [hothers g hg]
      exact h.view g
  -- a load of the written guid is overtaken; the others keep what they expect
  waiting i hi hno := by
    rw [hw.waiting] at hi
    obtain ⟨j, hj, -, hsame⟩ := mem_overtake hi
    obtain ⟨rfl, hg⟩ := hsame hno
    obtain ⟨hexp, hset⟩ := h.waiting i hj hno
    rw [hothers _ hg, hw.lastWrite, Function.update_of_ne hg]
    exact ⟨hexp, hset⟩
  loaded i hi := by
    rw [hw.loaded] at hi
    obtain ⟨j, hj, heq, hsame⟩ := mem_overtake hi
    refine ⟨?_, ?_⟩
    · rw [heq]
      exact (h.loaded j hj).1
    · intro hno
      obtain ⟨rfl, hg⟩ := hsame hno
      rw [hothers _ hg, hw.lastWrite, Function.update_of_ne hg]
      exact (h.loaded i hj).2 hno
  -- the new record is later than all before it
  inTime := by
    obtain ⟨hord, hpast, hack, hackPast⟩ := h.inTime
    refine ⟨?_, ?_, ?_, ?_⟩
    · rw [hw.record, List.pairwise_append]
      refine ⟨hord, List.pairwise_singleton _ _, ?_⟩
      intro a ha b hb
      obtain rfl := List.mem_singleton.mp hb
      exact UInt64.lt_of_le_of_lt (hpast a ha) hclock
    · rw [hw.record, hw.clock]
      intro r hr
      rcases List.mem_append.mp hr with hr | hr
      · exact UInt64.le_of_lt (UInt64.lt_of_le_of_lt (hpast r hr) hclock)
      · obtain rfl := List.mem_singleton.mp hr
        exact UInt64.le_refl _
    · rw [hw.record, hw.acks]
      intro a ha r hr
      rcases List.mem_append.mp hr with hr | hr
      · exact hack a ha r hr
      · obtain rfl := List.mem_singleton.mp hr
        exact UInt64.lt_of_le_of_lt (hackPast a ha) hclock
    · rw [hw.acks, hw.clock]
      intro a ha
      exact UInt64.le_of_lt (UInt64.lt_of_le_of_lt (hackPast a ha) hclock)
  answered := by
    refine readYourWrites_append h.answered hw.replies ?_
    intro hload
    exact absurd hload hop

/-- The same, for a write that sets the entity and the expired entry of its guid. -/
theorem Coherent.writeAt {s s' : Server μ} (h : Coherent s) {info : DataRequestInfo μ}
    {optype : RecordType} {w : Option μ} (hw : Written s s' info optype w)
    (hclock : s.clock < info.lastModifyTime) (hop : ¬ IsLoad info) (entity : Option μ)
    (expired : Option (ExpiredItem μ))
    (hent : ∀ g' : UInt64, s'.entityMap[g']? = if g' = info.guid then entity
      else s.entityMap[g']?)
    (hexp : ∀ g' : UInt64, s'.lruMap[g']? = if g' = info.guid then expired else s.lruMap[g']?)
    (hcoh : View.Coherent { s.view info.guid with
      entity := entity
      expired := expired
      pending := (s.view info.guid).pending ++ [recordOf info optype]
      written := w }) : Coherent s' := by
  have hview := view_of_written hw entity expired hent hexp
  refine h.write hw hclock hop ?_ ?_
  · intro g hg
    rw [hview, if_neg hg]
  · rw [hview, if_pos rfl]
    exact hcoh

section Writes

variable {s : Server μ} {info : DataRequestInfo μ}

private theorem notLoad {op : Opcode} (h : info.opcode = op) (hne : op ≠ .loadEntity)
    (hne' : op ≠ .loadEntityOnce) : ¬ IsLoad info := by
  unfold IsLoad
  rw [h]
  rintro (h | h)
  · exact hne h
  · exact hne' h

/-- Earlier records of the guid have earlier time stamps. -/
private theorem pending_le (h : Coherent s) (hclock : s.clock < info.lastModifyTime) :
    ∀ a ∈ (s.view info.guid).pending, a.lastModifyTime ≤ info.lastModifyTime := by
  intro a ha
  have hmem : a ∈ s.recordSet := List.mem_of_mem_filter ha
  exact UInt64.le_of_lt (UInt64.lt_of_le_of_lt (h.inTime.past a hmem) hclock)

/-- So does a NEW for a guid without an entity. -/
theorem coherent_handleNewEntity (h : Coherent s) (hclock : s.clock < info.lastModifyTime)
    (hop : info.opcode = .newEntity) (hmsg : info.entityMsg.isSome = true)
    (he : (s.view info.guid).entity = none) :
    Coherent (Server.handleNewEntity { s with clock := info.lastModifyTime } info) := by
  obtain ⟨x, hx⟩ := Option.isSome_iff_exists.mp hmsg
  have he' : s.entityMap[info.guid]? = none := he
  have hout : Server.handleNewEntity { s with clock := info.lastModifyTime } info
      = Server.replayWrite (Server.writeRecord { s with
          clock := info.lastModifyTime
          entityMap := s.entityMap.insert info.guid x } info .insert) info (some x) := by
    unfold Server.handleNewEntity Server.addEntity
    simp only [hx, he']
    rfl
  rw [hout]
  have hw : Written s (Server.replayWrite (Server.writeRecord { s with
      clock := info.lastModifyTime
      entityMap := s.entityMap.insert info.guid x } info .insert) info (some x))
      info .insert (some x) := ⟨rfl, rfl, rfl, rfl, rfl, rfl, rfl, rfl⟩
  refine h.writeAt hw hclock (notLoad hop (by decide) (by decide)) (some x)
    (s.lruMap[info.guid]?) (fun g' => Lookup.getElem?_insert s.entityMap info.guid g' x) ?_
    ((h.view info.guid).add rfl)
  intro g'
  show s.lruMap[g']? = _
  by_cases hg : g' = info.guid <;> simp [hg]

theorem coherent_handleNewEntityWithFlush (h : Coherent s)
    (hclock : s.clock < info.lastModifyTime) (hop : info.opcode = .newEntityWithFlush)
    (hmsg : info.entityMsg.isSome = true) (he : (s.view info.guid).entity = none)
    (hset : (s.view info.guid).settled = none) :
    Coherent (Server.handleNewEntityWithFlush { s with clock := info.lastModifyTime } info) := by
  obtain ⟨x, hx⟩ := Option.isSome_iff_exists.mp hmsg
  have hw : Written s (Server.handleNewEntityWithFlush
      { s with clock := info.lastModifyTime } info) info .insertWithFlush (some x) :=
    ⟨rfl, rfl, rfl, rfl, by rw [← hx]; rfl, rfl, rfl, rfl⟩
  refine h.writeAt hw hclock (notLoad hop (by decide) (by decide)) (s.view info.guid).entity
    (some { lastModifyTime := info.lastModifyTime, inUse := false, item := .valid x }) ?_ ?_
    (View.Coherent.insertFlushed (r := recordOf info .insertWithFlush) rfl hx he hset
      (pending_le h hclock))
  · intro g'
    show s.entityMap[g']? = _
    by_cases hg : g' = info.guid <;> simp [hg, Server.view]
  · intro g'
    show (s.lruMap.update info.guid info.entityMsg info.lastModifyTime)[g']? = _
    rw [getElem?_update, hx]
    rfl

theorem coherent_handleFlushEntity (h : Coherent s) (hclock : s.clock < info.lastModifyTime)
    (hop : info.opcode = .flushEntity) (hmsg : info.entityMsg.isSome = true) :
    Coherent (Server.handleFlushEntity { s with clock := info.lastModifyTime } info) := by
  obtain ⟨x, hx⟩ := Option.isSome_iff_exists.mp hmsg
  unfold Server.handleFlushEntity
  dsimp only
  rcases he : s.entityMap[info.guid]? with _ | old
  · exact (h.tick hclock).reply info .entityNotFound .empty
      (fun hl => absurd hl (notLoad hop (by decide) (by decide)))
  · dsimp only
    have hrm : ∀ t : Server μ, t.entityMap = s.entityMap → t.removeEntity info.guid
        = { t with
            entityMap := s.entityMap.erase info.guid
            lruMap := t.lruMap.free info.guid } := by
      intro t ht
      unfold Server.removeEntity
      rw [ht, he]
    rw [hrm (Server.replayWrite (Server.writeRecord { s with
      clock := info.lastModifyTime
      lruMap := s.lruMap.update info.guid info.entityMsg info.lastModifyTime } info .flush)
      info info.entityMsg) rfl]
    have hw : Written s _ info .flush (some x) :=
      Written.mk (s := s) (t := { Server.replayWrite (Server.writeRecord { s with
          clock := info.lastModifyTime
          lruMap := s.lruMap.update info.guid info.entityMsg info.lastModifyTime } info .flush)
          info info.entityMsg with
        entityMap := s.entityMap.erase info.guid
        lruMap := (s.lruMap.update info.guid info.entityMsg info.lastModifyTime).free info.guid })
      rfl rfl rfl rfl (by rw [← hx]; rfl) rfl rfl rfl
    refine h.writeAt hw hclock (notLoad hop (by decide) (by decide)) none
      (some { lastModifyTime := info.lastModifyTime, inUse := false, item := .valid x })
      (fun g' => Lookup.getElem?_erase s.entityMap info.guid g') ?_ ?_
    · intro g'
      show ((s.lruMap.update info.guid info.entityMsg info.lastModifyTime).free info.guid)[g']? = _
      -- the new entry is not in use, so freeing the old object leaves it alone
      rw [getElem?_free, getElem?_update, getElem?_update, if_pos rfl, hx]
      by_cases hg : g' = info.guid
      · simp [hg, View.freeItem]
      · simp [hg]
    · exact (h.view info.guid).flush (r := recordOf info .flush) rfl hx
        (by show (s.entityMap[info.guid]?).isSome = true; rw [he]; rfl) (pending_le h hclock)

/-- So does an UPDATE of an entity that is there. -/
theorem coherent_handleUpdateEntity (h : Coherent s) (hclock : s.clock < info.lastModifyTime)
    (hop : info.opcode = .updateEntity)
    (he : info.entityMsg.isSome = true → (s.view info.guid).entity.isSome = true) :
    Coherent (Server.handleUpdateEntity { s with clock := info.lastModifyTime } info) := by
  unfold Server.handleUpdateEntity
  rcases hx : info.entityMsg with _ | x
  · exact (h.tick hclock).reply info .entityNotFound .empty
      (fun hl => absurd hl (notLoad hop (by decide) (by decide)))
  · have hsome := he (by rw [hx]; rfl)
    obtain ⟨old, hold⟩ := Option.isSome_iff_exists.mp hsome
    have hold' : s.entityMap[info.guid]? = some old := hold
    dsimp only
    have hup : (Server.writeRecord { s with clock := info.lastModifyTime } info .update).updateEntity
        x info.guid = { Server.writeRecord { s with clock := info.lastModifyTime } info .update with
          entityMap := s.entityMap.insert info.guid x
          lruMap := s.lruMap.free info.guid } := by
      unfold Server.updateEntity Server.writeRecord
      dsimp only
      rw [hold']
    rw [hup]
    have hw : Written s _ info .update (some x) :=
      Written.mk (s := s) (t := Server.replayWrite
        { Server.writeRecord { s with clock := info.lastModifyTime } info .update with
          entityMap := s.entityMap.insert info.guid x
          lruMap := s.lruMap.free info.guid } info (some x))
      rfl rfl rfl rfl rfl rfl rfl rfl
    exact h.writeAt hw hclock (notLoad hop (by decide) (by decide)) (some x)
      (View.freeItem (s.lruMap[info.guid]?))
      (fun g' => Lookup.getElem?_insert s.entityMap info.guid g' x)
      (fun g' => getElem?_free info.guid g' s.lruMap)
      ((h.view info.guid).overwrite (r := recordOf info .update) rfl hsome)

/-- So does a REMOVE. -/
theorem coherent_handleRemoveEntity (h : Coherent s) (hclock : s.clock < info.lastModifyTime)
    (hop : info.opcode = .removeEntity) :
    Coherent (Server.handleRemoveEntity { s with clock := info.lastModifyTime } info) := by
  -- the entity map loses the guid whether it had it or not
  have hrm : ∀ t : Server μ, ∃ m l, t.removeEntity info.guid
        = { t with entityMap := m, lruMap := l } ∧
      (∀ g' : UInt64, m[g']? = if g' = info.guid then none else t.entityMap[g']?) ∧
      (∀ g' : UInt64, l[g']? = t.lruMap[g']? ∨
        g' = info.guid ∧ l[g']? = View.freeItem (t.lruMap[g']?)) := by
    intro t
    unfold Server.removeEntity
    rcases ht : t.entityMap[info.guid]? with _ | old
    · refine ⟨t.entityMap, t.lruMap, rfl, ?_, fun g' => .inl rfl⟩
      intro g'
      by_cases hg : g' = info.guid
      · simp [hg, ht]
      · simp [hg]
    · refine ⟨_, _, rfl, fun g' => Lookup.getElem?_erase t.entityMap info.guid g', ?_⟩
      intro g'
      rw [getElem?_free]
      by_cases hg : g' = info.guid
      · subst hg
        exact .inr ⟨rfl, by simp⟩
      · exact .inl (by simp [hg])
  unfold Server.handleRemoveEntity
  dsimp only
  obtain ⟨m, l, hout, hm, hl⟩ := hrm (Server.writeRecord { s with
    clock := info.lastModifyTime
    lruMap := s.lruMap.updateToDelete info.guid } info .remove)
  rw [hout]
  have hw : Written s _ info .remove none :=
    Written.mk (s := s) (t := Server.replayWrite { Server.writeRecord { s with
        clock := info.lastModifyTime
        lruMap := s.lruMap.updateToDelete info.guid } info .remove with
      entityMap := m, lruMap := l } info none)
    rfl rfl rfl rfl rfl rfl rfl rfl
  have hdel : ∀ e : Option (ExpiredItem μ),
      View.freeItem (View.deleteItem e) = View.deleteItem e := by
    intro e
    cases e <;> rfl
  refine h.writeAt hw hclock (notLoad hop (by decide) (by decide)) none
    (View.deleteItem (s.lruMap[info.guid]?)) hm ?_
    (View.Coherent.delete (s.view info.guid) (r := recordOf info .remove) rfl)
  intro g'
  show l[g']? = _
  have hbase := getElem?_updateToDelete info.guid g' s.lruMap
  rcases hl g' with hsame | ⟨rfl, hfree⟩
  · rw [hsame]
    exact hbase
  · rw [hfree]
    show View.freeItem ((s.lruMap.updateToDelete info.guid)[info.guid]?) = _
    rw [hbase, if_pos rfl, hdel]

theorem coherent_handleOnlyRemoveEntity (h : Coherent s)
    (hdrop : OrderlyPacket (s.view info.guid) info.entityMsg.isSome .onlyRemoveEntity) :
    Coherent (s.handleOnlyRemoveEntity info) := by
  unfold Server.handleOnlyRemoveEntity Server.removeEntity
  rcases he : s.entityMap[info.guid]? with _ | y
  · exact h
  · have he' : (s.view info.guid).entity = some y := he
    obtain ⟨hf, hp, hrow⟩ := hdrop (by rw [he']; rfl)
    rw [Option.isNone_iff_eq_none] at hf
    rw [List.isEmpty_iff] at hp
    have hview := view_of_maps (s := s)
      (t := { s with
        entityMap := s.entityMap.erase info.guid
        lruMap := s.lruMap.free info.guid })
      info.guid none (View.freeItem (s.lruMap[info.guid]?)) rfl rfl rfl
      (fun g' => Lookup.getElem?_erase s.entityMap info.guid g')
      (fun g' => getElem?_free info.guid g' s.lruMap)
    refine h.frame rfl rfl rfl (fun _ ha => ha) (UInt64.le_refl _) ?_ h.waiting h.loaded
      h.answered
    refine coherent_view_of_ite h ?_ hview
    exact (h.view info.guid).drop he' hf hp (by rw [hrow, he']; rfl)

end Writes

/-! ## §7. The converter. -/

section Converter

variable {s : Server μ}

/-- **The converter applies the oldest record.** -/
theorem coherent_convert (h : Coherent s) {r : Record (Option μ)}
    {rest : List (Record (Option μ))} (hrec : s.recordSet = r :: rest) :
    Coherent (Server.convert { s with recordSet := rest } r) := by
  obtain ⟨hord, hpast, hack, hackPast⟩ := h.inTime
  rw [hrec, List.pairwise_cons] at hord
  have hacks : ∀ a ∈ (Server.convert { s with recordSet := rest } r).acks,
      a ∈ s.acks ∨ a = (r.objectGuid, r.lastModifyTime) := by
    intro a ha
    have hsplit : (Server.convert { s with recordSet := rest } r).acks = s.acks ∨
        (Server.convert { s with recordSet := rest } r).acks
          = s.acks ++ [(r.objectGuid, r.lastModifyTime)] := by
      unfold Server.convert
      dsimp only
      split
      · exact .inr rfl
      · exact .inr rfl
      · exact .inl rfl
    rcases hsplit with heq | heq
    · rw [heq] at ha
      exact .inl ha
    · rw [heq] at ha
      rcases List.mem_append.mp ha with ha | ha
      · exact .inl ha
      · exact .inr (List.mem_singleton.mp ha)
  -- only the view of the record's guid changes
  have hview : ∀ g, (Server.convert { s with recordSet := rest } r).view g =
      if g = r.objectGuid then
        { s.view g with
          pending := rest.filter (fun x => x.objectGuid = g)
          row := rowAfter (s.view g).row r }
      else s.view g := by
    intro g
    unfold Server.view Server.convert
    rw [hrec]
    by_cases hg : g = r.objectGuid
    · subst hg
      simp [writeRecordToDb]
    · have hne : ¬ r.objectGuid = g := fun hh => hg hh.symm
      simp [writeRecordToDb, hg, hne]
  have hown : (s.view r.objectGuid).pending
      = r :: rest.filter (fun x => x.objectGuid = r.objectGuid) := by
    unfold Server.view
    dsimp only
    rw [hrec, List.filter_cons_of_pos (by simp)]
  refine ⟨?_, ?_, ?_, ?_, h.answered⟩
  · intro g
    rw [hview]
    split
    · next hg =>
        subst hg
        exact (h.view r.objectGuid).convert hown
    · exact h.view g
  · intro info hi hno
    obtain ⟨hexp, hset⟩ := h.waiting info hi hno
    refine ⟨hexp, ?_⟩
    rw [hview]
    split
    · next hg =>
        rw [hg] at hset ⊢
        exact hset.convert hown
    · exact hset
  · intro info hi
    obtain ⟨hmsg, hfresh⟩ := h.loaded info hi
    refine ⟨hmsg, ?_⟩
    intro hno
    obtain ⟨hexp, hset⟩ := hfresh hno
    refine ⟨hexp, ?_⟩
    rw [hview]
    split
    · next hg =>
        rw [hg] at hset ⊢
        show List.foldl rowAfter _ _ = _
        unfold View.settled at hset
        rw [hown, List.foldl_cons] at hset
        exact hset
    · exact hset
  · refine ⟨hord.2, ?_, ?_, ?_⟩
    · intro x hx
      exact hpast x (by rw [hrec]; exact List.mem_cons_of_mem _ hx)
    · intro a ha x hx
      rcases hacks a ha with ha | rfl
      · exact hack a ha x (by rw [hrec]; exact List.mem_cons_of_mem _ hx)
      · exact hord.1 x hx
    · intro a ha
      rcases hacks a ha with ha | rfl
      · exact hackPast a ha
      · exact hpast r (by rw [hrec]; exact List.mem_cons_self ..)

/-- **An acknowledgement arrives.** -/
theorem coherent_ack (h : Coherent s) {i : Nat} {a : UInt64 × UInt64}
    (ha : s.acks[i]? = some a) :
    Coherent { s with acks := s.acks.eraseIdx i, lruMap := s.lruMap.remove a.1 a.2 } := by
  have hmem : a ∈ s.acks := List.mem_of_getElem? ha
  have hview := view_of_maps (s := s)
    (t := { s with acks := s.acks.eraseIdx i, lruMap := s.lruMap.remove a.1 a.2 })
    a.1 (s.entityMap[a.1]?) (View.expireItem a.2 (s.lruMap[a.1]?)) rfl rfl rfl
    (by intro g'; by_cases hg : g' = a.1 <;> simp [hg])
    (fun g' => getElem?_remove a.1 g' s.lruMap a.2)
  refine h.frame rfl rfl rfl (fun x hx => List.mem_of_mem_eraseIdx hx) (UInt64.le_refl _) ?_
    h.waiting h.loaded h.answered
  refine coherent_view_of_ite h ?_ hview
  refine (h.view a.1).expire ?_
  intro x hx
  exact h.inTime.acks a hmem x (List.mem_of_mem_filter hx)

end Converter

/-! ## §8. Every run. -/

theorem coherent_init (rows : UInt64 → Option μ) :
    Coherent ({ database := fun g => (rows g).map some, lastWrite := rows } : Server μ) where
  view g := by
    refine ⟨?_, ?_, ?_, ?_, ?_⟩
    · intro x hx
      simp [Server.view] at hx
    · intro _
      rfl
    · intro x _ hx
      have := (View.found_eq_some.mp hx).1
      simp [Server.view] at this
    · intro _ _ r hr
      simp [Server.view] at hr
    · intro x hx
      simp [Server.view] at hx
  waiting i hi := by simp at hi
  loaded i hi := by simp at hi
  inTime := by
    refine ⟨List.Pairwise.nil, ?_, ?_, ?_⟩
    · intro r hr
      simp at hr
    · intro a ha
      simp at ha
    · intro a ha
      simp at ha
  answered r hr := by simp at hr

/-- **An orderly packet** keeps the server coherent. -/
theorem coherent_handlePacket {s : Server μ} (h : Coherent s) {info : DataRequestInfo μ}
    (hclock : s.clock < info.lastModifyTime)
    (hcarry : CarriesEntity (.packet info)) (horder : Orderly s (.packet info)) :
    Coherent (Server.handlePacket { s with clock := info.lastModifyTime } info) := by
  unfold Server.handlePacket
  unfold CarriesEntity at hcarry
  unfold Orderly at horder
  dsimp only at hcarry horder
  cases hop : info.opcode with
  | newEntity =>
      rw [hop] at horder hcarry
      exact coherent_handleNewEntity h hclock hop (hcarry (.inl rfl)) horder
  | loadEntity =>
      exact coherent_handleLoadEntity (h.tick hclock) rfl
  | flushEntity =>
      rw [hop] at hcarry
      exact coherent_handleFlushEntity h hclock hop (hcarry (.inr (.inr rfl)))
  | updateEntity =>
      rw [hop] at horder
      exact coherent_handleUpdateEntity h hclock hop horder
  | removeEntity =>
      exact coherent_handleRemoveEntity h hclock hop
  | loadEntityOnce =>
      exact coherent_handleLoadEntityOnce (h.tick hclock) rfl
  | newEntityWithFlush =>
      rw [hop] at horder hcarry
      exact coherent_handleNewEntityWithFlush h hclock hop (hcarry (.inr (.inl rfl)))
        horder.1 horder.2
  | onlyRemoveEntity =>
      rw [hop] at horder
      exact coherent_handleOnlyRemoveEntity (h.tick hclock) horder

/-- **An orderly step** does. -/
theorem coherent_step {s s' : Server μ} {a : Action μ} (h : Coherent s)
    (hc : CarriesEntity a ∧ Orderly s a) (hst : step s a = some s') : Coherent s' := by
  obtain ⟨hcarry, horder⟩ := hc
  -- each action has its own lemma; the order of the run gives its hypotheses
  cases a with
  | packet info =>
      unfold step at hst
      dsimp only at hst
      split at hst
      · next hclock =>
          obtain rfl := Option.some.inj hst
          exact @coherent_handlePacket _ s h { info with expected := none, overtaken := false }
            hclock hcarry horder
      · cases hst
  | dbLoadReplay =>
      unfold step at hst
      rcases hq : s.dbLoadReplayVec with _ | ⟨info, rest⟩
      · rw [hq] at hst
        cases hst
      · rw [hq] at hst
        obtain rfl := Option.some.inj hst
        refine coherent_handleDbLoad h hq ?_
        intro hop hmsg
        obtain ⟨hno, he⟩ := horder info (by rw [hq]; rfl) hop hmsg
        exact ⟨hno, Option.isNone_iff_eq_none.mp he⟩
  | loader i =>
      obtain ⟨info, hi, rfl⟩ := Option.map_eq_some_iff.mp hst
      obtain ⟨hno, hrow⟩ := horder info hi
      exact coherent_loader h hi hno (fun hr => Option.isNone_iff_eq_none.mp (hrow hr))
  | convert =>
      unfold step at hst
      rcases hrec : s.recordSet with _ | ⟨r, rest⟩
      · rw [hrec] at hst
        cases hst
      · rw [hrec] at hst
        obtain rfl := Option.some.inj hst
        exact coherent_convert h hrec
  | ack i =>
      obtain ⟨a, ha, rfl⟩ := Option.map_eq_some_iff.mp hst
      exact coherent_ack h ha

/-- **Read your writes** holds in every run whose steps are orderly. -/
theorem reachable_readYourWrites {s : Server μ}
    (hs : (system (μ := μ)).ReachableWhen (fun s a => CarriesEntity a ∧ Orderly s a) s) :
    ReadYourWrites s := by
  have hcoh : Coherent s := by
    refine hs.invariant (I := Coherent) ?_ ?_
    · rintro s ⟨rows, rfl⟩
      exact coherent_init rows
    · intro s a s' h hc hst
      exact coherent_step h hc hst
  exact hcoh.answered

/-- An entity is added, flushed, converted and acknowledged, and loaded from the database. -/
theorem reachable_readYourWrites_flushed :
    ∃ s, (system (μ := Nat)).run { database := fun _ => none, lastWrite := fun _ => none }
        [.packet { opcode := .newEntity, guid := 7, entityMsg := some 5, lastModifyTime := 1 },
          .packet { opcode := .flushEntity, guid := 7, entityMsg := some 6, lastModifyTime := 2 },
          .convert, .convert, .ack 0,
          .packet { opcode := .loadEntity, guid := 7, lastModifyTime := 3 },
          .loader 0, .dbLoadReplay] = some s ∧
      s.replies.map (·.message) = [.empty, .empty, .value 6] ∧ ReadYourWrites s := by
  have hrun : ((system (μ := Nat)).run { database := fun _ => none, lastWrite := fun _ => none }
      [.packet { opcode := .newEntity, guid := 7, entityMsg := some 5, lastModifyTime := 1 },
        .packet { opcode := .flushEntity, guid := 7, entityMsg := some 6, lastModifyTime := 2 },
        .convert, .convert, .ack 0,
        .packet { opcode := .loadEntity, guid := 7, lastModifyTime := 3 },
        .loader 0, .dbLoadReplay]).map (fun s => s.replies.map (·.message))
      = some [.empty, .empty, .value 6] := by decide +kernel
  obtain ⟨s, hs, hout⟩ := Option.map_eq_some_iff.mp hrun
  exact ⟨s, hs, hout, reachable_readYourWrites
    (TransSys.reachableWhen_of_run ⟨fun _ => none, rfl⟩ (by decide +kernel) hs)⟩

/-- **The defect**: the removal waits in the log, the cache knows nothing of
the guid any more, and the database still holds the removed value. -/
theorem removed_entity_loaded :
    ¬ ∀ s : Server Nat, (system (μ := Nat)).ReachableWhen (fun _ a => CarriesEntity a) s →
      ReadYourWrites s := by
  intro hall
  have hrun : ((system (μ := Nat)).run { database := fun _ => none, lastWrite := fun _ => none }
      [.packet { opcode := .newEntity, guid := 7, entityMsg := some 5, lastModifyTime := 1 },
        .convert,
        .packet { opcode := .removeEntity, guid := 7, lastModifyTime := 2 },
        .packet { opcode := .loadEntity, guid := 7, lastModifyTime := 3 },
        .loader 0, .dbLoadReplay]).map (fun s => s.replies.map
          (fun r => (r.request.opcode, r.request.expected, r.status)))
      = some [(.newEntity, none, .normal), (.removeEntity, none, .normal),
          (.loadEntity, none, .normal)] := by decide +kernel
  obtain ⟨s, hs, hout⟩ := Option.map_eq_some_iff.mp hrun
  have hreach : (system (μ := Nat)).ReachableWhen (fun _ a => CarriesEntity a) s :=
    TransSys.reachableWhen_of_run ⟨fun _ => none, rfl⟩ (by decide +kernel) hs
  have hmem : (Opcode.loadEntity, (none : Option Nat), Status.normal) ∈ s.replies.map
      (fun r => (r.request.opcode, r.request.expected, r.status)) := by
    rw [hout]
    simp
  obtain ⟨r, hr, heq⟩ := List.mem_map.mp hmem
  simp only [Prod.mk.injEq] at heq
  obtain ⟨hop, hexp, hst⟩ := heq
  have hread := hall s hreach r hr (.inl hop)
  rw [hexp] at hread
  have hnotFound : r.status = .entityNotFound := hread
  rw [hst] at hnotFound
  cases hnotFound

end Steppingstone.Cached
