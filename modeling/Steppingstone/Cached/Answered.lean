/-
  Steppingstone.Cached.Answered — one reply for every request.

  The scene's pool completes a list only when each of its requests is answered,
  so every packet but ONLY_REMOVE should lead to exactly one reply with its
  opcode, guid and owner.  Packets are numbered as they arrive; a load that goes
  to the database waits under its number until the loader hands back a result,
  of any kind and in any order.  A reply that is read through a dangling or null
  pointer (`Content.garbage`) does not count.
-/
import Mathlib.Data.List.Perm.Basic
import Steppingstone.Cached.Logged

namespace Steppingstone.Cached

open Std (TreeMap)

variable {μ : Type}

/-! ## §1. Results of the loader. -/

/-- What the loader leaves in the request: `db_load_success` and `entity_msg`. -/
structure LoadResult (μ : Type) where
  dbLoadSuccess : Bool
  entityMsg : Option μ := none

namespace Server

variable (s : Server μ) (info : DataRequestInfo μ)

/-- `handleDbLoad`, for any result of the loader.  `addEntity` deletes the message
that it refuses, and the reply serialises it all the same. -/
def handleLoadResult (result : LoadResult μ) : Server μ :=
  let info := { info with entityMsg := result.entityMsg }
  if result.dbLoadSuccess then
    match info.opcode with
    | .loadEntity =>
        let added := s.addEntity info.entityMsg info.guid
        added.1.replayLoad info
          (info.entityMsg.elim .null (fun v => if added.2 then .valid v else .freed))
    | .loadEntityOnce => s.replayLoad info (info.entityMsg.elim .null .valid)
    | _ => s
  else s.replayError info

end Server

/-! ## §2. Packets, replies and waiting loads. -/

/-- The request is the one of this packet. -/
def DataRequestInfo.Matches (info : DataRequestInfo μ) (packet : Packet) : Prop :=
  info.opcode = packet.opcode ∧ info.guid = packet.guid ∧ info.packetOwner = packet.owner

/-- One reply, for this packet. -/
def Packet.Answered (packet : Packet) (replies : List (Reply μ)) : Prop :=
  ∃ r, replies = [r] ∧ r.request.Matches packet ∧ r.message ≠ .garbage

/-- A packet and what was sent back for it. -/
structure Exchange (μ : Type) where
  packet : Packet
  replies : List (Reply μ) := []

/-- The server with the packets it was sent, and the loads that wait, under the
number of their packet. -/
structure Service (μ : Type) where
  server : Server μ
  exchanges : List (Exchange μ) := []
  loads : List (Nat × DataRequestInfo μ) := []

/-- The server with nothing sent and nothing handed to the loader. -/
def Server.cleared (s : Server μ) : Server μ :=
  { s with replies := [], dataReqInfoVec := [] }

namespace Service

variable (w : Service μ)

/-- The numbers of the packets that wait for the loader. -/
def waiting : List Nat := w.loads.map (·.1)

/-- What the server did for the packet `n`. -/
def collect (n : Nat) (t : Server μ) : Service μ where
  server := t
  exchanges := w.exchanges.modify n (fun e => { e with replies := e.replies ++ t.replies })
  loads := w.loads ++ t.dataReqInfoVec.map (fun info => (n, info))

end Service

/-- A packet, a result for the `i`-th waiting load, an acknowledgement of the
converter. -/
inductive ServiceAction (μ : Type)
  | packet (packet : Packet) (now : UInt64)
  | loaded (i : Nat) (result : LoadResult μ)
  | ack (guid lastModifyTime : UInt64)

/-- One step. -/
def Service.step (parser : Parser μ) (w : Service μ) : ServiceAction μ → Option (Service μ)
  | .packet packet now =>
      some (Service.collect { w with exchanges := w.exchanges ++ [{ packet }] } w.exchanges.length
        (w.server.cleared.handleRawPacket parser packet now))
  | .loaded i result =>
      (w.loads[i]?).map fun load =>
        Service.collect { w with loads := w.loads.eraseIdx i } load.1
          (w.server.cleared.handleLoadResult load.2 result)
  | .ack guid lastModifyTime =>
      some { w with
        server := { w.server with lruMap := w.server.lruMap.remove guid lastModifyTime } }

/-- The service starts over a server in any state. -/
def serviceSystem (parser : Parser μ) : TransSys (Service μ) (ServiceAction μ) where
  init w := ∃ s, w = { server := s }
  step := Service.step parser

/-- The packet `n` is answered once, or waits for the loader. -/
def Service.AnsweredAt (w : Service μ) (n : Nat) : Prop :=
  ∀ e, w.exchanges[n]? = some e → e.packet.opcode ≠ .onlyRemoveEntity →
    if n ∈ w.waiting then e.replies = [] else e.packet.Answered e.replies

/-- **Every packet but ONLY_REMOVE is answered once**, unless it waits for the loader. -/
def Service.AnsweredOnce (w : Service μ) : Prop :=
  ∀ n, w.AnsweredAt n

/-- The opcodes that load. -/
def Opcode.isLoad : Opcode → Bool
  | .loadEntity | .loadEntityOnce => true
  | _ => false

/-- A load that is not found in the entity map finds no expired item, or a valid one. -/
def Server.CanLoad (s : Server μ) (guid : UInt64) : Prop :=
  s.entityMap[guid]? = none → ∀ x, s.lruMap.query guid = some x → ∃ v, x.item = .valid v

/-- A result that can be passed on: a failure, or an entity, for a guid that is not
in the entity map by now. -/
def Server.CanReplay (s : Server μ) (info : DataRequestInfo μ) (result : LoadResult μ) : Prop :=
  result.dbLoadSuccess = true →
    result.entityMsg ≠ none ∧ (info.opcode = .loadEntity → s.entityMap[info.guid]? = none)

/-- **The steps that are in order.**  A packet can be read, and a load has no expired
item that is null or dangling; a result can be passed on. -/
def Service.InOrder (parser : Parser μ) (w : Service μ) : ServiceAction μ → Prop
  | .packet packet now =>
      packet.opcode ≠ .onlyRemoveEntity →
        (readPacket parser packet now).isSome ∧
          (packet.opcode.isLoad → w.server.CanLoad packet.guid)
  | .loaded i result => ∀ load, w.loads[i]? = some load → w.server.CanReplay load.2 result
  | .ack .. => True

/-! ## §3. What a packet leads to at once. -/

namespace Server

variable {s : Server μ} {info : DataRequestInfo μ} {packet : Packet}

/-- A request other than a load goes nowhere near the loader. -/
theorem handlePacket_dataReqInfoVec (h : s.dataReqInfoVec = []) (hop : info.opcode.isLoad = false) :
    (s.handlePacket info).dataReqInfoVec = [] := by
  have hremove (t : Server μ) (g : UInt64) :
      (t.removeEntity g).dataReqInfoVec = t.dataReqInfoVec := by
    unfold removeEntity
    split <;> rfl
  have hupdate (t : Server μ) (v : μ) (g : UInt64) :
      (t.updateEntity v g).dataReqInfoVec = t.dataReqInfoVec := by
    unfold updateEntity
    split <;> rfl
  -- the answer to a write marks the loads it overtakes, and there are none
  have hwrite (t : Server μ) (written : Option μ) (ht : t.dataReqInfoVec = []) :
      (t.replayWrite info written).dataReqInfoVec = [] := by
    show overtake info.guid t.dataReqInfoVec = []
    rw [ht]
    rfl
  unfold handlePacket
  revert hop
  match info.opcode with
  | .newEntity =>
      intro _
      show (s.handleNewEntity info).dataReqInfoVec = []
      unfold handleNewEntity
      have hadd : (s.addEntity info.entityMsg info.guid).1.dataReqInfoVec = [] := by
        unfold addEntity
        split
        · exact h
        · split
          · exact h
          · exact h
      refine hwrite _ _ ?_
      split
      · exact hadd
      · exact hadd
  | .newEntityWithFlush => exact fun _ => hwrite _ _ h
  | .flushEntity =>
      intro _
      show (s.handleFlushEntity info).dataReqInfoVec = []
      unfold handleFlushEntity
      split
      · exact h
      · rw [hremove]
        exact hwrite _ _ h
  | .updateEntity =>
      intro _
      show (s.handleUpdateEntity info).dataReqInfoVec = []
      unfold handleUpdateEntity
      split
      · exact h
      · exact hwrite _ _ ((hupdate _ _ _).trans h)
  | .removeEntity => exact fun _ => hwrite _ _ ((hremove _ _).trans h)
  | .onlyRemoveEntity => exact fun _ => (hremove _ _).trans h
  | .loadEntity | .loadEntityOnce => nofun

/-- A load is answered from the entity map or from the expired items, or waits. -/
theorem replayLoad_answered (hs : s.replies = []) (hm : info.Matches packet) (item : Item μ) :
    packet.Answered (s.replayLoad info item).replies ↔ ∃ v, item = .valid v := by
  match item with
  | .null =>
      show packet.Answered s.replies ↔ _
      rw [hs]
      simp [Packet.Answered]
  | .valid v =>
      show packet.Answered (s.replies ++ [_]) ↔ _
      rw [hs]
      simp [Packet.Answered, hm]
  | .freed =>
      show packet.Answered (s.replies ++ [_]) ↔ _
      rw [hs]
      simp [Packet.Answered]

variable (packet) (inOrder : Prop)

/-- A server that had sent nothing has either answered the packet, if it was in
order, or handed its load to the loader. -/
def LeadsTo (t : Server μ) : Prop :=
  (t.dataReqInfoVec = [] ∧ (packet.Answered t.replies ↔ inOrder)) ∨
    (∃ info, t.dataReqInfoVec = [info] ∧ info.Matches packet ∧ info.opcode.isLoad = true ∧
      t.replies = [] ∧ inOrder)

variable {packet} {inOrder}

theorem replayLoad_dataReqInfoVec (item : Item μ) :
    (s.replayLoad info item).dataReqInfoVec = s.dataReqInfoVec := by
  cases item <;> rfl

theorem addEntity_frame (m : Option μ) (g : UInt64) :
    (s.addEntity m g).1.dataReqInfoVec = s.dataReqInfoVec ∧
      (s.addEntity m g).1.replies = s.replies := by
  unfold addEntity
  match m with
  | none => exact ⟨rfl, rfl⟩
  | some v =>
      match s.entityMap[g]? with
      | none => exact ⟨rfl, rfl⟩
      | some _ => exact ⟨rfl, rfl⟩

/-- An expired item decides both the answer and the condition. -/
theorem canLoad_iff {x : ExpiredItem μ} (hm : info.Matches packet)
    (hmap : s.entityMap[info.guid]? = none) (hquery : s.lruMap.query info.guid = some x) :
    s.CanLoad packet.guid ↔ ∃ v, x.item = .valid v := by
  unfold CanLoad
  rw [← hm.2.1, hmap, hquery]
  simp

section Loads

variable (hs : s.replies = []) (hl : s.dataReqInfoVec = []) (hm : info.Matches packet)
include hs hl hm

/-- A load that is found in the entity map is answered, whatever is expired. -/
theorem leadsTo_found {v : μ} {t : Server μ} (hfound : s.entityMap[info.guid]? = some v)
    (ht : t = s.replayLoad info (.valid v)) : LeadsTo packet (s.CanLoad packet.guid) t := by
  subst ht
  refine .inl ⟨(replayLoad_dataReqInfoVec _).trans hl, iff_of_true ?_ ?_⟩
  · exact (replayLoad_answered hs hm _).mpr ⟨v, rfl⟩
  · intro hnone
    rw [← hm.2.1, hfound] at hnone
    cases hnone

/-- A load that is found nowhere waits for the loader. -/
theorem leadsTo_process (hquery : s.lruMap.query info.guid = none)
    (hop : info.opcode.isLoad = true) :
    LeadsTo packet (s.CanLoad packet.guid) (s.process info) := by
  refine .inr ⟨info, ?_, hm, hop, hs, ?_⟩
  · show s.dataReqInfoVec ++ [info] = [info]
    rw [hl]
    rfl
  · intro _ x hx
    rw [← hm.2.1, hquery] at hx
    cases hx

theorem handleLoadEntity_leadsTo (hop : info.opcode.isLoad = true) :
    LeadsTo packet (s.CanLoad packet.guid) (s.handleLoadEntity info) := by
  unfold handleLoadEntity
  match hmap : s.entityMap[info.guid]? with
  | some v => exact leadsTo_found hs hl hm hmap rfl
  | none =>
      match hquery : s.lruMap.query info.guid with
      | none => exact leadsTo_process hs hl hm hquery hop
      | some x =>
          refine .inl ?_
          rw [canLoad_iff hm hmap hquery]
          dsimp only
          have hreply := replayLoad_answered (s := { s with lruMap := s.lruMap.lend info.guid }) hs hm
          match x.item with
          | .valid v =>
              obtain ⟨hvec, hrep⟩ :=
                addEntity_frame (s := { s with lruMap := s.lruMap.lend info.guid }) (some v) info.guid
              exact ⟨(replayLoad_dataReqInfoVec _).trans (hvec.trans hl),
                (replayLoad_answered (hrep.trans hs) hm _).trans (by simp)⟩
          | .null => exact ⟨hl, hreply .null⟩
          | .freed => exact ⟨hl, hreply .freed⟩

theorem handleLoadEntityOnce_leadsTo (hop : info.opcode.isLoad = true) :
    LeadsTo packet (s.CanLoad packet.guid) (s.handleLoadEntityOnce info) := by
  unfold handleLoadEntityOnce
  match hmap : s.entityMap[info.guid]? with
  | some v => exact leadsTo_found hs hl hm hmap rfl
  | none =>
      match hquery : s.lruMap.query info.guid with
      | none => exact leadsTo_process hs hl hm hquery hop
      | some x =>
          refine .inl ?_
          rw [canLoad_iff hm hmap hquery]
          dsimp only
          match x.item with
          | .valid v =>
              exact ⟨(replayLoad_dataReqInfoVec _).trans hl, replayLoad_answered hs hm _⟩
          | .null | .freed =>
              -- the copy is made through the pointer
              refine ⟨hl, ?_⟩
              show packet.Answered (s.replies ++ [_]) ↔ _
              rw [hs]
              simp [Packet.Answered]

end Loads

theorem readPacket_matches {parser : Parser μ} {now : UInt64}
    (h : readPacket parser packet now = some info) : info.Matches packet := by
  obtain ⟨_, _, -, rfl⟩ := readPacket_eq h
  exact ⟨rfl, rfl, rfl⟩

variable (s) (packet)

/-- **What a packet leads to**: an answer or a waiting load, if it can be read and,
being a load, finds no item that is null or dangling. -/
theorem handleRawPacket_leadsTo (parser : Parser μ) (now : UInt64)
    (hop : packet.opcode ≠ .onlyRemoveEntity) :
    LeadsTo packet ((readPacket parser packet now).isSome ∧
        (packet.opcode.isLoad → s.CanLoad packet.guid))
      (s.cleared.handleRawPacket parser packet now) := by
  unfold handleRawPacket
  match hread : readPacket parser packet now with
  | none => exact .inl ⟨rfl, by simp [Packet.Answered, cleared]⟩
  | some info =>
      have hm := readPacket_matches hread
      match hload : packet.opcode.isLoad with
      | true =>
          have hcan : s.cleared.CanLoad packet.guid ↔ s.CanLoad packet.guid := Iff.rfl
          simp only [Option.isSome_some, true_and, forall_const, ← hcan]
          have hinfo : info.opcode.isLoad = true := hm.1 ▸ hload
          show LeadsTo _ _ (s.cleared.handlePacket info)
          obtain ⟨op, guid⟩ := info
          cases op with
          | loadEntity => exact handleLoadEntity_leadsTo (s := s.cleared) rfl rfl hm rfl
          | loadEntityOnce => exact handleLoadEntityOnce_leadsTo (s := s.cleared) rfl rfl hm rfl
          | newEntity | flushEntity | updateEntity | removeEntity | newEntityWithFlush
          | onlyRemoveEntity => exact absurd hinfo Bool.false_ne_true
      | false =>
          have hinfo : info.opcode.isLoad = false := hm.1 ▸ hload
          refine .inl ⟨handlePacket_dataReqInfoVec rfl hinfo, iff_of_true ?_ (by simp)⟩
          -- the other requests are writes
          obtain ⟨type, htype⟩ : ∃ type, info.opcode.recordType = some type := by
            rw [← hm.1] at hop
            revert hinfo hop
            cases info.opcode <;> simp [Opcode.isLoad, Opcode.recordType]
          refine ⟨_, (s.cleared.handlePacket_appends info htype).replies, hm, ?_⟩
          exact nofun

/-- Whatever becomes of it, a packet brings at most one waiting load. -/
theorem handleRawPacket_leadsTo_some (parser : Parser μ) (now : UInt64) :
    ∃ p, LeadsTo packet p (s.cleared.handleRawPacket parser packet now) := by
  by_cases hop : packet.opcode = .onlyRemoveEntity
  · refine ⟨_, .inl ⟨?_, Iff.rfl⟩⟩
    unfold handleRawPacket
    match hread : readPacket parser packet now with
    | none => rfl
    | some info =>
        refine handlePacket_dataReqInfoVec rfl ?_
        rw [(readPacket_matches hread).1, hop]
        rfl
  · exact ⟨_, s.handleRawPacket_leadsTo packet parser now hop⟩

/-- **What a result leads to**: an answer, if it can be passed on. -/
theorem handleLoadResult_leadsTo (hm : info.Matches packet) (hop : info.opcode.isLoad = true)
    (result : LoadResult μ) :
    LeadsTo packet (s.CanReplay info result) (s.cleared.handleLoadResult info result) := by
  unfold handleLoadResult CanReplay
  match hsuccess : result.dbLoadSuccess with
  | false =>
      refine .inl ⟨rfl, iff_of_true ?_ nofun⟩
      exact ⟨_, rfl, hm, nofun⟩
  | true =>
      simp only [↓reduceIte, forall_const]
      obtain ⟨op, guid⟩ := info
      cases op with
      | loadEntity =>
          obtain ⟨hvec, hrep⟩ := addEntity_frame (s := s.cleared) result.entityMsg guid
          dsimp only
          refine .inl ⟨(replayLoad_dataReqInfoVec _).trans hvec,
            (replayLoad_answered hrep (by exact hm) _).trans ?_⟩
          show (∃ v, result.entityMsg.elim Item.null (fun v =>
              if (s.cleared.addEntity result.entityMsg guid).2 then .valid v else .freed) = .valid v) ↔
            result.entityMsg ≠ none ∧ (_ → s.cleared.entityMap[guid]? = none)
          rw [addEntity_snd]
          cases result.entityMsg with
          | none => simp
          | some v => cases s.cleared.entityMap[guid]? <;> simp
      | loadEntityOnce =>
          dsimp only
          refine .inl ⟨replayLoad_dataReqInfoVec _,
            (replayLoad_answered (s := s.cleared) rfl (by exact hm) _).trans ?_⟩
          cases result.entityMsg with
          | none => simp
          | some v => simp
      | newEntity | flushEntity | updateEntity | removeEntity | newEntityWithFlush
      | onlyRemoveEntity => exact absurd hop Bool.false_ne_true

end Server

/-! ## §4. Steps. -/

namespace Service

/-- Waiting loads have distinct numbers, and each belongs to a packet that was not
answered yet. -/
structure WellFormed (w : Service μ) : Prop where
  nodup : w.waiting.Nodup
  waits : ∀ load ∈ w.loads, ∃ packet, w.exchanges[load.1]? = some { packet } ∧
    load.2.Matches packet ∧ load.2.opcode.isLoad = true

variable {w : Service μ} {n k : Nat} {t : Server μ} {packet : Packet} {p : Prop}

theorem collect_exchanges_self (hopen : w.exchanges[n]? = some { packet }) :
    (w.collect n t).exchanges[n]? = some { packet, replies := t.replies } := by
  show (w.exchanges.modify n _)[n]? = _
  rw [List.getElem?_modify_eq, hopen]
  rfl

theorem collect_exchanges_ne (h : n ≠ k) :
    (w.collect n t).exchanges[k]? = w.exchanges[k]? :=
  List.getElem?_modify_ne _ _ h

/-- Only the packet itself can come to wait. -/
theorem mem_waiting_collect :
    k ∈ (w.collect n t).waiting ↔ k ∈ w.waiting ∨ (k = n ∧ t.dataReqInfoVec ≠ []) := by
  unfold waiting collect
  match t.dataReqInfoVec with
  | [] => simp
  | info :: infos => simp; grind

/-- The other packets stay as they are. -/
theorem collect_answeredAt_ne (h : n ≠ k) : (w.collect n t).AnsweredAt k ↔ w.AnsweredAt k := by
  have hwait : k ∈ (w.collect n t).waiting ↔ k ∈ w.waiting := by
    rw [mem_waiting_collect]
    exact or_iff_left fun hk => h hk.1.symm
  unfold AnsweredAt
  simp only [collect_exchanges_ne h, hwait]

/-- The packet that is being handled is answered once or waits exactly when it was
in order. -/
theorem collect_answeredAt (hopen : w.exchanges[n]? = some { packet }) (hn : n ∉ w.waiting)
    (ht : packet.opcode ≠ .onlyRemoveEntity → Server.LeadsTo packet p t) :
    (w.collect n t).AnsweredAt n ↔ (packet.opcode ≠ .onlyRemoveEntity → p) := by
  unfold AnsweredAt
  rw [collect_exchanges_self hopen]
  simp only [Option.some.injEq, forall_eq', mem_waiting_collect, hn, true_and, false_or]
  refine imp_congr_right fun hop => ?_
  obtain ⟨hvec, hiff⟩ | ⟨info, hvec, _, _, hreplies, hp⟩ := ht hop
  · rw [if_neg (not_not_intro hvec)]
    exact hiff
  · rw [if_pos (by rw [hvec]; exact List.cons_ne_nil _ _)]
    exact iff_of_true hreplies hp

theorem collect_wellFormed (hw : w.WellFormed) (hopen : w.exchanges[n]? = some { packet })
    (hn : n ∉ w.waiting) (ht : Server.LeadsTo packet p t) : (w.collect n t).WellFormed := by
  have hold : ∀ load ∈ w.loads, ∃ packet, (w.collect n t).exchanges[load.1]? = some { packet } ∧
      load.2.Matches packet ∧ load.2.opcode.isLoad = true := by
    intro load hmem
    have hne : n ≠ load.1 := fun heq => hn (heq ▸ List.mem_map_of_mem hmem)
    rw [collect_exchanges_ne hne]
    exact hw.waits load hmem
  obtain ⟨hvec, _⟩ | ⟨info, hvec, hm, hload, hreplies, _⟩ := ht
  · have hloads : (w.collect n t).loads = w.loads := by
      show w.loads ++ t.dataReqInfoVec.map _ = w.loads
      rw [hvec]
      exact List.append_nil _
    refine ⟨?_, ?_⟩
    · show ((w.collect n t).loads.map _).Nodup
      rw [hloads]
      exact hw.nodup
    · rw [hloads]
      exact hold
  · have hloads : (w.collect n t).loads = w.loads ++ [(n, info)] := by
      show w.loads ++ t.dataReqInfoVec.map _ = _
      rw [hvec]
      rfl
    refine ⟨?_, ?_⟩
    · show ((w.collect n t).loads.map _).Nodup
      rw [hloads, List.map_append]
      refine List.nodup_append.mpr ⟨hw.nodup, by simp, ?_⟩
      intro a ha b hb hab
      obtain rfl : b = n := List.mem_singleton.mp hb
      exact hn (hab ▸ ha)
    · rw [hloads]
      intro load hmem
      obtain hmem | hmem := List.mem_append.mp hmem
      · exact hold load hmem
      · obtain rfl := List.mem_singleton.mp hmem
        rw [collect_exchanges_self hopen, hreplies]
        exact ⟨packet, rfl, hm, hload⟩

/-! The packet that a step is about: new, or the one whose load came back. -/

/-- A new packet is open, and changes nothing for the others. -/
theorem received (hw : w.WellFormed) (packet : Packet) :
    let w' : Service μ := { w with exchanges := w.exchanges ++ [{ packet }] }
    w'.WellFormed ∧ w'.exchanges[w.exchanges.length]? = some { packet } ∧
      w.exchanges.length ∉ w'.waiting ∧
      ∀ k, w.exchanges.length ≠ k → (w'.AnsweredAt k ↔ w.AnsweredAt k) := by
  have hother : ∀ k, w.exchanges.length ≠ k →
      (w.exchanges ++ [({ packet } : Exchange μ)])[k]? = w.exchanges[k]? := by
    intro k hk
    by_cases hlt : k < w.exchanges.length
    · exact List.getElem?_append_left hlt
    · have hlen : (w.exchanges ++ [({ packet } : Exchange μ)]).length = w.exchanges.length + 1 :=
        List.length_append
      rw [List.getElem?_eq_none (by omega), List.getElem?_eq_none (by omega)]
  have hlt : ∀ load ∈ w.loads, w.exchanges.length ≠ load.1 := by
    intro load hmem heq
    obtain ⟨packet, hpacket, _⟩ := hw.waits load hmem
    exact absurd (List.getElem?_eq_some_iff.mp hpacket).1 (by omega)
  refine ⟨⟨hw.nodup, ?_⟩, by simp, ?_, ?_⟩
  · intro load hmem
    rw [hother _ (hlt load hmem)]
    exact hw.waits load hmem
  · intro hmem
    obtain ⟨load, hload, heq⟩ := List.mem_map.mp hmem
    exact hlt load hload heq.symm
  · intro k hk
    unfold AnsweredAt waiting
    rw [hother k hk]

/-- The packet of a load that comes back is open again. -/
theorem returned (hw : w.WellFormed) {i : Nat} {load : Nat × DataRequestInfo μ}
    (hi : w.loads[i]? = some load) :
    let w' : Service μ := { w with loads := w.loads.eraseIdx i }
    w'.WellFormed ∧ load.1 ∉ w'.waiting ∧
      ∀ k, load.1 ≠ k → (w'.AnsweredAt k ↔ w.AnsweredAt k) := by
  obtain ⟨hlt, hget⟩ := List.getElem?_eq_some_iff.mp hi
  have hperm : (load :: w.loads.eraseIdx i).Perm w.loads :=
    hget ▸ List.getElem_cons_eraseIdx_perm hlt
  have hnodup : (load.1 :: (w.loads.eraseIdx i).map (·.1)).Nodup :=
    (hperm.map Prod.fst).nodup_iff.mpr hw.nodup
  refine ⟨⟨(List.nodup_cons.mp hnodup).2, ?_⟩, (List.nodup_cons.mp hnodup).1, ?_⟩
  · intro load' hmem
    exact hw.waits load' (hperm.subset (List.mem_cons_of_mem _ hmem))
  · intro k hk
    have hwait : k ∈ (w.loads.eraseIdx i).map (·.1) ↔ k ∈ w.loads.map (·.1) := by
      rw [← (hperm.map (·.1)).mem_iff, List.map_cons, List.mem_cons]
      exact (or_iff_right fun heq => hk heq.symm).symm
    unfold AnsweredAt waiting
    simp only [hwait]

/-- A property of all packets, split at one of them. -/
theorem answeredOnce_iff (n : Nat) :
    w.AnsweredOnce ↔ w.AnsweredAt n ∧ ∀ k, n ≠ k → w.AnsweredAt k := by
  unfold AnsweredOnce
  refine ⟨fun h => ⟨h n, fun k _ => h k⟩, fun h k => ?_⟩
  by_cases hk : n = k
  · exact hk ▸ h.1
  · exact h.2 k hk

variable {w' : Service μ} {parser : Parser μ} {a : ServiceAction μ}

theorem step_wellFormed (hw : w.WellFormed) (hst : w.step parser a = some w') :
    w'.WellFormed := by
  cases a with
  | packet packet now =>
      obtain rfl := Option.some.inj hst
      obtain ⟨hw', hopen, hn, _⟩ := received hw packet
      obtain ⟨p, hp⟩ := w.server.handleRawPacket_leadsTo_some packet parser now
      exact collect_wellFormed hw' hopen hn hp
  | loaded i result =>
      obtain ⟨load, hload, rfl⟩ := Option.map_eq_some_iff.mp hst
      obtain ⟨packet, hopen, hm, hop⟩ := hw.waits load (List.mem_of_getElem? hload)
      obtain ⟨hw', hn, _⟩ := returned hw hload
      exact collect_wellFormed hw' hopen hn (w.server.handleLoadResult_leadsTo packet hm hop result)
  | ack guid lastModifyTime =>
      obtain rfl := Option.some.inj hst
      exact ⟨hw.nodup, hw.waits⟩

/-- **A step keeps every packet answered once exactly when it is in order**, and no
step makes up for one that was not. -/
theorem step_answered_iff (hw : w.WellFormed) (hst : w.step parser a = some w') :
    w'.AnsweredOnce ↔ w.AnsweredOnce ∧ w.InOrder parser a := by
  cases a with
  | packet packet now =>
      obtain rfl := Option.some.inj hst
      obtain ⟨_, hopen, hn, hother⟩ := received hw packet
      -- the number was not in use
      have hself : w.AnsweredAt w.exchanges.length := by
        intro e he
        rw [List.getElem?_eq_none (Nat.le_refl _)] at he
        cases he
      rw [answeredOnce_iff w.exchanges.length, answeredOnce_iff (w := w) w.exchanges.length,
        collect_answeredAt hopen hn (w.server.handleRawPacket_leadsTo packet parser now)]
      simp only [hself, true_and]
      rw [and_comm]
      refine and_congr_left' (forall_congr' fun k => imp_congr_right fun hk => ?_)
      exact (collect_answeredAt_ne hk).trans (hother k hk)
  | loaded i result =>
      obtain ⟨load, hload, rfl⟩ := Option.map_eq_some_iff.mp hst
      have hmem := List.mem_of_getElem? hload
      obtain ⟨packet, hopen, hm, hop⟩ := hw.waits load hmem
      obtain ⟨_, hn, hother⟩ := returned hw hload
      -- the load waited, unanswered
      have hself : w.AnsweredAt load.1 := by
        intro e he _
        obtain rfl : _ = e := Option.some.inj (hopen.symm.trans he)
        exact if_pos (List.mem_map_of_mem hmem) ▸ rfl
      have hpacket : packet.opcode ≠ .onlyRemoveEntity := by
        rw [← hm.1]
        intro heq
        rw [heq] at hop
        cases hop
      have hin : w.InOrder parser (.loaded i result) ↔ w.server.CanReplay load.2 result := by
        unfold InOrder
        simp [hload]
      rw [answeredOnce_iff load.1, answeredOnce_iff (w := w) load.1, hin,
        collect_answeredAt (w := { w with loads := w.loads.eraseIdx i }) hopen hn fun _ =>
          w.server.handleLoadResult_leadsTo packet hm hop result]
      simp only [hself, hpacket, true_and, ne_eq, not_false_eq_true, forall_const]
      rw [and_comm]
      refine and_congr_left' (forall_congr' fun k => imp_congr_right fun hk => ?_)
      exact (collect_answeredAt_ne hk).trans (hother k hk)
  | ack guid lastModifyTime =>
      obtain rfl := Option.some.inj hst
      exact (and_iff_left trivial).symm

end Service

/-! ## §5. Runs. -/

/-- **When every packet is answered once**: after a run, over any server, each packet
is answered once or waits for the loader exactly when every step was in order. -/
theorem run_answered_iff (parser : Parser μ) (s : Server μ) {acts : List (ServiceAction μ)}
    {w : Service μ} (hrun : (serviceSystem parser).run { server := s } acts = some w) :
    w.AnsweredOnce ↔ (serviceSystem parser).RunMeets (Service.InOrder parser)
      { server := s } acts := by
  have hstart : ({ server := s } : Service μ).WellFormed := ⟨List.nodup_nil, nofun⟩
  have hnone : ({ server := s } : Service μ).AnsweredOnce := by
    intro n e he
    simp at he
  rw [TransSys.run_iff_runMeets (I := Service.WellFormed)
    (fun w a w' hw hst => Service.step_wellFormed hw hst)
    (fun w a w' hw hst => Service.step_answered_iff hw hst) hstart hrun]
  exact and_iff_right hnone

/-- A server with nothing in it. -/
def emptyServer : Server UInt8 where
  database := fun _ => none
  lastWrite := fun _ => none

/-- A load of the coin 7 that comes back, then an update and a removal. -/
def loadActs : List (ServiceAction UInt8) :=
  [.packet (coinPacket .loadEntity) 1, .loaded 0 ⟨true, some 5⟩,
    .packet (coinPacket .updateEntity) 2, .packet (coinPacket .removeEntity) 3]

theorem run_answered_iff_load :
    ∃ w, (serviceSystem coinParser).run { server := emptyServer } loadActs = some w ∧
      w.AnsweredOnce := by
  obtain ⟨w, hw⟩ : ∃ w, (serviceSystem coinParser).run { server := emptyServer } loadActs = some w :=
    ⟨_, rfl⟩
  refine ⟨w, hw, (run_answered_iff coinParser emptyServer hw).mpr ?_⟩
  refine ⟨fun _ => ⟨rfl, fun _ _ x hx => ?_⟩, _, rfl, ?_, _, rfl, fun _ => ⟨rfl, nofun⟩, _, rfl,
    fun _ => ⟨rfl, nofun⟩, _, rfl, trivial⟩
  · exact absurd hx nofun
  · intro load hload _
    obtain rfl := Option.some.inj hload
    exact ⟨nofun, fun _ => rfl⟩

/-- A packet that is not a request, and two loads that both come back: the first gets
no reply, the reply to the last serialises a deleted entity. -/
theorem packets_unanswered :
    (∃ w ∈ (serviceSystem coinParser).run { server := emptyServer }
        [.packet { coinPacket .updateEntity with body := [] } 1], ¬ w.AnsweredOnce) ∧
    (∃ w ∈ (serviceSystem coinParser).run { server := emptyServer }
        [.packet (coinPacket .loadEntity) 1, .packet (coinPacket .loadEntity) 2,
          .loaded 0 ⟨true, some 5⟩, .loaded 0 ⟨true, some 5⟩], ¬ w.AnsweredOnce) := by
  refine ⟨⟨_, rfl, fun h => ?_⟩, ⟨_, rfl, fun h => ?_⟩⟩
  · obtain ⟨r, hr, _⟩ := h 0 _ rfl nofun
    cases hr
  · obtain ⟨r, hr, _, hgarbage⟩ := h 1 _ rfl nofun
    obtain rfl := List.head_eq_of_cons_eq hr
    exact hgarbage rfl

end Steppingstone.Cached
