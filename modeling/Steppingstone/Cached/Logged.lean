/-
  Steppingstone.Cached.Logged — the write requests and the record log.

  A scene that is answered with NORMAL drops its own copy of what it sent, so a
  write should be answered with NORMAL exactly when it is in the log.  Here the
  packet is taken from its bytes on: the parsing at the head of
  `EntityHander::handlePacket` can give up without any answer.  What protobuf
  and the entity parser do is a parameter (`Parser`).
-/
import Steppingstone.Cached.ReadYourWrites

namespace Steppingstone.Cached

open Std (TreeMap)
open Converter (Record RecordType)

variable {μ : Type}

/-! ## §1. Packets and their parsing. -/

/-- `db_data_request`; the optional fields have the defaults of protobuf. -/
structure DbDataRequest where
  transactionIndex : UInt32
  transactionNum : UInt32
  transactionId : UInt32
  lineId : UInt32 := 0
  dataStream : List UInt8 := []
  ownerGuid : UInt64 := 0
  entityName : String := ""
  deriving Repr, DecidableEq

/-- A request packet of a scene. -/
structure Packet where
  opcode : Opcode
  guid : UInt64
  body : List UInt8
  owner : Nat := 0
  deriving Repr, DecidableEq

/-- What is generated or loaded: the two `PARSE_PACKET`s, and whether
`getParser()->create` knows the entity name. -/
structure Parser (μ : Type) where
  parseRequest : List UInt8 → Option DbDataRequest
  creates : UInt64 → String → Bool
  parseEntity : String → List UInt8 → Option μ

/-- The head of `handlePacket`: the `DataRequestInfo` of a packet, or `none` when
it returns early.  An empty data stream is no entity. -/
def readPacket (parser : Parser μ) (packet : Packet) (now : UInt64) :
    Option (DataRequestInfo μ) :=
  match parser.parseRequest packet.body with
  | none => none
  | some dataRequest =>
      let info (entityMsg : Option μ) : DataRequestInfo μ :=
        { opcode := packet.opcode, guid := packet.guid, entityMsg, lastModifyTime := now,
          packetOwner := packet.owner, ownerGuid := dataRequest.ownerGuid,
          transactionIndex := dataRequest.transactionIndex,
          transactionNum := dataRequest.transactionNum,
          transactionId := dataRequest.transactionId, lineId := dataRequest.lineId }
      if dataRequest.dataStream.isEmpty then some (info none)
      else if parser.creates packet.guid dataRequest.entityName then
        (parser.parseEntity dataRequest.entityName dataRequest.dataStream).map
          (fun v => info (some v))
      else none

/-- `EntityHander::handlePacket`, the whole of it. -/
def Server.handleRawPacket (s : Server μ) (parser : Parser μ) (packet : Packet)
    (now : UInt64) : Server μ :=
  match readPacket parser packet now with
  | none => s
  | some info => s.handlePacket info

/-- The type of the record that a write request is logged with. -/
def Opcode.recordType : Opcode → Option RecordType
  | .newEntity => some .insert
  | .newEntityWithFlush => some .insertWithFlush
  | .updateEntity => some .update
  | .flushEntity => some .flush
  | .removeEntity => some .remove
  | .loadEntity | .loadEntityOnce | .onlyRemoveEntity => none

/-- A packet that is read: its head and its request, with some entity or none. -/
theorem readPacket_eq {parser : Parser μ} {packet : Packet} {now : UInt64}
    {info : DataRequestInfo μ} (h : readPacket parser packet now = some info) :
    ∃ dataRequest entityMsg, parser.parseRequest packet.body = some dataRequest ∧
      info =
        { opcode := packet.opcode, guid := packet.guid, entityMsg, lastModifyTime := now,
          packetOwner := packet.owner, ownerGuid := dataRequest.ownerGuid,
          transactionIndex := dataRequest.transactionIndex,
          transactionNum := dataRequest.transactionNum,
          transactionId := dataRequest.transactionId, lineId := dataRequest.lineId } := by
  unfold readPacket at h
  match hr : parser.parseRequest packet.body with
  | none => simp [hr] at h
  | some dataRequest =>
      rw [hr] at h
      dsimp only at h
      split_ifs at h
      · exact ⟨dataRequest, none, rfl, (Option.some.inj h).symm⟩
      · obtain ⟨v, _, rfl⟩ := Option.map_eq_some_iff.mp h
        exact ⟨dataRequest, some v, rfl, rfl⟩

/-- What was read is what the packet says. -/
@[simp] theorem readPacket_opcode {parser : Parser μ} {packet : Packet} {now : UInt64}
    {info : DataRequestInfo μ} (h : readPacket parser packet now = some info) :
    info.opcode = packet.opcode ∧ info.guid = packet.guid := by
  obtain ⟨_, _, -, rfl⟩ := readPacket_eq h
  exact ⟨rfl, rfl⟩

/-! ## §2. What one request appends. -/

namespace Server

variable (s t : Server μ)

/-- The records that `t` has after those of `s`. -/
def newRecords : List (Record (Option μ)) := t.recordSet.drop s.recordSet.length

/-- The replies that `t` has after those of `s`. -/
def newReplies : List (Reply μ) := t.replies.drop s.replies.length

/-- Nothing that was logged or answered before is changed. -/
def Extends : Prop :=
  t.recordSet = s.recordSet ++ s.newRecords t ∧ t.replies = s.replies ++ s.newReplies t

variable {s t}

/-- The records a call has added. -/
theorem newRecords_of_eq {rs : List (Record (Option μ))}
    (h : t.recordSet = s.recordSet ++ rs) : s.newRecords t = rs := by
  show t.recordSet.drop s.recordSet.length = rs
  rw [h, List.drop_left]

/-- The replies a call has added. -/
theorem newReplies_of_eq {rs : List (Reply μ)} (h : t.replies = s.replies ++ rs) :
    s.newReplies t = rs := by
  show t.replies.drop s.replies.length = rs
  rw [h, List.drop_left]

variable (s t)

/-- `t` differs from `s` by these records and replies, as far as the log and the
answers go. -/
structure Appends (records : List (Record (Option μ))) (replies : List (Reply μ)) : Prop where
  records : t.recordSet = s.recordSet ++ records
  replies : t.replies = s.replies ++ replies

variable {s t} {records : List (Record (Option μ))} {replies : List (Reply μ)}

theorem Appends.newRecords_eq (h : s.Appends t records replies) : s.newRecords t = records :=
  newRecords_of_eq h.records

theorem Appends.newReplies_eq (h : s.Appends t records replies) : s.newReplies t = replies :=
  newReplies_of_eq h.replies

theorem Appends.extends (h : s.Appends t records replies) : s.Extends t := by
  refine ⟨?_, ?_⟩
  · rw [h.newRecords_eq]
    exact h.records
  · rw [h.newReplies_eq]
    exact h.replies

theorem Appends.refl (s : Server μ) : s.Appends s [] [] :=
  ⟨(List.append_nil _).symm, (List.append_nil _).symm⟩

/-- One call after another adds what both add. -/
theorem Appends.trans {u : Server μ} {records' : List (Record (Option μ))}
    {replies' : List (Reply μ)} (h : s.Appends t records replies)
    (h' : t.Appends u records' replies') :
    s.Appends u (records ++ records') (replies ++ replies') where
  records := by rw [h'.records, h.records, List.append_assoc]
  replies := by rw [h'.replies, h.replies, List.append_assoc]

/-! ## §3. The handlers append one reply, and a record if they get that far. -/

variable (s) (info : DataRequestInfo μ)

/-- Whether the handler of a write gets to `writeRecord`. -/
def logs (info : DataRequestInfo μ) : Bool :=
  match info.opcode with
  | .newEntity => info.entityMsg.isSome && (s.entityMap[info.guid]?).isNone
  | .updateEntity => info.entityMsg.isSome
  | .flushEntity => (s.entityMap[info.guid]?).isSome
  | _ => true

/-- Whether a write is answered with NORMAL.  Only the handler of NEW does not
look at what became of the entity. -/
def acknowledges (info : DataRequestInfo μ) : Bool :=
  match info.opcode with
  | .newEntity => true
  | _ => s.logs info

/-- The reply to a write. -/
def replyOf (acknowledged : Bool) : Reply μ :=
  { request := info, status := if acknowledged then .normal else .entityNotFound,
    message := .empty }

/-- Taking an entity out adds nothing. -/
theorem removeEntity_appends (g : UInt64) : s.Appends (s.removeEntity g) [] [] := by
  unfold removeEntity
  split
  · exact ⟨(List.append_nil _).symm, (List.append_nil _).symm⟩
  · exact .refl s

/-- Changing an entity adds nothing. -/
theorem updateEntity_appends (v : μ) (g : UInt64) : s.Appends (s.updateEntity v g) [] [] := by
  unfold updateEntity
  split
  · exact ⟨(List.append_nil _).symm, (List.append_nil _).symm⟩
  · exact .refl s

/-- `addEntity` succeeds for an entity whose guid is free, and only then. -/
theorem addEntity_snd (m : Option μ) (g : UInt64) :
    (s.addEntity m g).2 = (m.isSome && (s.entityMap[g]?).isNone) := by
  unfold addEntity
  match m with
  | none => rfl
  | some v =>
      match s.entityMap[g]? with
      | none => rfl
      | some w => rfl

/-- Adding an entity adds nothing. -/
theorem addEntity_appends (m : Option μ) (g : UInt64) : s.Appends (s.addEntity m g).1 [] [] := by
  unfold addEntity
  match m with
  | none => exact .refl s
  | some v =>
      match s.entityMap[g]? with
      | none => exact ⟨(List.append_nil _).symm, (List.append_nil _).symm⟩
      | some w => exact .refl s

/-- The result of `addEntity` decides whether there is a record; the reply is NORMAL
in both cases. -/
theorem handleNewEntity_appends :
    s.Appends (s.handleNewEntity info)
      (if info.entityMsg.isSome && (s.entityMap[info.guid]?).isNone
        then [recordOf info .insert] else [])
      [replyOf info true] := by
  unfold handleNewEntity
  dsimp only
  rw [addEntity_snd]
  have hadd := s.addEntity_appends info.entityMsg info.guid
  split_ifs
  · exact hadd.trans ⟨rfl, rfl⟩
  · exact hadd.trans ⟨(List.append_nil _).symm, rfl⟩

/-- A NEW that is flushed is logged and answered. -/
theorem handleNewEntityWithFlush_appends :
    s.Appends (s.handleNewEntityWithFlush info) [recordOf info .insertWithFlush]
      [replyOf info true] :=
  ⟨rfl, rfl⟩

/-- A FLUSH is logged if the entity is there. -/
theorem handleFlushEntity_appends :
    s.Appends (s.handleFlushEntity info)
      (if (s.entityMap[info.guid]?).isSome then [recordOf info .flush] else [])
      [replyOf info (s.entityMap[info.guid]?).isSome] := by
  unfold handleFlushEntity
  match s.entityMap[info.guid]? with
  | none => exact ⟨(List.append_nil _).symm, rfl⟩
  | some _ =>
      -- the entity leaves the map after the reply
      have hwritten : s.Appends
          (((({ s with lruMap := s.lruMap.update info.guid info.entityMsg info.lastModifyTime }
            : Server μ).writeRecord info .flush).replayWrite info info.entityMsg))
          [recordOf info .flush] [replyOf info true] := ⟨rfl, rfl⟩
      exact hwritten.trans (removeEntity_appends _ info.guid)

/-- An UPDATE is logged if its message can be read. -/
theorem handleUpdateEntity_appends :
    s.Appends (s.handleUpdateEntity info)
      (if info.entityMsg.isSome then [recordOf info .update] else [])
      [replyOf info info.entityMsg.isSome] := by
  unfold handleUpdateEntity
  match h : info.entityMsg with
  | none => exact ⟨(List.append_nil _).symm, rfl⟩
  | some v =>
      have hlogged : s.Appends (s.writeRecord info .update) [recordOf info .update] [] :=
        ⟨rfl, (List.append_nil _).symm⟩
      exact (hlogged.trans (updateEntity_appends _ v info.guid)).trans
        ⟨(List.append_nil _).symm, rfl⟩

/-- A REMOVE is logged and answered. -/
theorem handleRemoveEntity_appends :
    s.Appends (s.handleRemoveEntity info) [recordOf info .remove] [replyOf info true] := by
  have hlogged : s.Appends (({ s with lruMap := s.lruMap.updateToDelete info.guid }
      : Server μ).writeRecord info .remove) [recordOf info .remove] [] :=
    ⟨rfl, (List.append_nil _).symm⟩
  exact (hlogged.trans (removeEntity_appends _ info.guid)).trans
    ⟨(List.append_nil _).symm, rfl⟩

/-- **What a write request appends**: its record if the handler gets to
`writeRecord`, and one reply. -/
theorem handlePacket_appends {type : RecordType} (hw : info.opcode.recordType = some type) :
    s.Appends (s.handlePacket info) (if s.logs info then [recordOf info type] else [])
      [replyOf info (s.acknowledges info)] := by
  unfold handlePacket acknowledges logs
  revert hw
  -- the other three opcodes have no record type
  match info.opcode with
  | .newEntity => exact fun hw => Option.some.inj hw ▸ s.handleNewEntity_appends info
  | .newEntityWithFlush =>
      exact fun hw => Option.some.inj hw ▸ s.handleNewEntityWithFlush_appends info
  | .updateEntity => exact fun hw => Option.some.inj hw ▸ s.handleUpdateEntity_appends info
  | .flushEntity => exact fun hw => Option.some.inj hw ▸ s.handleFlushEntity_appends info
  | .removeEntity => exact fun hw => Option.some.inj hw ▸ s.handleRemoveEntity_appends info
  | .loadEntity | .loadEntityOnce | .onlyRemoveEntity => nofun

/-! ## §4. Loads append at most one reply. -/

theorem reply_appends (status : Status) (message : Content μ) :
    s.Appends (s.reply info status message) [] [⟨info, status, message⟩] :=
  ⟨(List.append_nil _).symm, rfl⟩

theorem process_appends : s.Appends (s.process info) [] [] :=
  ⟨(List.append_nil _).symm, (List.append_nil _).symm⟩

/-- The reply to a LOAD that waited logs nothing. -/
theorem replayLoad_appends (item : Item μ) : ∃ replies, s.Appends (s.replayLoad info item) [] replies :=
  match item with
  | .null => ⟨_, .refl s⟩
  | .valid v => ⟨_, s.reply_appends info .normal (.value v)⟩
  | .freed => ⟨_, s.reply_appends info .normal .garbage⟩

/-- A LOAD logs nothing. -/
theorem handleLoadEntity_appends : ∃ replies, s.Appends (s.handleLoadEntity info) [] replies := by
  unfold handleLoadEntity
  match s.entityMap[info.guid]? with
  | some v => exact s.replayLoad_appends info _
  | none =>
      match s.lruMap.query info.guid with
      | none => exact ⟨_, s.process_appends info⟩
      | some x =>
          dsimp only
          have hlend : s.Appends { s with lruMap := s.lruMap.lend info.guid } [] [] :=
            ⟨(List.append_nil _).symm, (List.append_nil _).symm⟩
          match x.item with
          | .valid v =>
              have hadd := hlend.trans (addEntity_appends _ (some v) info.guid)
              obtain ⟨replies, h⟩ := replayLoad_appends _ info (.valid v)
              exact ⟨_, hadd.trans h⟩
          | .null | .freed =>
              obtain ⟨replies, h⟩ := replayLoad_appends _ info _
              exact ⟨_, hlend.trans h⟩

theorem handleLoadEntityOnce_appends :
    ∃ replies, s.Appends (s.handleLoadEntityOnce info) [] replies := by
  unfold handleLoadEntityOnce
  match s.entityMap[info.guid]? with
  | some v => exact s.replayLoad_appends info _
  | none =>
      match s.lruMap.query info.guid with
      | none => exact ⟨_, s.process_appends info⟩
      | some x =>
          dsimp only
          match x.item with
          | .valid v => exact s.replayLoad_appends info _
          | .null | .freed => exact ⟨_, s.reply_appends info _ _⟩

/-- **Requests only append**, to the log and to the replies. -/
theorem handlePacket_extends : s.Extends (s.handlePacket info) := by
  match hop : info.opcode.recordType with
  | some type => exact (s.handlePacket_appends info hop).extends
  | none =>
      unfold handlePacket
      revert hop
      match info.opcode with
      | .loadEntity => exact fun _ => (s.handleLoadEntity_appends _).elim fun _ h => h.extends
      | .loadEntityOnce =>
          exact fun _ => (s.handleLoadEntityOnce_appends _).elim fun _ h => h.extends
      | .onlyRemoveEntity => exact fun _ => (s.removeEntity_appends info.guid).extends
      | .newEntity | .newEntityWithFlush | .updateEntity | .flushEntity | .removeEntity => nofun

/-! ## §5. Logged once. -/

variable (t : Server μ)

/-- Exactly one record was appended, and it is of this type, guid and value. -/
def LoggedOnce (type : RecordType) (guid : UInt64) (value : Option μ) : Prop :=
  ∃ r, s.newRecords t = [r] ∧ r.optype = type ∧ r.objectGuid = guid ∧ r.stream = value

/-- A reply with status NORMAL was sent. -/
def AnsweredNormal : Prop := ∃ r ∈ s.newReplies t, r.status = .normal

/-- A reply with an error status was sent. -/
def AnsweredError : Prop := ∃ r ∈ s.newReplies t, r.status ≠ .normal

/-- A write is answered with NORMAL exactly when it is logged once; and when it is
not logged, with an error. -/
def WriteLogged (type : RecordType) (guid : UInt64) (value : Option μ) : Prop :=
  (s.AnsweredNormal t ↔ s.LoggedOnce t type guid value) ∧
    (¬ s.LoggedOnce t type guid value → s.AnsweredError t)

variable {s t info}

/-- With one reply and at most one record, everything depends on the two flags. -/
theorem writeLogged_iff_of_appends {type : RecordType} {logged acknowledged : Bool}
    (h : s.Appends t (if logged then [recordOf info type] else [])
      [replyOf info acknowledged]) :
    s.WriteLogged t type info.guid info.entityMsg ↔ logged = acknowledged := by
  have hnormal : s.AnsweredNormal t ↔ acknowledged = true := by
    unfold AnsweredNormal
    rw [h.newReplies_eq]
    cases acknowledged <;> simp [replyOf]
  have herror : s.AnsweredError t ↔ acknowledged = false := by
    unfold AnsweredError
    rw [h.newReplies_eq]
    cases acknowledged <;> simp [replyOf]
  have hlogged : s.LoggedOnce t type info.guid info.entityMsg ↔ logged = true := by
    unfold LoggedOnce
    rw [h.newRecords_eq]
    cases logged <;> simp [recordOf]
  unfold WriteLogged
  rw [hnormal, herror, hlogged]
  cases logged <;> cases acknowledged <;> simp

/-- A request that is dropped without a reply meets nothing of it. -/
theorem not_writeLogged_self (type : RecordType) (guid : UInt64) (value : Option μ) :
    ¬ s.WriteLogged s type guid value := by
  intro h
  have hnone : ¬ s.LoggedOnce s type guid value := by
    intro hlogged
    obtain ⟨r, hr, _⟩ := hlogged
    rw [(Appends.refl s).newRecords_eq] at hr
    exact absurd hr (by simp)
  obtain ⟨r, hr, _⟩ := h.2 hnone
  rw [(Appends.refl s).newReplies_eq] at hr
  exact absurd hr (by simp)

variable (s info)

/-- The two flags differ only for a NEW that `addEntity` refuses. -/
theorem logs_eq_acknowledges_iff :
    s.logs info = s.acknowledges info ↔ (info.opcode = .newEntity →
      info.entityMsg.isSome = true ∧ s.entityMap[info.guid]? = none) := by
  unfold acknowledges
  match hop : info.opcode with
  | .newEntity =>
      unfold logs
      simp [hop]
  | .loadEntity | .flushEntity | .updateEntity | .removeEntity | .loadEntityOnce
  | .newEntityWithFlush | .onlyRemoveEntity => simp

end Server

/-- **When a write request is logged once**: it can be read, and a NEW brings an
entity whose guid is not in the entity map. -/
theorem writeLogged_iff (s : Server μ) (parser : Parser μ) (packet : Packet) (now : UInt64)
    {type : RecordType} (hw : packet.opcode.recordType = some type) :
    s.WriteLogged (s.handleRawPacket parser packet now) type packet.guid
        ((readPacket parser packet now).bind (·.entityMsg)) ↔
      ∃ info, readPacket parser packet now = some info ∧
        (packet.opcode = .newEntity →
          info.entityMsg.isSome = true ∧ s.entityMap[packet.guid]? = none) := by
  unfold Server.handleRawPacket
  match hread : readPacket parser packet now with
  | none =>
      have hno : ¬ s.WriteLogged s type packet.guid none := Server.not_writeLogged_self _ _ _
      simpa using hno
  | some info =>
      obtain ⟨hop, hguid⟩ := readPacket_opcode hread
      have happ := s.handlePacket_appends info (hop ▸ hw)
      have hiff := Server.writeLogged_iff_of_appends happ
      rw [s.logs_eq_acknowledges_iff info, hop, hguid] at hiff
      simpa using hiff

/-! ## §6. A coin that is there already. -/

/-- `Coin` with `guid = 7`, `player = 9` and the coins, in the wire format. -/
def coinBytes (coin : UInt8) : List UInt8 := [0x08, 7, 0x10, 9, 0x18, coin]

/-- A `db_data_request` outside a transaction, with this coin as its data stream. -/
def coinRequest (coin : UInt8) : List UInt8 :=
  [0x08, 0, 0x10, 0, 0x18, 0, 0x2a, 6] ++ coinBytes coin ++
    [0x3a, 4] ++ "Coin".toList.map (fun c => c.toNat.toUInt8)

/-- The parser, on such bytes; a `Coin` is its `coin`. -/
def coinParser : Parser UInt8 where
  parseRequest body := body[13]?.bind fun coin =>
    if body = coinRequest coin then
      some { transactionIndex := 0, transactionNum := 0, transactionId := 0,
             dataStream := coinBytes coin, entityName := "Coin" }
    else none
  creates _ name := name = "Coin"
  parseEntity name stream := stream[5]?.bind fun coin =>
    if name = "Coin" ∧ stream = coinBytes coin then some coin else none

/-- The coin 7 with five coins is in the entity map. -/
def coinServer : Server UInt8 where
  entityMap := TreeMap.empty.insert 7 5
  database := fun _ => none
  lastWrite := fun _ => none

/-- A request about the coin 7, with six coins. -/
def coinPacket (opcode : Opcode) : Packet where
  opcode := opcode
  guid := 7
  body := coinRequest 6

theorem writeLogged_iff_update :
    coinServer.WriteLogged
      (coinServer.handleRawPacket coinParser (coinPacket .updateEntity) 1) .update 7 (some 6) :=
  (writeLogged_iff coinServer coinParser (coinPacket .updateEntity) 1 rfl).mpr
    ⟨_, rfl, fun h => Opcode.noConfusion h⟩

/-- **A NEW for a guid in the entity map** is answered with NORMAL and leaves no record. -/
theorem duplicate_new_unlogged :
    (coinPacket .newEntity).opcode.recordType = some .insert ∧
    ¬ coinServer.WriteLogged
      (coinServer.handleRawPacket coinParser (coinPacket .newEntity) 1) .insert 7 (some 6) := by
  refine ⟨rfl, ?_⟩
  intro h
  have hnormal : coinServer.AnsweredNormal
      (coinServer.handleRawPacket coinParser (coinPacket .newEntity) 1) :=
    ⟨⟨_, .normal, .empty⟩, List.mem_singleton.mpr rfl, rfl⟩
  obtain ⟨r, hr, _⟩ := h.1.mp hnormal
  have hnone : coinServer.newRecords
      (coinServer.handleRawPacket coinParser (coinPacket .newEntity) 1) = [] := rfl
  rw [hnone] at hr
  exact absurd hr (by simp)

end Steppingstone.Cached
