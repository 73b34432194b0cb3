/-
  Steppingstone.Player.LoadFailed — a login whose load fails, and what it leaves in the cache
  (`PlayerAssistant::request_load_player` to `playerLoadFailed`, `PoolImp::onlyRemoveEntity`).

  The entities of a player are requested in three lists, one after the other; a player who is in
  the world already brings its Coin from the line scene before the first.  What has come waits in
  the loading data, and only a load that succeeds moves it into the pool.

  `playerLoadFailed` walks the list that failed, and there the requests marked `complated`.
  Nothing marks a request, and the lists before are gone: a failed load releases nothing.

  The answers to a list come in any order.  An answer carries an entity as the database has it,
  well typed under its guid.  What `ManagePlayer` does when the load is over is left out, and so
  are the pool's own lists (`Pool.Model`).
-/
import Steppingstone.Pool.Replies
import Steppingstone.Player.Load

namespace Steppingstone.Player

open Std (TreeMap)
open Steppingstone.Pool (PoolImp EntityInfo CacheReply Request RequestList handleFirst)

/-! ## §1. The scene. -/

/-- The callback a list is committed with. -/
inductive LoadCallBack
  | loadPlayerFromDb
  | loadPlayerRole
  | loadPlayerRoleEquipment
  deriving Repr, DecidableEq

/-- What a load waits for, or how it has ended. -/
inductive LoadPhase
  /-- The answer to `STOL_REQUEST_PLAYER_DATA`. -/
  | coin
  /-- The answers to the packets in flight, for the list and the player of the callback. -/
  | requested (callBack : LoadCallBack) (playerGuid : UInt64) (requestList : RequestList Entity)
      (inFlight : List UInt64)
  /-- `ManagePlayer::initPlayer`, a player the database does not have. -/
  | initPlayer
  /-- `ManagePlayer::playerDataLoadFinish`. -/
  | finished (isSuccess : Bool)
  /-- One of the early returns. -/
  | returned

/-- A packet of `onlyRemoveEntity`. -/
structure OnlyRemove where
  guid : UInt64
  ownerGuid : UInt64
  deriving Repr, DecidableEq

/-- `PlayerAssistant`, with the pool of its scene and the packets of `onlyRemoveEntity`. -/
structure PlayerAssistant where
  /-- `PluginCfg::cache_type`; 0 is a single terminal. -/
  cacheType : Int32
  pool : PoolImp Entity
  /-- `m_player_loading_data_map` -/
  loadingData : TreeMap UInt64 LoadingEntities := {}
  onlyRemoves : List OnlyRemove := []
  phase : LoadPhase := .returned

/-- `RequestListImp::is_all_failed` -/
def isAllFailed (requestList : RequestList Entity) : Bool :=
  requestList.requestVec.all (!·.success)

/-- The loop that adds what a list has brought to the loading data. -/
def LoadingEntities.addEntities (pld : LoadingEntities) (requestList : RequestList Entity) :
    LoadingEntities :=
  requestList.requestVec.foldl (fun pld req =>
    match req.message with
    | some message => pld.insertIfNew req.guid message
    | none => pld) pld

/-- `PlayerLoadingData::addEntityToPool` -/
def LoadingEntities.addEntityToPool (pld : LoadingEntities) (pool : PoolImp Entity)
    (playerGuid : UInt64) : PoolImp Entity :=
  pld.toList.foldl (fun pool e => (pool.add e.1 (some e.2) false playerGuid).1) pool

namespace PlayerAssistant

/-! ## §2. The end of a load. -/

/-- The caller is told how the load ended. -/
def playerDataLoadFinish (s : PlayerAssistant) (isSuccess : Bool) : PlayerAssistant :=
  { s with phase := .finished isSuccess }

/-- The data of the load is dropped. -/
def removePlayerLoadingData (s : PlayerAssistant) (guid : UInt64) : PlayerAssistant :=
  { s with loadingData := s.loadingData.erase guid }

/-- An entity leaves the cache of the servers only. -/
def onlyRemoveEntity (s : PlayerAssistant) (guid ownerGuid : UInt64) : PlayerAssistant :=
  { s with onlyRemoves := s.onlyRemoves ++ [{ guid, ownerGuid }] }

/-- A list of the load has failed. -/
def playerLoadFailed (s : PlayerAssistant) (guid : UInt64) (requestList : RequestList Entity) :
    PlayerAssistant :=
  -- only the list that failed is walked, and only its marked requests
  let s := requestList.requestVec.foldl (fun s request =>
    if request.complated && request.success then s.onlyRemoveEntity request.guid guid else s) s
  (s.removePlayerLoadingData guid).playerDataLoadFinish false

/-- The last list of the load has succeeded. -/
def playerLoadSuccess (s : PlayerAssistant) (guid : UInt64) : PlayerAssistant :=
  match s.loadingData[guid]? with
  | none => { s with phase := .returned }
  | some pld =>
      let s := { s with pool := pld.addEntityToPool s.pool guid }
      (s.removePlayerLoadingData guid).playerDataLoadFinish true

/-! ## §3. The stages. -/

/-- `createRequestList`, a `LOAD_REQUEST` for each guid, and `POOL_OP_COMMIT`. -/
def commit (s : PlayerAssistant) (callBack : LoadCallBack) (playerGuid ownerGuid : UInt64)
    (guids : List UInt64) : PlayerAssistant :=
  let requestId := s.pool.requestId + 1
  let requestVec := guids.map fun guid =>
    { requestType := .load, guid, message := none, ownerGuid }
  { s with
    pool := { s.pool with requestId }
    phase := .requested callBack playerGuid { requestId, requestVec } guids }

/-- `load_player_role_equipment` -/
def loadPlayerRoleEquipment (s : PlayerAssistant) (playerGuid : UInt64)
    (requestList : RequestList Entity) : PlayerAssistant :=
  if requestList.isSuccess then
    match s.loadingData[playerGuid]? with
    | none => { s with phase := .returned }
    | some pld =>
        let s := { s with
          loadingData := s.loadingData.insert playerGuid (pld.addEntities requestList) }
        s.playerLoadSuccess playerGuid
  else s.playerLoadFailed playerGuid requestList

/-- `load_player_role` -/
def loadPlayerRole (s : PlayerAssistant) (playerGuid : UInt64)
    (requestList : RequestList Entity) : PlayerAssistant :=
  if requestList.isSuccess then
    match s.loadingData[playerGuid]? with
    | none => { s with phase := .returned }
    | some pld =>
        let pld := pld.addEntities requestList
        let s := { s with loadingData := s.loadingData.insert playerGuid pld }
        match pld.player playerGuid with
        | none => { s with phase := .returned }
        | some player =>
            let guids := Player.loadPlayerRole pld player
            if guids.isEmpty then s.playerLoadSuccess playerGuid
            else s.commit .loadPlayerRoleEquipment playerGuid playerGuid guids
  else s.playerLoadFailed playerGuid requestList

/-- `load_player` for the player's message; another message than a player's cannot come. -/
def loadPlayer (s : PlayerAssistant) (message : Entity) : PlayerAssistant :=
  match message.asPlayer, s.loadingData[message.guid]? with
  | some player, some pld =>
      let s := { s with
        loadingData := s.loadingData.insert message.guid (pld.insertIfNew message.guid message) }
      let guids := Player.loadPlayer player
      if guids.isEmpty then s.playerLoadSuccess message.guid
      else s.commit .loadPlayerRole message.guid message.guid guids
  | _, _ => { s with phase := .returned }

/-- `load_player_from_db` -/
def loadPlayerFromDb (s : PlayerAssistant) (playerGuid : UInt64)
    (requestList : RequestList Entity) : PlayerAssistant :=
  if requestList.isSuccess then
    match s.loadingData[playerGuid]? with
    | none => { s with phase := .returned }
    | some _ =>
        requestList.requestVec.foldl (fun s req =>
          match req.message with
          | some message => s.loadPlayer message
          | none => s) { s with phase := .returned }
  -- a single terminal makes the player that the database does not have
  else if s.cacheType = 0 ∧ isAllFailed requestList then { s with phase := .initPlayer }
  else s.playerLoadFailed playerGuid requestList

/-- `load_player` for the Coin of the line scene. -/
def loadPlayerCoin (s : PlayerAssistant) (message : Entity) (coin : CoinEntity) :
    PlayerAssistant :=
  match s.loadingData[coin.player]? with
  | none => { s with phase := .returned }
  | some pld =>
      let s := { s with
        loadingData := s.loadingData.insert coin.player (pld.insertIfNew message.guid message) }
      s.commit .loadPlayerFromDb coin.player coin.player [coin.player]

/-- `request_load_player`; a player whose loading data is there is not loaded again. -/
def requestLoadPlayer (s : PlayerAssistant) (playerGuid : UInt64) (playerEnteredWorld : Bool) :
    PlayerAssistant :=
  match s.loadingData[playerGuid]? with
  | some _ => { s with phase := .returned }
  | none =>
      let s := { s with loadingData := s.loadingData.insert playerGuid {} }
      -- a player in the world: its Coin is asked for at the line scene first
      if playerEnteredWorld then { s with phase := .coin }
      else s.commit .loadPlayerFromDb playerGuid playerGuid [playerGuid]

/-- The callback of a list that is complete. -/
def callBack (s : PlayerAssistant) (playerGuid : UInt64) (requestList : RequestList Entity) :
    LoadCallBack → PlayerAssistant
  | .loadPlayerFromDb => s.loadPlayerFromDb playerGuid requestList
  | .loadPlayerRole => s.loadPlayerRole playerGuid requestList
  | .loadPlayerRoleEquipment => s.loadPlayerRoleEquipment playerGuid requestList

end PlayerAssistant

/-! ## §4. A login. -/

/-- A login: the guids whose load the cache answered with success, and the Coins that the line
scene has handed over. -/
structure Login where
  player : UInt64
  assistant : PlayerAssistant
  answered : List UInt64 := []
  coins : List UInt64 := []

/-- The Coin comes from the line scene, or the cache answers one of the packets in flight. -/
inductive LoadEvent
  | deliver (coin : Entity)
  | reply (i : Nat) (reply : CacheReply Entity)

/-- The message of the answer is an entity of the database. -/
def ReplyTyped (guid : UInt64) (reply : CacheReply Entity) : Prop :=
  ∀ e ∈ reply.payload, e.WellTyped guid

instance decidableReplyTyped (guid : UInt64) (reply : CacheReply Entity) :
    Decidable (ReplyTyped guid reply) :=
  inferInstanceAs (Decidable (∀ e ∈ reply.payload, e.WellTyped guid))

namespace Login

/-- The login begins; the packets that count are those sent from here on. -/
def start (s : PlayerAssistant) (player : UInt64) (playerEnteredWorld : Bool) : Login where
  player
  assistant := { s with onlyRemoves := [] }.requestLoadPlayer player playerEnteredWorld

/-- `RequestListImp::handlePacket`, and the callback if the list is complete. -/
def handlePacket (s : Login) (callBack : LoadCallBack) (playerGuid : UInt64)
    (requestList : RequestList Entity) (inFlight : List UInt64) (guid : UInt64)
    (reply : CacheReply Entity) : Login :=
  let requestList := requestList.handlePacket guid reply
  { s with
    answered := if reply.isNormal then guid :: s.answered else s.answered
    assistant :=
      if requestList.complated then s.assistant.callBack playerGuid requestList callBack
      else { s.assistant with phase := .requested callBack playerGuid requestList inFlight } }

/-- What the load's next event does. -/
def step (s : Login) : LoadEvent → Option Login
  | .deliver coin =>
      match s.assistant.phase, coin.asCoin with
      | .coin, some fields =>
          if fields.player = s.player then
            some { s with
              assistant := s.assistant.loadPlayerCoin coin fields
              coins := coin.guid :: s.coins }
          else none
      | _, _ => none
  | .reply i reply =>
      match s.assistant.phase with
      | .requested callBack playerGuid requestList inFlight =>
          match inFlight[i]? with
          | some guid =>
              if ReplyTyped guid reply then
                some (s.handlePacket callBack playerGuid requestList (inFlight.eraseIdx i) guid
                  reply)
              else none
          | none => none
      | _ => none

/-- The runs of a login. -/
def system : TransSys Login LoadEvent where
  init s := ∃ a player playerEnteredWorld, s = start a player playerEnteredWorld
  step := step

/-- The login has failed. -/
def Failed (s : Login) : Prop := s.assistant.phase = .finished false

instance decidableFailed (s : Login) : Decidable s.Failed :=
  match h : s.assistant.phase with
  | .finished false => isTrue h
  | .finished true | .coin | .requested _ _ _ _ | .initPlayer | .returned =>
      isFalse (by unfold Failed; rw [h]; simp)

end Login

/-- Nothing of the player is in the pool. -/
def HoldsNothing (pool : PoolImp Entity) (player : UInt64) : Prop :=
  ∀ (guid : UInt64) (info : EntityInfo Entity),
    pool.entityMap[guid]? = some info → info.ownerGuid ≠ player

/-- What a failed login is to leave behind, for the guids in `loaded`. -/
structure Login.Released (s : Login) (loaded : List UInt64) : Prop where
  pool : HoldsNothing s.assistant.pool s.player
  loadingData : s.assistant.loadingData[s.player]? = none
  onlyRemoves : ∀ guid ∈ loaded, { guid, ownerGuid := s.player } ∈ s.assistant.onlyRemoves

/-- The cache refuses the first request it answers, the one for the player itself. -/
def PlayerRefused : List LoadEvent → Prop
  | [] => True
  | .deliver _ :: as => PlayerRefused as
  | .reply _ reply :: _ => reply.isNormal = false

/-! ## §5. The requests of a list. -/

/-- A request of a load: nothing marks it, and its message is the entity of its guid. -/
structure Awaited (r : Request Entity) : Prop where
  isLoad : r.isLoad = true
  complated : r.complated = false
  message : ∀ e ∈ r.message, e.guid = r.guid

/-- The list of a callback; the first one asks for the player alone. -/
structure AwaitedList (callBack : LoadCallBack) (player : UInt64)
    (requestVec : List (Request Entity)) : Prop where
  awaited : ∀ r ∈ requestVec, Awaited r
  single : callBack = .loadPlayerFromDb → ∃ r, requestVec = [r] ∧ r.guid = player

/-- No answer marks a request. -/
theorem handlePacket_complated (r : Request Entity) (reply : CacheReply Entity) :
    (r.handlePacket reply).complated = r.complated := by
  obtain ⟨success, message, h⟩ := r.handlePacket_eq reply
  rw [h]

theorem Awaited.handlePacket {r : Request Entity} (h : Awaited r) {reply : CacheReply Entity}
    (ht : ReplyTyped r.guid reply) : Awaited (r.handlePacket reply) where
  isLoad := Request.handlePacket_isLoad.trans h.isLoad
  complated := (handlePacket_complated r reply).trans h.complated
  message e he := by
    rw [Request.handlePacket_message h.isLoad] at he
    rw [Request.handlePacket_guid]
    rcases Option.or_eq_some_iff.mp he with hp | ⟨-, hm⟩
    · exact (ht e hp).self
    · exact h.message e hm

theorem AwaitedList.handleFirst {callBack : LoadCallBack} {player guid : UInt64}
    {requestVec : List (Request Entity)} (h : AwaitedList callBack player requestVec)
    {reply : CacheReply Entity} (ht : ReplyTyped guid reply) :
    AwaitedList callBack player (handleFirst guid reply requestVec) where
  awaited := by
    have hall := h.awaited
    clear h
    -- the answer goes to the first request of its guid
    induction requestVec with
    | nil => exact List.forall_mem_nil _
    | cons r rs ih =>
        obtain ⟨hr, hrs⟩ := List.forall_mem_cons.mp hall
        unfold Pool.handleFirst
        split
        · next hg => exact List.forall_mem_cons.mpr ⟨hr.handlePacket (hg ▸ ht), hrs⟩
        · exact List.forall_mem_cons.mpr ⟨hr, ih hrs⟩
  single hc := by
    obtain ⟨r, rfl, hg⟩ := h.single hc
    unfold Pool.handleFirst
    split
    · exact ⟨r.handlePacket reply, rfl, Request.handlePacket_guid.trans hg⟩
    · exact ⟨r, rfl, hg⟩

theorem AwaitedList.handlePacket {callBack : LoadCallBack} {player guid : UInt64}
    {requestList : RequestList Entity}
    (h : AwaitedList callBack player requestList.requestVec) {reply : CacheReply Entity}
    (ht : ReplyTyped guid reply) :
    AwaitedList callBack player (requestList.handlePacket guid reply).requestVec := by
  unfold RequestList.handlePacket
  split
  · exact h.handleFirst ht
  · exact h

/-- What a stage commits. -/
theorem awaitedList_commit {callBack : LoadCallBack} {player ownerGuid : UInt64}
    {guids : List UInt64} (h : callBack = .loadPlayerFromDb → guids = [player]) :
    AwaitedList callBack player (guids.map fun guid =>
      { requestType := .load, guid, message := none, ownerGuid }) where
  awaited := by
    rintro r hr
    obtain ⟨guid, -, rfl⟩ := List.mem_map.mp hr
    exact ⟨rfl, rfl, by simp⟩
  single hc := by
    obtain rfl := h hc
    exact ⟨_, rfl, rfl⟩

/-! ## §6. What a callback can do. -/

/-- Nothing was released, and the pool is as it was. -/
structure Calm (pool : PoolImp Entity) (s : PlayerAssistant) : Prop where
  onlyRemoves : s.onlyRemoves = []
  pool : s.pool.entityMap = pool.entityMap

/-- **The invariant of a login** that began with the pool `pool`. -/
structure Sound (pool : PoolImp Entity) (player : UInt64) (s : PlayerAssistant) : Prop where
  onlyRemoves : s.onlyRemoves = []
  pool : s.phase ≠ .finished true → s.pool.entityMap = pool.entityMap
  requested : ∀ callBack playerGuid requestList inFlight,
    s.phase = .requested callBack playerGuid requestList inFlight →
    playerGuid = player ∧ AwaitedList callBack player requestList.requestVec
  failed : s.phase = .finished false → s.loadingData[player]? = none
  coin : s.phase ≠ .coin

/-- The loop of `playerLoadFailed`: of the list that failed, what is marked and has succeeded. -/
theorem foldl_onlyRemoveEntity (guid : UInt64) (requestVec : List (Request Entity))
    (s : PlayerAssistant) :
    requestVec.foldl (fun s request =>
      if request.complated && request.success then s.onlyRemoveEntity request.guid guid else s) s =
    { s with onlyRemoves := s.onlyRemoves ++
        (requestVec.filter fun r => r.complated && r.success).map fun r =>
          { guid := r.guid, ownerGuid := guid } } := by
  induction requestVec generalizing s with
  | nil => simp
  | cons r rs ih =>
      rw [List.foldl_cons, ih]
      cases hr : (r.complated && r.success) with
      | false => simp [hr]
      | true => simp [hr, PlayerAssistant.onlyRemoveEntity]

namespace Calm

variable {pool : PoolImp Entity} {player : UInt64} {s : PlayerAssistant}
  {requestList : RequestList Entity}

/-- The load waits for nothing and has not failed. -/
theorem sound (h : Calm pool s) (hp : s.phase = .returned ∨ s.phase = .initPlayer) :
    Sound pool player s where
  onlyRemoves := h.onlyRemoves
  pool _ := h.pool
  requested _ _ _ _ hr := by
    rw [hr] at hp
    simp at hp
  failed hf := by
    rw [hf] at hp
    simp at hp
  coin hc := by
    rw [hc] at hp
    simp at hp

theorem returned (h : Calm pool s) : Sound pool player { s with phase := .returned } :=
  Calm.sound ⟨h.onlyRemoves, h.pool⟩ (.inl rfl)

theorem setLoadingData (h : Calm pool s) (loadingData : TreeMap UInt64 LoadingEntities) :
    Calm pool { s with loadingData } := ⟨h.onlyRemoves, h.pool⟩

/-- Nothing marks a request, so the handler of a failed load has none to release. -/
theorem playerLoadFailed (h : Calm pool s) (hl : ∀ r ∈ requestList.requestVec, Awaited r) :
    Sound pool player (s.playerLoadFailed player requestList) := by
  have hnone : requestList.requestVec.filter (fun r => r.complated && r.success) = [] := by
    refine List.filter_eq_nil_iff.mpr fun r hr => ?_
    rw [(hl r hr).complated]
    exact Bool.false_ne_true
  unfold PlayerAssistant.playerLoadFailed
  rw [foldl_onlyRemoveEntity, hnone]
  exact
    { onlyRemoves := (List.append_nil _).trans h.onlyRemoves
      pool := fun _ => h.pool
      requested := nofun
      failed := fun _ => TreeMap.getElem?_erase_self
      coin := nofun }

theorem playerLoadSuccess (h : Calm pool s) : Sound pool player (s.playerLoadSuccess player) := by
  unfold PlayerAssistant.playerLoadSuccess
  split
  · exact h.returned
  · exact
      { onlyRemoves := h.onlyRemoves
        pool := fun hp => absurd rfl hp
        requested := nofun
        failed := nofun
        coin := nofun }

theorem commit (h : Calm pool s) {callBack : LoadCallBack} {guids : List UInt64}
    (hg : callBack = .loadPlayerFromDb → guids = [player]) (ownerGuid : UInt64) :
    Sound pool player (s.commit callBack player ownerGuid guids) where
  onlyRemoves := h.onlyRemoves
  pool _ := h.pool
  requested callBack' playerGuid requestList inFlight hp := by
    obtain ⟨rfl, rfl, rfl, rfl⟩ := LoadPhase.requested.inj hp
    exact ⟨rfl, awaitedList_commit hg⟩
  failed := nofun
  coin := nofun

theorem loadPlayerRoleEquipment (h : Calm pool s)
    (hl : ∀ r ∈ requestList.requestVec, Awaited r) :
    Sound pool player (s.loadPlayerRoleEquipment player requestList) := by
  unfold PlayerAssistant.loadPlayerRoleEquipment
  split
  · split
    · exact h.returned
    · exact (h.setLoadingData _).playerLoadSuccess
  · exact h.playerLoadFailed hl

theorem loadPlayerRole (h : Calm pool s) (hl : ∀ r ∈ requestList.requestVec, Awaited r) :
    Sound pool player (s.loadPlayerRole player requestList) := by
  unfold PlayerAssistant.loadPlayerRole
  split
  · split
    · exact h.returned
    · dsimp only
      split
      · exact Calm.sound ⟨h.onlyRemoves, h.pool⟩ (.inl rfl)
      · split
        · exact (h.setLoadingData _).playerLoadSuccess
        · exact (h.setLoadingData _).commit (by simp) player
  · exact h.playerLoadFailed hl

theorem loadPlayer (h : Calm pool s) (message : Entity) :
    Sound pool message.guid (s.loadPlayer message) := by
  unfold PlayerAssistant.loadPlayer
  split
  · dsimp only
    split
    · exact (h.setLoadingData _).playerLoadSuccess
    · exact (h.setLoadingData _).commit (by simp) message.guid
  · exact h.returned

theorem loadPlayerFromDb (h : Calm pool s)
    (hl : AwaitedList .loadPlayerFromDb player requestList.requestVec) :
    Sound pool player (s.loadPlayerFromDb player requestList) := by
  -- the list asks for the player alone, so its message is the player
  obtain ⟨r, hvec, hguid⟩ := hl.single rfl
  have hr : Awaited r := hl.awaited r (by rw [hvec]; exact List.mem_singleton_self r)
  unfold PlayerAssistant.loadPlayerFromDb
  split
  · split
    · exact h.returned
    · rw [hvec, List.foldl_cons, List.foldl_nil]
      split
      · next message hm =>
          obtain rfl : message.guid = player := (hr.message message hm).trans hguid
          exact Calm.loadPlayer ⟨h.onlyRemoves, h.pool⟩ message
      · exact h.returned
  · split
    · exact Calm.sound ⟨h.onlyRemoves, h.pool⟩ (.inr rfl)
    · exact h.playerLoadFailed hl.awaited

/-- **The callback of a complete list** keeps the login sound. -/
theorem callBack (h : Calm pool s) {callBack : LoadCallBack}
    (hl : AwaitedList callBack player requestList.requestVec) :
    Sound pool player (s.callBack player requestList callBack) := by
  cases callBack with
  | loadPlayerFromDb => exact h.loadPlayerFromDb hl
  | loadPlayerRole => exact h.loadPlayerRole hl.awaited
  | loadPlayerRoleEquipment => exact h.loadPlayerRoleEquipment hl.awaited

theorem loadPlayerCoin (h : Calm pool s) (message : Entity) (coin : CoinEntity) :
    Sound pool coin.player (s.loadPlayerCoin message coin) := by
  unfold PlayerAssistant.loadPlayerCoin
  split
  · exact h.returned
  · exact (h.setLoadingData _).commit (fun _ => rfl) coin.player

end Calm

/-- The Coin of the line scene: the player is asked for, or the load is over. -/
theorem loadPlayerCoin_cases (s : PlayerAssistant) (message : Entity) (coin : CoinEntity) :
    (s.loadPlayerCoin message coin).phase = .returned ∨
      ∃ t : PlayerAssistant, s.loadPlayerCoin message coin =
        t.commit .loadPlayerFromDb coin.player coin.player [coin.player] := by
  unfold PlayerAssistant.loadPlayerCoin
  split
  · exact .inl rfl
  · exact .inr ⟨_, rfl⟩

/-! ## §7. Runs. -/

namespace Login

variable {s s' : Login} {pool : PoolImp Entity}

/-- A step is a Coin or an answer. -/
theorem step_cases {a : LoadEvent} (h : s.step a = some s') :
    (∃ coin fields, a = .deliver coin ∧ s.assistant.phase = .coin ∧ fields.player = s.player ∧
      s' = { s with
        assistant := s.assistant.loadPlayerCoin coin fields
        coins := coin.guid :: s.coins }) ∨
    ∃ i reply callBack playerGuid requestList inFlight guid, a = .reply i reply ∧
      s.assistant.phase = .requested callBack playerGuid requestList inFlight ∧
      inFlight[i]? = some guid ∧ ReplyTyped guid reply ∧
      s' = s.handlePacket callBack playerGuid requestList (inFlight.eraseIdx i) guid reply := by
  cases a with
  | deliver coin =>
      simp only [step] at h
      split at h
      · next hp hc =>
          split at h
          · next hplayer =>
              exact .inl ⟨coin, _, rfl, hp, hplayer, (Option.some.inj h).symm⟩
          · cases h
      · cases h
  | reply i reply =>
      simp only [step] at h
      split at h
      · next callBack playerGuid requestList inFlight hp =>
          split at h
          · next guid hi =>
              split at h
              · next ht =>
                  exact .inr ⟨i, reply, callBack, playerGuid, requestList, inFlight, guid, rfl, hp,
                    hi, ht, (Option.some.inj h).symm⟩
              · cases h
          · cases h
      · cases h

/-- **Step**: a sound login takes answers only, and stays sound. -/
theorem sound_step {a : LoadEvent} (h : Sound pool s.player s.assistant)
    (hst : s.step a = some s') :
    Sound pool s'.player s'.assistant ∧ s'.player = s.player ∧ s'.coins = s.coins := by
  rcases step_cases hst with ⟨coin, fields, -, hp, -⟩ |
    ⟨i, reply, callBack, playerGuid, requestList, inFlight, guid, -, hp, -, ht, rfl⟩
  · exact absurd hp h.coin
  · obtain ⟨rfl, hl⟩ := h.requested _ _ _ _ hp
    have hpool : s.assistant.pool.entityMap = pool.entityMap :=
      h.pool (by rw [hp]; simp)
    refine ⟨?_, rfl, rfl⟩
    show Sound pool s.player (ite _ _ _)
    split
    -- the list is complete: what its callback does
    · exact Calm.callBack ⟨h.onlyRemoves, hpool⟩ (hl.handlePacket ht)
    -- the list still waits, with an answer more
    · exact
        { onlyRemoves := h.onlyRemoves
          pool := fun _ => hpool
          requested := by
            intro callBack' playerGuid' requestList' inFlight' hr
            obtain ⟨rfl, rfl, rfl, rfl⟩ := LoadPhase.requested.inj hr
            exact ⟨rfl, hl.handlePacket ht⟩
          failed := nofun
          coin := nofun }

/-- **Run**: no answers make a login release anything, or touch the pool before it succeeds. -/
theorem sound_of_run {as : List LoadEvent} (h : Sound pool s.player s.assistant)
    (hrun : system.run s as = some s') :
    Sound pool s'.player s'.assistant ∧ s'.player = s.player ∧ s'.coins = s.coins := by
  refine TransSys.run_invariant
    (I := fun t : Login => Sound pool t.player t.assistant ∧ t.player = s.player ∧
      t.coins = s.coins) ?_ ⟨h, rfl, rfl⟩ hrun
  rintro t a t' ⟨ht, hplayer, hcoins⟩ hst
  obtain ⟨ht', hplayer', hcoins'⟩ := sound_step ht hst
  exact ⟨ht', hplayer'.trans hplayer, hcoins'.trans hcoins⟩

/-- What the cache has answered with success stays answered. -/
theorem answered_of_run {as : List LoadEvent} (h : s.answered ≠ [])
    (hrun : system.run s as = some s') : s'.answered ≠ [] := by
  refine TransSys.run_invariant (I := fun t : Login => t.answered ≠ []) ?_ h hrun
  intro t a t' ht hst
  rcases step_cases hst with ⟨coin, fields, -, -, -, rfl⟩ |
    ⟨i, reply, callBack, playerGuid, requestList, inFlight, guid, -, -, -, -, rfl⟩
  · exact ht
  · show ite _ _ _ ≠ []
    split
    · exact List.cons_ne_nil _ _
    · exact ht

/-- Nothing more comes. -/
theorem step_of_over (hc : s.assistant.phase ≠ .coin)
    (hr : ∀ callBack playerGuid requestList inFlight,
      s.assistant.phase ≠ .requested callBack playerGuid requestList inFlight) (a : LoadEvent) :
    s.step a = none := by
  rcases hst : s.step a with _ | t
  · rfl
  · rcases step_cases hst with ⟨coin, fields, -, hp, -⟩ |
      ⟨i, reply, callBack, playerGuid, requestList, inFlight, guid, -, hp, -⟩
    · exact absurd hp hc
    · exact absurd hp (hr _ _ _ _)

/-! ## §8. The first list. -/

/-- The request for the player. -/
def playerRequest (player : UInt64) : Request Entity :=
  { requestType := .load, guid := player, message := none, ownerGuid := player }

/-- The player itself has been asked for, and nothing has come. -/
structure Asked (s : Login) : Prop where
  phase : ∃ requestId, s.assistant.phase = .requested .loadPlayerFromDb s.player
    { requestId, requestVec := [playerRequest s.player] } [s.player]
  answered : s.answered = []

theorem success_of_refused {r : Request Entity} (h : r.success = false)
    {reply : CacheReply Entity} (hr : reply.isNormal = false) :
    (r.handlePacket reply).success = false := by
  match reply with
  | .unparsable => exact h
  | .result false message => rfl
  | .result true message => cases hr

/-- The one answer to a list of one request completes it. -/
theorem handlePacket_single (requestId : Nat) (r : Request Entity) (reply : CacheReply Entity) :
    ({ requestId, requestVec := [r] } : RequestList Entity).handlePacket r.guid reply =
      { requestId, requestVec := [r.handlePacket reply], complatedCount := 1,
        complated := true } := by
  simp [RequestList.handlePacket, Pool.handleFirst]

theorem loadPlayerFromDb_refused (a : PlayerAssistant) (player : UInt64)
    {requestList : RequestList Entity} (h : requestList.isSuccess = false) :
    (a.loadPlayerFromDb player requestList).phase = .initPlayer ∨
      (a.loadPlayerFromDb player requestList).phase = .finished false := by
  unfold PlayerAssistant.loadPlayerFromDb
  rw [h, if_neg Bool.false_ne_true]
  split
  · exact .inl rfl
  · exact .inr rfl

/-- The request for the player is refused: the load is over, and nothing was answered. -/
theorem Asked.refused (h : s.Asked) {i : Nat} {reply : CacheReply Entity}
    (hst : s.step (.reply i reply) = some s') (hr : reply.isNormal = false) :
    s'.answered = [] ∧ (s'.assistant.phase = .initPlayer ∨ s'.Failed) := by
  obtain ⟨requestId, hphase⟩ := h.phase
  rcases step_cases hst with ⟨coin, fields, ha, -⟩ |
    ⟨j, reply', callBack, playerGuid, requestList, inFlight, guid, ha, hp, hi, -, rfl⟩
  · cases ha
  · obtain ⟨rfl, rfl⟩ := LoadEvent.reply.inj ha
    obtain ⟨rfl, rfl, rfl, rfl⟩ := LoadPhase.requested.inj (hphase.symm.trans hp)
    obtain rfl : guid = s.player := List.mem_singleton.mp (List.mem_of_getElem? hi)
    constructor
    · show ite _ _ _ = []
      rw [hr]
      exact h.answered
    · have hlist := handlePacket_single requestId (playerRequest s.player) reply
      have hfailed : ((playerRequest s.player).handlePacket reply).success = false :=
        success_of_refused rfl hr
      have hassistant : (s.handlePacket .loadPlayerFromDb s.player
          { requestId, requestVec := [playerRequest s.player] } ([s.player].eraseIdx i) s.player
          reply).assistant = s.assistant.loadPlayerFromDb s.player
            { requestId, requestVec := [(playerRequest s.player).handlePacket reply],
              complatedCount := 1, complated := true } := by
        show ite _ _ _ = _
        rw [show RequestList.handlePacket _ s.player reply = _ from hlist]
        rfl
      unfold Failed
      rw [hassistant]
      refine loadPlayerFromDb_refused s.assistant s.player ?_
      simp [RequestList.isSuccess, hfailed]

/-- **The first answer decides** whether a failed login was answered anything with success. -/
theorem Asked.answered_iff (h : s.Asked) {as : List LoadEvent}
    (hrun : system.run s as = some s') (hf : s'.Failed) :
    s'.answered = [] ↔ PlayerRefused as := by
  obtain ⟨requestId, hphase⟩ := h.phase
  cases as with
  | nil =>
      obtain rfl : s = s' := Option.some.inj hrun
      exact absurd (hphase.symm.trans hf) (by simp)
  | cons a as =>
      obtain ⟨t, hst, hrest⟩ := TransSys.run_cons_eq_some.mp hrun
      rcases step_cases hst with ⟨coin, fields, -, hp, -⟩ |
        ⟨i, reply, callBack, playerGuid, requestList, inFlight, guid, rfl, -, -, -, ht⟩
      · exact absurd (hphase.symm.trans hp) (by simp)
      · by_cases hr : reply.isNormal = true
        · have hanswered : t.answered ≠ [] := by
            rw [ht]
            show ite _ _ _ ≠ []
            rw [if_pos hr]
            exact List.cons_ne_nil _ _
          refine iff_of_false (answered_of_run hanswered hrest) ?_
          show reply.isNormal ≠ false
          rw [hr]
          exact Bool.noConfusion
        · have hr : reply.isNormal = false := Bool.eq_false_iff.mpr hr
          obtain ⟨hanswered, hover⟩ := h.refused hst hr
          refine iff_of_true ?_ hr
          -- no step is left for the rest of the run
          cases as with
          | nil =>
              obtain rfl : t = s' := Option.some.inj hrest
              exact hanswered
          | cons b as =>
              obtain ⟨u, hstep, -⟩ := TransSys.run_cons_eq_some.mp hrest
              have hnone : t.step b = none := by
                unfold Failed at hover
                refine step_of_over ?_ ?_ b
                · rcases hover with h | h <;> simp [h]
                · rcases hover with h | h <;> simp [h]
              exact absurd (hnone.symm.trans hstep) (by simp)

/-- A login that waits for nothing has not failed unless it is over already. -/
theorem failed_of_returned {as : List LoadEvent} (h : s.assistant.phase = .returned)
    (hrun : system.run s as = some s') : ¬ s'.Failed := by
  cases as with
  | nil =>
      obtain rfl : s = s' := Option.some.inj hrun
      intro hf
      exact absurd (h.symm.trans hf) (by simp)
  | cons a as =>
      obtain ⟨t, hst, -⟩ := TransSys.run_cons_eq_some.mp hrun
      have hnone : s.step a = none := step_of_over (by simp [h]) (by simp [h]) a
      exact absurd (hnone.symm.trans hst) (by simp)

/-- The player is asked for. -/
theorem asked_commit (a : PlayerAssistant) (player : UInt64) (coins : List UInt64) :
    Asked { player, assistant := a.commit .loadPlayerFromDb player player [player], coins } where
  phase := ⟨_, rfl⟩
  answered := rfl

/-- A login begins by asking for the player, or for its Coin, unless it is being loaded. -/
theorem start_cases (a : PlayerAssistant) (player : UInt64) (playerEnteredWorld : Bool) :
    (start a player playerEnteredWorld).assistant.phase = .returned ∨
    ∃ w, Calm a.pool w ∧
      if playerEnteredWorld then
        w.phase = .coin ∧ start a player playerEnteredWorld = { player, assistant := w }
      else start a player playerEnteredWorld =
        { player, assistant := w.commit .loadPlayerFromDb player player [player] } := by
  unfold start PlayerAssistant.requestLoadPlayer
  split
  · exact .inl rfl
  · refine .inr ?_
    cases playerEnteredWorld with
    | false => exact ⟨{ a with onlyRemoves := [], loadingData := _ }, ⟨rfl, rfl⟩, rfl⟩
    | true => exact ⟨{ a with onlyRemoves := [], loadingData := _, phase := .coin },
        ⟨rfl, rfl⟩, rfl, rfl⟩

/-- **Where a failed login begins to load**: at once, or with the Coin of the line scene. -/
theorem begins {a : PlayerAssistant} {player : UInt64} {playerEnteredWorld : Bool}
    {as : List LoadEvent} (hrun : system.run (start a player playerEnteredWorld) as = some s')
    (hf : s'.Failed) :
    ∃ t bs, t.Asked ∧ t.player = player ∧ Sound a.pool t.player t.assistant ∧
      system.run t bs = some s' ∧ (PlayerRefused as ↔ PlayerRefused bs) ∧
      (t.coins = [] ↔ playerEnteredWorld = false) := by
  rcases start_cases a player playerEnteredWorld with hover | ⟨w, hw, hstart⟩
  · exact absurd hf (failed_of_returned hover hrun)
  · cases playerEnteredWorld with
    | false =>
        rw [show start a player false = _ from hstart] at hrun
        exact ⟨_, as, asked_commit w player [], rfl, hw.commit (fun _ => rfl) player, hrun,
          Iff.rfl, by simp⟩
    | true =>
        -- the first event hands the Coin over, and the player is asked for then
        obtain ⟨hphase, hstart⟩ := hstart
        rw [hstart] at hrun
        cases as with
        | nil =>
            obtain rfl := Option.some.inj hrun
            exact absurd (hphase.symm.trans hf) (by simp)
        | cons b as =>
            obtain ⟨t, hst, hrest⟩ := TransSys.run_cons_eq_some.mp hrun
            rcases step_cases hst with ⟨coin, fields, rfl, -, hplayer, rfl⟩ |
              ⟨i, reply, callBack, playerGuid, requestList, inFlight, guid, -, hp, -⟩
            · obtain rfl : fields.player = player := hplayer
              rcases loadPlayerCoin_cases w coin fields with hover | ⟨v, hv⟩
              · exact absurd hf (failed_of_returned hover hrest)
              · refine ⟨_, as, ?_, rfl, hw.loadPlayerCoin coin fields, hrest, Iff.rfl, by simp⟩
                show Asked { player := fields.player, assistant := w.loadPlayerCoin coin fields,
                             coins := [coin.guid] }
                rw [hv]
                exact asked_commit v fields.player [coin.guid]
            · exact absurd (hphase.symm.trans hp) (by simp)

/-- What a failed login has released: nothing. -/
theorem released_iff_of_sound (h : Sound pool s.player s.assistant) (hf : s.Failed)
    (loaded : List UInt64) :
    s.Released loaded ↔ HoldsNothing pool s.player ∧ loaded = [] := by
  have hpool : s.assistant.pool.entityMap = pool.entityMap :=
    h.pool (by rw [show s.assistant.phase = _ from hf]; simp)
  have hholds : HoldsNothing s.assistant.pool s.player ↔ HoldsNothing pool s.player := by
    unfold HoldsNothing
    rw [hpool]
  constructor
  -- no packet was sent, so nothing that was loaded has one
  · intro hr
    refine ⟨hholds.mp hr.pool, List.eq_nil_iff_forall_not_mem.mpr fun guid hg => ?_⟩
    have hsent := hr.onlyRemoves guid hg
    rw [h.onlyRemoves] at hsent
    exact List.not_mem_nil hsent
  · rintro ⟨hp, rfl⟩
    exact
      { pool := hholds.mpr hp
        loadingData := h.failed hf
        onlyRemoves := List.forall_mem_nil _ }

end Login

/-! ## §9. What a failed login has released. -/

/-- **A failed login releases what it loaded only if it loaded nothing.**  After a run that ends in
`playerLoadFailed`, nothing of the player is in the pool, its loading data is gone, and all that
the cache answered with success is released, exactly when the pool held nothing of the player
before and the cache refused the request for the player itself; for the Coin of the line scene to
be released as well, the player must not have been in the world. -/
theorem released_iff (a : PlayerAssistant) (player : UInt64) (playerEnteredWorld : Bool)
    (as : List LoadEvent) (s : Login)
    (hrun : Login.system.run (Login.start a player playerEnteredWorld) as = some s)
    (hf : s.Failed) :
    (s.Released s.answered ↔ HoldsNothing a.pool player ∧ PlayerRefused as) ∧
    (s.Released (s.coins ++ s.answered) ↔
      HoldsNothing a.pool player ∧ PlayerRefused as ∧ playerEnteredWorld = false) := by
  obtain ⟨t, bs, hasked, rfl, hsound, hrun, hrefused, hcoins⟩ := Login.begins hrun hf
  obtain ⟨hsound, hplayer, hcoins'⟩ := Login.sound_of_run hsound hrun
  have hanswered : s.answered = [] ↔ PlayerRefused as :=
    (hasked.answered_iff hrun hf).trans hrefused.symm
  rw [Login.released_iff_of_sound hsound hf, Login.released_iff_of_sound hsound hf, hplayer,
    List.append_eq_nil_iff, hcoins', hcoins, hanswered, and_comm (a := playerEnteredWorld = false)]
  exact ⟨Iff.rfl, Iff.rfl⟩

/-- A player with one role. -/
def newPlayer : Entity :=
  { guid := 0x0100000000000001, body := .player { roles := [0x0200000000000001] } }

/-- A map without players. -/
def emptyMap : PlayerAssistant :=
  { cacheType := 1, pool := { cfg := { lineId := 1, isLineScene := false } } }

theorem emptyMap_holdsNothing (player : UInt64) : HoldsNothing emptyMap.pool player := by
  intro guid info h
  exact absurd (h.symm.trans TreeMap.getElem?_emptyc) (Option.some_ne_none info)

/-- The cache does not know the player. -/
theorem released_when_refused : ∃ s, Login.system.run
      (Login.start emptyMap newPlayer.guid false) [.reply 0 (.result false none)] = some s ∧
    s.Failed ∧ s.Released s.answered := by
  have hrun : ((Login.system.run (Login.start emptyMap newPlayer.guid false)
      [.reply 0 (.result false none)]).any fun s => decide s.Failed) = true := by decide +kernel
  obtain ⟨s, hs, hf⟩ := (Option.any_eq_true ..).mp hrun
  have hf : s.Failed := of_decide_eq_true hf
  have h := released_iff emptyMap newPlayer.guid false [.reply 0 (.result false none)] s hs hf
  exact ⟨s, hs, hf, h.1.mpr ⟨emptyMap_holdsNothing _, rfl⟩⟩

/-- The cache sends the player and refuses its role: the player stays live in the cache. -/
theorem role_refused_keeps_player : ∃ s, Login.system.run
      (Login.start emptyMap newPlayer.guid false)
      [.reply 0 (.result true (some (some newPlayer))), .reply 0 (.result false none)] = some s ∧
    s.Failed ∧ newPlayer.guid ∈ s.answered ∧ ¬ s.Released s.answered := by
  have hrun : ((Login.system.run (Login.start emptyMap newPlayer.guid false)
      [.reply 0 (.result true (some (some newPlayer))), .reply 0 (.result false none)]).any
      fun s => decide s.Failed && decide (newPlayer.guid ∈ s.answered) &&
        decide (s.assistant.onlyRemoves = [])) = true := by decide +kernel
  obtain ⟨s, hs, h⟩ := (Option.any_eq_true ..).mp hrun
  simp only [Bool.and_eq_true, decide_eq_true_eq] at h
  obtain ⟨⟨hf, hanswered⟩, hnone⟩ := h
  refine ⟨s, hs, hf, hanswered, fun hr => ?_⟩
  have hsent := hr.onlyRemoves _ hanswered
  rw [hnone] at hsent
  exact List.not_mem_nil hsent

end Steppingstone.Player
