/-
  Steppingstone.Charsys.Log — what clients and the cache say, followed from the outside.

  Beside the tables of the character system stands a log: which creations have started, what the
  cache has answered to each, and which answers are due.  The answer to a creation is due when both
  replies are there, in any order.
-/
import Mathlib.Data.List.Nodup
import Steppingstone.Charsys.Model
import Steppingstone.Lib.TransSys

namespace Steppingstone.Charsys

open Pool (guidType etPlayer etRole)

/-! ## §1. What the handlers do. -/

/-- A packet of a client, the thread that talks to the cache, or a reply of the cache. -/
inductive Action
  | make (p : MakePacket) (db : Outcome)
  | cache
  | reply (guid : UInt64) (normal : Bool) (db : Outcome)

/-- The handler of an action. -/
def State.act (cfg : Config) (s : State) : Action → Option State
  | .make p db => some (s.handleRoleMake cfg p db)
  | .cache => s.sendCachePacket cfg
  | .reply guid normal db =>
      some ({ s with asked := s.asked.erase (.newEntity guid) }.handleNewEneity cfg guid normal db)

/-- The job of the packet has a role in the files. -/
def Config.KnownJob (cfg : Config) (p : MakePacket) : Prop :=
  ¬ (cfg.getRoleId p.profession p.sex = -1 ∨
    cfg.hasRoleRes (cfg.getRoleId p.profession p.sex) = false)

instance Config.decidableKnownJob (cfg : Config) (p : MakePacket) : Decidable (cfg.KnownJob p) :=
  inferInstanceAs (Decidable (¬ _))

/-! ## §2. The log. -/

/-- A creation that has started, and what the cache has answered to each of its two entities. -/
structure Creation where
  account : String
  session : Nat
  packetGuid : UInt64
  playerGuid : UInt64
  roleGuid : UInt64
  queued : Bool := true
  player : Option Bool := none
  role : Option Bool := none
  deriving DecidableEq

/-- What a client is to be told. -/
inductive Verdict
  | made (guid : UInt64)
  | error
  deriving DecidableEq

/-- Whom to answer, and what. -/
structure Due where
  session : Nat
  packetGuid : UInt64
  verdict : Verdict
  deriving DecidableEq

namespace Creation

variable (c : Creation)

/-- Both rows of the request were answered. -/
def decided : Bool := c.player.isSome && c.role.isSome

/-- Both rows of the request were written. -/
def made : Bool := c.player = some true && c.role = some true

/-- The client that waits for it. -/
def client : Nat × UInt64 := (c.session, c.packetGuid)

/-- What is due for it. -/
def due : Due :=
  ⟨c.session, c.packetGuid, if c.made then .made c.playerGuid else .error⟩

/-- The guid is one of its two. -/
def has (guid : UInt64) : Bool := c.playerGuid = guid || c.roleGuid = guid

/-- The answer to one of its entities. -/
def take (guid : UInt64) (ok : Bool) : Creation :=
  if c.playerGuid = guid then { c with player := some ok }
  else if c.roleGuid = guid then { c with role := some ok }
  else c

/-- The cache is asked for both entities, -/
def dequeue (guid : UInt64) : Creation :=
  if c.playerGuid = guid then { c with queued := false } else c

/-- or it is not, and both have failed. -/
def drop (guid : UInt64) : Creation :=
  if c.playerGuid = guid then { c with queued := false, player := some false, role := some false }
  else c

end Creation

/-- The system and the log beside it. -/
structure Log where
  state : State
  requests : List (Nat × UInt64) := []
  creations : List Creation := []
  due : List Due := []

/-- The creation that a request starts: the name is good and new, the account has room, and there
    are guids for the two entities. -/
def State.starts (cfg : Config) (s : State) (p : MakePacket) (db : Outcome) : Option Creation :=
  if !cfg.checkRoleName p.name || s.rows.isExistRoleName p.name db then none
  else
    match s.rows.getAccountRoleNumber p.account db, s.rows.insertRoleName p.account p.name db,
      db.roleGuid with
    | some number, some (_, playerGuid), some roleGuid =>
        if number < cfg.maxRoleNumber then
          some { account := p.account, session := p.session, packetGuid := p.guid,
                 playerGuid := playerGuid, roleGuid := roleGuid }
        else none
    | _, _, _ => none

/-- The guids are new and of the right kind, as `ManageGuid` makes them. -/
structure Log.Fresh (l : Log) (db : Outcome) : Prop where
  player : ∀ guid ∈ db.playerGuid, guidType guid = etPlayer ∧
    (∀ row ∈ l.state.rows, row.guid ≠ guid) ∧ ∀ c ∈ l.creations, c.playerGuid ≠ guid
  role : ∀ guid ∈ db.roleGuid, guidType guid = etRole ∧ ∀ c ∈ l.creations, c.roleGuid ≠ guid

/-- What is said about the value that may be there is checked on it. -/
def decidableForallMem {α : Type} (o : Option α) (p : α → Prop) [DecidablePred p] :
    Decidable (∀ a ∈ o, p a) :=
  match o with
  | none => isTrue fun _ ha => nomatch ha
  | some a => decidable_of_iff (p a) ⟨fun h _ ha => Option.some.inj ha ▸ h, fun h => h a rfl⟩

instance Log.decidableFresh (l : Log) (db : Outcome) : Decidable (l.Fresh db) :=
  let _player := decidableForallMem db.playerGuid fun guid => guidType guid = etPlayer ∧
    (∀ row ∈ l.state.rows, row.guid ≠ guid) ∧ ∀ c ∈ l.creations, c.playerGuid ≠ guid
  let _role := decidableForallMem db.roleGuid fun guid => guidType guid = etRole ∧
    ∀ c ∈ l.creations, c.roleGuid ≠ guid
  decidable_of_iff (_ ∧ _) ⟨fun h => ⟨h.1, h.2⟩, fun h => ⟨h.player, h.role⟩⟩

/-- What may happen: a request of a connected client that has no creation in progress, a packet to
    the cache, and a reply to what the cache was asked, once. -/
def Log.enabled (l : Log) : Action → Prop
  | .make p db => p.session ∈ l.state.gateSessions ∧ l.Fresh db ∧
      ∀ c ∈ l.creations, c.packetGuid = p.guid → c.decided = true
  | .cache => True
  | .reply guid _ _ => .newEntity guid ∈ l.state.asked

instance Log.decidableEnabled (l : Log) : (a : Action) → Decidable (l.enabled a)
  | .make p db => inferInstanceAs (Decidable (p.session ∈ l.state.gateSessions ∧ l.Fresh db ∧
      ∀ c ∈ l.creations, c.packetGuid = p.guid → c.decided = true))
  | .cache => inferInstanceAs (Decidable True)
  | .reply guid _ _ => inferInstanceAs (Decidable (.newEntity guid ∈ l.state.asked))

/-- What is due for the creation of a guid, once it is decided. -/
def dues (creations : List Creation) (guid : UInt64) : List Due :=
  ((creations.find? fun c => c.has guid && c.decided).map Creation.due).toList

/-- What the log makes of it: a request starts a creation or is rejected, and a reply is that to one
    of the two entities. -/
def Log.note (cfg : Config) (l : Log) (next : State) : Action → Log
  | .make p db =>
      let requests := l.requests ++ [(p.session, p.guid)]
      match l.state.starts cfg p db with
      | some c => { l with state := next, requests := requests, creations := l.creations ++ [c] }
      | none =>
          { l with state := next, requests := requests,
                   due := l.due ++ [⟨p.session, p.guid, .error⟩] }
  | .cache =>
      match l.state.toCache with
      | .make guid p :: _ =>
          if cfg.KnownJob p then
            { l with state := next, creations := l.creations.map (·.dequeue guid) }
          else
            let creations := l.creations.map (·.drop guid)
            { l with state := next, creations := creations, due := l.due ++ dues creations guid }
      | _ => { l with state := next }
  | .reply guid normal _ =>
      let creations := l.creations.map (·.take guid normal)
      { l with state := next, creations := creations, due := l.due ++ dues creations guid }

section note

variable {cfg : Config} {l : Log} {next : State} {p : MakePacket} {db : Outcome}

/-- A request that is taken up starts a creation. -/
theorem Log.note_starts {c : Creation} (h : l.state.starts cfg p db = some c) :
    l.note cfg next (.make p db) = { l with
      state := next
      requests := l.requests ++ [(p.session, p.guid)]
      creations := l.creations ++ [c] } := by
  simp only [Log.note, h]

/-- A request that is turned down is answered at once. -/
theorem Log.note_rejected (h : l.state.starts cfg p db = none) :
    l.note cfg next (.make p db) = { l with
      state := next
      requests := l.requests ++ [(p.session, p.guid)]
      due := l.due ++ [⟨p.session, p.guid, .error⟩] } := by
  simp only [Log.note, h]

/-- The request of a client leaves the way to the cache. -/
theorem Log.note_cache {guid : UInt64} {rest : List CachePacket}
    (h : l.state.toCache = .make guid p :: rest) (hknown : cfg.KnownJob p) :
    l.note cfg next .cache = { l with
      state := next
      creations := l.creations.map (·.dequeue guid) } := by
  simp only [Log.note, h, if_pos hknown]

end note

/-- The character system, with the rows that are there at the start. -/
def making (cfg : Config) (rows : Rows) : TransSys Log Action where
  init l := ∃ sessions, l = { state := { rows := rows, gateSessions := sessions } }
  step l a := if l.enabled a then (l.state.act cfg a).map (l.note cfg · a) else none

/-! ## §3. What it must keep. -/

/-- The rows of a guid that are active. -/
def Rows.Active (rows : Rows) (guid : UInt64) : Prop :=
  ∃ row ∈ rows, row.guid = guid ∧ row.status = 1

/-- What a packet to a client says. -/
def Sent.due (sent : Sent) : Option Due :=
  match sent.answer with
  | .playerMake guid _ _ => some ⟨sent.session, sent.packetGuid, .made guid⟩
  | .errorMessage _ => some ⟨sent.session, sent.packetGuid, .error⟩
  | .requestPlayerList .. => none

/-- The packets sent are those that are due, one for each request that is not in progress, and a
    role is active when it was at the start or when both its entities were created.  When the cache
    has answered everything, nothing is in progress. -/
structure Consistent (rows : Rows) (l : Log) : Prop where
  answered : l.state.sent.map Sent.due = l.due.map some
  oneAnswer : l.requests.Perm (l.due.map (fun d => (d.session, d.packetGuid)) ++
    (l.creations.filter fun c => !c.decided).map Creation.client)
  active : ∀ guid, l.state.rows.Active guid ↔
    rows.Active guid ∨ ∃ c ∈ l.creations, c.made = true ∧ c.playerGuid = guid
  finished : l.state.toCache = [] → l.state.asked = [] → ∀ c ∈ l.creations, c.decided = true

/-- A success that comes after the other reply is that of the player, after that of the role, and
    the row is there and can be updated. -/
def State.CompletesWell (s : State) (guid : UInt64) (db : Outcome) : Prop :=
  ∀ info ∈ s.getPlayerInfo guid, (info.updateState guid true).isFinish = true →
    guid = info.playerGuid ∧ info.roleState = 1 ∧ db.update = true ∧
    ∃ row ∈ s.rows, row.guid = guid

instance State.decidableCompletesWell (s : State) (guid : UInt64) (db : Outcome) :
    Decidable (s.CompletesWell guid db) :=
  decidableForallMem (s.getPlayerInfo guid) _

/-- The condition on a step.  A request whose name is good and new starts a creation of a known job,
    with a connection to the database, and successes complete well. -/
def Meets (cfg : Config) (l : Log) : Action → Prop
  | .make p db =>
      cfg.checkRoleName p.name = false ∨ l.state.rows.isExistRoleName p.name db = true ∨
      ((l.state.starts cfg p db).isSome = true ∧ db.insert ≠ .noConnection ∧ cfg.KnownJob p)
  | .cache => True
  | .reply guid normal db => normal = true → l.state.CompletesWell guid db

instance decidableMeets (cfg : Config) (l : Log) : (a : Action) → Decidable (Meets cfg l a)
  | .make p db => inferInstanceAs (Decidable (cfg.checkRoleName p.name = false ∨
      l.state.rows.isExistRoleName p.name db = true ∨
      ((l.state.starts cfg p db).isSome = true ∧ db.insert ≠ .noConnection ∧ cfg.KnownJob p)))
  | .cache => inferInstanceAs (Decidable True)
  | .reply guid normal db =>
      inferInstanceAs (Decidable (normal = true → l.state.CompletesWell guid db))

/-! ## §4. One creation. -/

/-- The state of an entity in `RoleInfo`. -/
def replyState : Option Bool → Nat
  | none => 0
  | some true => 1
  | some false => 2

/-- The record that is kept for a creation. -/
def Creation.info (c : Creation) : RoleInfo :=
  { account := c.account, packetGuid := c.packetGuid, playerGuid := c.playerGuid,
    roleGuid := c.roleGuid, opType := .add, gateSession := c.session,
    playerState := replyState c.player, roleState := replyState c.role }

/-- The cache is asked, and has not answered yet. -/
def Creation.Awaits (c : Creation) (q : CacheRequest) : Prop :=
  c.queued = false ∧
    ((q = .newEntity c.playerGuid ∧ c.player = none) ∨ (q = .newEntity c.roleGuid ∧ c.role = none))

/-- A creation has the guid of an entity it waits for. -/
theorem Creation.Awaits.has {c : Creation} {guid : UInt64} (h : c.Awaits (.newEntity guid)) :
    c.has guid = true := by
  cases h.2 with
  | inl hp =>
      have hguid : guid = c.playerGuid := by simpa using hp.1
      simp [Creation.has, hguid]
  | inr hr =>
      have hguid : guid = c.roleGuid := by simpa using hr.1
      simp [Creation.has, hguid]

/-- Its two guids are of different kinds. -/
structure Creation.Typed (c : Creation) : Prop where
  player : guidType c.playerGuid = etPlayer
  role : guidType c.roleGuid = etRole

/-- A player's guid is not a role's. -/
theorem Creation.Typed.ne {c c' : Creation} (h : c.Typed) (h' : c'.Typed) :
    c.playerGuid ≠ c'.roleGuid := by
  intro he
  have htype : etPlayer = etRole := h.player ▸ he ▸ h'.role
  revert htype
  decide

section take

variable (c : Creation) (guid : UInt64) (ok : Bool)

@[simp] theorem Creation.take_playerGuid : (c.take guid ok).playerGuid = c.playerGuid := by
  unfold Creation.take
  split
  · rfl
  · split <;> rfl

@[simp] theorem Creation.take_roleGuid : (c.take guid ok).roleGuid = c.roleGuid := by
  unfold Creation.take
  split
  · rfl
  · split <;> rfl

@[simp] theorem Creation.take_queued : (c.take guid ok).queued = c.queued := by
  unfold Creation.take
  split
  · rfl
  · split <;> rfl

@[simp] theorem Creation.take_client : (c.take guid ok).client = c.client := by
  unfold Creation.take
  split
  · rfl
  · split <;> rfl

/-- A creation without the guid takes no reply to it. -/
theorem Creation.take_of_not_has (h : c.has guid = false) : c.take guid ok = c := by
  have hne : c.playerGuid ≠ guid ∧ c.roleGuid ≠ guid := by
    simpa [Creation.has] using h
  rw [Creation.take, if_neg hne.1, if_neg hne.2]

/-- The record goes along with the creation. -/
theorem Creation.info_take (h : c.Typed) (hg : c.has guid = true) :
    (c.take guid ok).info = c.info.updateState guid ok := by
  have hok : replyState (some ok) = if ok then 1 else 2 := by cases ok <;> rfl
  by_cases hp : c.playerGuid = guid
  · rw [Creation.take, if_pos hp, RoleInfo.updateState, if_pos (hp ▸ h.player)]
    simp only [Creation.info, hok]
  · have hr : c.roleGuid = guid := by simpa [Creation.has, hp] using hg
    have hplayer : guidType guid ≠ etPlayer := by
      rw [← hr, h.role]
      decide
    rw [Creation.take, if_neg hp, if_pos hr, RoleInfo.updateState, if_neg hplayer,
      if_pos (hr ▸ h.role)]
    simp only [Creation.info, hok]

/-- The job is finished when the creation is decided. -/
theorem Creation.isFinish_info : c.info.isFinish = c.decided := by
  obtain ⟨account, session, packetGuid, playerGuid, roleGuid, queued, player, role⟩ := c
  rcases player with _ | _ | _ <;> rcases role with _ | _ | _ <;> rfl

/-- The job succeeds when the creation is made. -/
theorem Creation.isSuccess_info : c.info.isSuccess = c.made := by
  obtain ⟨account, session, packetGuid, playerGuid, roleGuid, queued, player, role⟩ := c
  rcases player with _ | _ | _ <;> rcases role with _ | _ | _ <;> rfl

/-- A creation has failed when it is decided and not made. -/
theorem Creation.isFailed_info : c.info.isFailed = (c.decided && !c.made) := by
  obtain ⟨account, session, packetGuid, playerGuid, roleGuid, queued, player, role⟩ := c
  rcases player with _ | _ | _ <;> rcases role with _ | _ | _ <;> rfl

/-- A reply ends one wait. -/
theorem Creation.awaits_take (h : c.Typed) (q : CacheRequest) :
    (c.take guid ok).Awaits q ↔ q ≠ .newEntity guid ∧ c.Awaits q := by
  have hne : c.playerGuid ≠ c.roleGuid := h.ne h
  unfold Creation.Awaits Creation.take
  split
  case isTrue hp =>
    subst hp
    grind
  case isFalse hp =>
    split
    case isTrue hr =>
      subst hr
      grind
    case isFalse hr => grind

end take

section dequeue

variable (c : Creation) (guid : UInt64)

@[simp] theorem Creation.dequeue_playerGuid : (c.dequeue guid).playerGuid = c.playerGuid := by
  unfold Creation.dequeue
  split <;> rfl

@[simp] theorem Creation.dequeue_roleGuid : (c.dequeue guid).roleGuid = c.roleGuid := by
  unfold Creation.dequeue
  split <;> rfl

@[simp] theorem Creation.dequeue_client : (c.dequeue guid).client = c.client := by
  unfold Creation.dequeue
  split <;> rfl

@[simp] theorem Creation.dequeue_decided : (c.dequeue guid).decided = c.decided := by
  unfold Creation.dequeue
  split <;> rfl

@[simp] theorem Creation.dequeue_made : (c.dequeue guid).made = c.made := by
  unfold Creation.dequeue
  split <;> rfl

@[simp] theorem Creation.info_dequeue : (c.dequeue guid).info = c.info := by
  unfold Creation.dequeue
  split <;> rfl

/-- Of the creations that wait, the one of the guid leaves. -/
theorem Creation.dequeue_queued :
    (c.dequeue guid).queued = true ↔ c.playerGuid ≠ guid ∧ c.queued = true := by
  unfold Creation.dequeue
  split
  case isTrue hp => simp [hp]
  case isFalse hp => simp [hp]

/-- The others are left alone. -/
theorem Creation.dequeue_of_ne (h : c.playerGuid ≠ guid) : c.dequeue guid = c :=
  if_neg h

end dequeue

end Steppingstone.Charsys
