/-
  Steppingstone.Charsys.Roster — lists of roles in the making.

  A request asks the cache for the player of every active row of its account.  Beside the tables
  stands a log: which lists are in the making, what they still wait for, and what is due.
-/
import Mathlib.Data.List.Nodup
import Mathlib.Data.List.Perm.Basic
import Steppingstone.Charsys.Model
import Steppingstone.Lib.Lookup
import Steppingstone.Lib.TransSys

namespace Steppingstone.Charsys

open Std (TreeMap)
open Pool (guidType etPlayer)

/-! ## §1. The log. -/

/-- A request of a client, the thread that talks to the cache, or a reply of the cache with the
    player that is read from it. -/
inductive ListAction
  | request (p : ListPacket) (db : Outcome)
  | cache
  | reply (guid : UInt64) (normal : Bool) (message : Option PlayerEntity)

/-- A list in the making: the active roles whose loads are not answered, and those loaded. -/
structure Roster where
  account : String
  session : Nat
  packetGuid : UInt64
  awaiting : List UInt64
  loaded : List PlayerEntity := []

/-- What a client is to be told. -/
inductive ListVerdict
  | error
  | roles (players : List PlayerEntity)

/-- Whom to answer, and what. -/
structure ListDue where
  session : Nat
  packetGuid : UInt64
  verdict : ListVerdict

namespace Roster

variable (r : Roster)

/-- Whom the reply goes to. -/
def client : Nat × UInt64 := (r.session, r.packetGuid)

/-- The answer to one of its loads. -/
def take (guid : UInt64) (role : Option PlayerEntity) : Roster :=
  { r with awaiting := r.awaiting.erase guid, loaded := r.loaded ++ role.toList }

/-- What is due for it. -/
def due : ListDue := ⟨r.session, r.packetGuid, .roles r.loaded⟩

end Roster

/-- The first list that waits for the guid gets the answer; it comes second when it is finished. -/
def answerFirst (guid : UInt64) (role : Option PlayerEntity) :
    List Roster → List Roster × Option Roster
  | [] => ([], none)
  | r :: rs =>
      if guid ∈ r.awaiting then
        if (r.take guid role).awaiting = [] then (rs, some (r.take guid role))
        else (r.take guid role :: rs, none)
      else
        let (rs', finished) := answerFirst guid role rs
        (r :: rs', finished)

/-- The system and the log beside it. -/
structure ListLog where
  state : State
  requests : List (Nat × UInt64) := []
  rosters : List Roster := []
  due : List ListDue := []

/-- What may happen: a request of a connected client, a packet to the cache, and a reply to what the
    cache was asked, once, with the player that it was asked for. -/
def ListLog.enabled (l : ListLog) : ListAction → Prop
  | .request p _ => p.session ∈ l.state.gateSessions
  | .cache => True
  | .reply guid _ message =>
      .loadEntity guid ∈ l.state.asked ∧ ∀ role ∈ message, role.guid = guid

instance ListLog.decidableEnabled (l : ListLog) : (a : ListAction) → Decidable (l.enabled a)
  | .request p _ => inferInstanceAs (Decidable (p.session ∈ l.state.gateSessions))
  | .cache => inferInstanceAs (Decidable True)
  | .reply guid _ message => inferInstanceAs (Decidable
      (.loadEntity guid ∈ l.state.asked ∧ ∀ role ∈ message, role.guid = guid))

/-- The handler of an action. -/
def State.actList (cfg : Config) (s : State) : ListAction → Option State
  | .request p db => some (s.handleRequestRoleList p db)
  | .cache => s.sendCachePacket cfg
  | .reply guid normal message =>
      some ({ s with asked := s.asked.erase (.loadEntity guid) }.handleLoadEneity guid normal message)

/-- What the log makes of it. -/
def ListLog.note (l : ListLog) (next : State) : ListAction → ListLog
  | .request p db =>
      let requests := l.requests ++ [(p.session, p.guid)]
      match l.state.rows.getRoleList p.accountId db with
      | none => { l with
          state := next, requests := requests, due := l.due ++ [⟨p.session, p.guid, .error⟩] }
      | some [] => { l with
          state := next, requests := requests, due := l.due ++ [⟨p.session, p.guid, .roles []⟩] }
      | some guids => { l with
          state := next
          requests := requests
          rosters := l.rosters ++ [{
            account := p.accountId, session := p.session, packetGuid := p.guid,
            awaiting := guids }] }
  | .cache => { l with state := next }
  | .reply guid normal message =>
      let answer := answerFirst guid (if normal then message else none) l.rosters
      { l with
        state := next
        rosters := answer.1
        due := l.due ++ (answer.2.map Roster.due).toList }

/-- The character system, with the rows of the account database. -/
def listing (cfg : Config) (rows : Rows) : TransSys ListLog ListAction where
  init l := ∃ sessions, l = { state := { rows := rows, gateSessions := sessions } }
  step l a := if l.enabled a then (l.state.actList cfg a).map (l.note · a) else none

/-! ## §2. What it must keep. -/

/-- A packet says what is due: an error, or the players and their number. -/
def Says (sent : Sent) (due : ListDue) : Prop :=
  sent.session = due.session ∧ sent.packetGuid = due.packetGuid ∧
    match sent.answer, due.verdict with
    | .errorMessage _, .error => True
    | .requestPlayerList players playerNum, .roles loaded =>
        players.Perm loaded ∧ playerNum = loaded.length
    | _, _ => False

/-- The packets sent are those that are due, one for each request whose list is not in the making.
    A list names no role twice.  When the cache has answered everything, no list is in the making. -/
structure Listed (l : ListLog) : Prop where
  answered : List.Forall₂ Says l.state.sent l.due
  oneAnswer : l.requests.Perm
    (l.due.map (fun d => (d.session, d.packetGuid)) ++ l.rosters.map Roster.client)
  once : ∀ d ∈ l.due, ∀ players, d.verdict = .roles players →
    (players.map PlayerEntity.guid).Nodup
  finished : l.state.toCache = [] → l.state.asked = [] → l.rosters = []

/-- The condition on a step: a request finds no list of its account in the making. -/
def Alone (l : ListLog) : ListAction → Prop
  | .request p db => db.listQuery = true → l.state.accountInfoMap[p.accountId]?.isNone = true
  | _ => True

instance decidableAlone (l : ListLog) : (a : ListAction) → Decidable (Alone l a)
  | .request p db => inferInstanceAs
      (Decidable (db.listQuery = true → l.state.accountInfoMap[p.accountId]?.isNone = true))
  | .cache => inferInstanceAs (Decidable True)
  | .reply .. => inferInstanceAs (Decidable True)

/-! ## §3. One list. -/

/-- What is kept for a list. -/
structure Roster.Holds (r : Roster) (info : AccountInfo) : Prop where
  account : info.account = r.account
  packetGuid : info.packetGuid = r.packetGuid
  session : info.gateSession = r.session
  null : ∀ g : UInt64, info.roleMap[g]? = some .null ↔ g ∈ r.awaiting
  player : ∀ (g : UInt64) role, info.roleMap[g]? = some (.player role) ↔
    role ∈ r.loaded ∧ role.guid = g

/-- What is kept for a load. -/
def Roster.roleInfo (r : Roster) (guid : UInt64) : RoleInfo :=
  { account := r.account, playerGuid := guid, packetGuid := r.packetGuid, gateSession := r.session,
    opType := .load, roleState := 1 }

/-- A list has its roles once. -/
structure Roster.Proper (r : Roster) : Prop where
  awaiting : r.awaiting.Nodup
  loaded : (r.loaded.map PlayerEntity.guid).Nodup
  apart : ∀ role ∈ r.loaded, role.guid ∉ r.awaiting
  open' : r.awaiting ≠ []

variable {r : Roster} {info : AccountInfo} {guid : UInt64} {role : Option PlayerEntity}

theorem Roster.Holds.mem (h : r.Holds info) (hg : guid ∈ r.awaiting) : guid ∈ info.roleMap := by
  have hnull := (h.null guid).mpr hg
  rw [TreeMap.mem_iff_isSome_getElem?, hnull]
  rfl

/-- Nothing is missing when nothing is awaited. -/
theorem Roster.Holds.complete (h : r.Holds info) :
    (info.roleMap.toList.all fun e => decide (e.2 ≠ .null)) = true ↔ r.awaiting = [] := by
  rw [List.all_eq_true, List.eq_nil_iff_forall_not_mem]
  constructor
  · intro hall g hg
    have hin := (Lookup.mem_toList info.roleMap (g, .null)).mpr ((h.null g).mpr hg)
    exact of_decide_eq_true (hall _ hin) rfl
  · intro hnone e he
    apply decide_eq_true
    intro hnull
    have hfound := (Lookup.mem_toList _ e).mp he
    rw [hnull] at hfound
    exact hnone e.1 ((h.null e.1).mp hfound)

/-- The players that are read off the record are those loaded. -/
theorem Roster.Holds.loadedPlayers (h : r.Holds info)
    (hloaded : (r.loaded.map PlayerEntity.guid).Nodup) :
    (State.loadedPlayers info.roleMap).Perm r.loaded := by
  have hmem : ∀ p, p ∈ State.loadedPlayers info.roleMap ↔ p ∈ r.loaded := by
    intro p
    unfold State.loadedPlayers
    rw [List.mem_filterMap]
    constructor
    · intro hex
      obtain ⟨e, he, hp⟩ := hex
      have hfound := (Lookup.mem_toList _ e).mp he
      cases hrole : e.2 with
      | null => rw [hrole] at hp; cases hp
      | failed => rw [hrole] at hp; cases hp
      | player role =>
          rw [hrole] at hp hfound
          obtain rfl := Option.some.inj hp
          exact ((h.player e.1 role).mp hfound).1
    · intro hp
      exact ⟨(p.guid, .player p), (Lookup.mem_toList _ _).mpr ((h.player p.guid p).mpr ⟨hp, rfl⟩), rfl⟩
  refine (List.perm_ext_iff_of_nodup ?_ (List.Nodup.of_map _ hloaded)).mpr hmem
  unfold State.loadedPlayers
  refine List.pairwise_filterMap.mpr ?_
  refine info.roleMap.distinct_keys_toList.imp_of_mem ?_
  intro e e' he he' hne p hp p' hp' heq
  -- a role that was loaded stands under its own guid
  have key : ∀ x : UInt64 × LoadedRole, x ∈ info.roleMap.toList → ∀ q : PlayerEntity,
      x.2.role = some q → x.1 = q.guid := by
    intro x hx q hq
    have hfound := (Lookup.mem_toList _ x).mp hx
    cases hrole : x.2 with
    | null => rw [hrole] at hq; cases hq
    | failed => rw [hrole] at hq; cases hq
    | player role =>
        rw [hrole] at hq hfound
        obtain rfl := Option.some.inj hq
        exact ((h.player x.1 role).mp hfound).2.symm
  have he1 := key e he p hp
  have he2 := key e' he' p' hp'
  rw [he1, he2, heq] at hne
  exact hne Std.ReflCmp.compare_self

/-- A list takes an answer: its record has the role, or that it has failed. -/
theorem Roster.Holds.take (h : r.Holds info) (hproper : r.Proper) (hg : guid ∈ r.awaiting)
    (hguid : ∀ x ∈ role, x.guid = guid) :
    (r.take guid role).Holds { info with
      roleMap := info.roleMap.insert guid (role.elim .failed .player) } := by
  refine ⟨h.account, h.packetGuid, h.session, ?_, ?_⟩
  -- the guid is not awaited any more
  · intro g
    show (info.roleMap.insert guid _)[g]? = _ ↔ g ∈ r.awaiting.erase guid
    rw [Lookup.getElem?_insert, hproper.awaiting.mem_erase_iff]
    by_cases hgg : g = guid
    · rw [if_pos hgg]
      cases role <;> simp [hgg]
    · rw [if_neg hgg, h.null]
      simp [hgg]
  · intro g x
    show (info.roleMap.insert guid _)[g]? = _ ↔ x ∈ r.loaded ++ role.toList ∧ x.guid = g
    rw [Lookup.getElem?_insert, List.mem_append, Option.mem_toList]
    by_cases hgg : g = guid
    · -- it was not loaded before
      have hnot : ∀ y ∈ r.loaded, y.guid ≠ guid := fun y hy he => hproper.apart y hy (he ▸ hg)
      rw [if_pos hgg, hgg]
      cases role with
      | none =>
          show some LoadedRole.failed = _ ↔ _
          constructor
          · intro he
            cases he
          · intro hand
            obtain ⟨hx, hxg⟩ := hand
            cases hx with
            | inl hx => exact absurd hxg (hnot x hx)
            | inr hx => cases hx
      | some y =>
          show some (LoadedRole.player y) = some (.player x) ↔ _
          constructor
          · intro he
            obtain rfl : y = x := by simpa using he
            exact ⟨.inr rfl, hguid y rfl⟩
          · intro hand
            obtain ⟨hx, hxg⟩ := hand
            cases hx with
            | inl hx => exact absurd hxg (hnot x hx)
            | inr hx => rw [Option.some.inj hx]
    · rw [if_neg hgg, h.player]
      constructor
      · intro hand
        exact ⟨.inl hand.1, hand.2⟩
      · intro hand
        obtain ⟨hx, hxg⟩ := hand
        cases hx with
        | inl hx => exact ⟨hx, hxg⟩
        | inr hx => exact absurd (hxg.symm.trans (hguid x hx)) hgg

/-- A list that is not finished stays proper, and its roles are there once in any case. -/
theorem Roster.Proper.take (h : r.Proper) (hg : guid ∈ r.awaiting)
    (hguid : ∀ x ∈ role, x.guid = guid) :
    ((r.take guid role).loaded.map PlayerEntity.guid).Nodup ∧
    ((r.take guid role).awaiting ≠ [] → (r.take guid role).Proper) := by
  have hloaded : ((r.loaded ++ role.toList).map PlayerEntity.guid).Nodup := by
    cases role with
    | none =>
        rw [Option.toList_none, List.append_nil]
        exact h.loaded
    | some x =>
        rw [Option.toList_some, List.map_append, List.map_singleton, List.nodup_append_comm]
        refine List.nodup_cons.mpr ⟨?_, h.loaded⟩
        intro hin
        obtain ⟨y, hy, he⟩ := List.mem_map.mp hin
        exact h.apart y hy (he.trans (hguid x rfl) ▸ hg)
  refine ⟨hloaded, fun hopen => ⟨h.awaiting.erase _, hloaded, ?_, hopen⟩⟩
  intro x hx
  show x.guid ∉ r.awaiting.erase guid
  rw [h.awaiting.mem_erase_iff]
  obtain hx | hx := List.mem_append.mp hx
  · exact fun hand => h.apart x hx hand.2
  · exact fun hand => hand.1 (hguid x (Option.mem_toList.mp hx))

/-! ## §4. The tables and the lists. -/

/-- The guids of the active roles of an account. -/
def Rows.activeOf (rows : Rows) (account : String) : List UInt64 :=
  (rows.filter fun row => row.account = account && row.status = 1).map Row.guid

/-- The tables hold what the lists say. -/
structure ListBooks (rows : Rows) (s : State) (rs : List Roster) : Prop where
  same : s.rows = rows
  proper : ∀ r ∈ rs, r.Proper
  connected : ∀ r ∈ rs, r.session ∈ s.gateSessions
  accounts : (rs.map Roster.account).Nodup
  ofAccount : ∀ r ∈ rs, ∀ g ∈ r.awaiting, g ∈ rows.activeOf r.account
  record : ∀ r ∈ rs, ∃ info, s.accountInfoMap[r.account]? = some info ∧ r.Holds info
  load : ∀ r ∈ rs, ∀ g ∈ r.awaiting, s.roleInfoMap[g]? = some (r.roleInfo g)
  underWay : ∃ queue waiting : List UInt64, s.toCache = queue.map .load ∧ s.asked = waiting.map .loadEntity ∧
    (queue ++ waiting).Nodup ∧ ∀ g, g ∈ queue ++ waiting ↔ ∃ r ∈ rs, g ∈ r.awaiting

/-- The rows of the database: a guid stands in one row, and it is that of a player. -/
structure Rows.Keyed (rows : Rows) : Prop where
  guids : (rows.map Row.guid).Nodup
  players : ∀ row ∈ rows, guidType row.guid = etPlayer

variable {cfg : Config} {rows : Rows} {s : State} {rs : List Roster} {account account' : String}

theorem Rows.Keyed.account_eq (h : rows.Keyed) (hg : guid ∈ rows.activeOf account)
    (hg' : guid ∈ rows.activeOf account') : account = account' := by
  obtain ⟨row, hrow, he⟩ := List.mem_map.mp hg
  obtain ⟨row', hrow', he'⟩ := List.mem_map.mp hg'
  obtain ⟨hin, hcond⟩ := List.mem_filter.mp hrow
  obtain ⟨hin', hcond'⟩ := List.mem_filter.mp hrow'
  obtain rfl := List.inj_on_of_nodup_map h.guids hin hin' (he.trans he'.symm)
  rw [Bool.and_eq_true, decide_eq_true_eq] at hcond hcond'
  exact hcond.1.symm.trans hcond'.1

theorem Rows.Keyed.player (h : rows.Keyed) (hg : guid ∈ rows.activeOf account) :
    guidType guid = etPlayer := by
  obtain ⟨row, hrow, rfl⟩ := List.mem_map.mp hg
  exact h.players row (List.mem_filter.mp hrow).1

theorem Rows.Keyed.nodup_activeOf (h : rows.Keyed) (account : String) :
    (rows.activeOf account).Nodup :=
  h.guids.sublist (List.filter_sublist.map Row.guid)

/-- One list waits for a guid. -/
theorem ListBooks.split (h : ListBooks rows s rs) (hkeyed : rows.Keyed) (hr : r ∈ rs)
    (hg : guid ∈ r.awaiting) : ∃ pre post, rs = pre ++ r :: post ∧
      (∀ x ∈ pre ++ post, x.account ≠ r.account ∧ guid ∉ x.awaiting) := by
  obtain ⟨pre, post, rfl⟩ := List.append_of_mem hr
  refine ⟨pre, post, rfl, ?_⟩
  have hnodup := h.accounts
  rw [List.map_append, List.map_cons, List.nodup_middle, List.nodup_cons, ← List.map_append] at hnodup
  intro x hx
  have hne : x.account ≠ r.account := fun he => hnodup.1 (he ▸ List.mem_map_of_mem hx)
  have hin : x ∈ pre ++ r :: post := by
    rw [List.mem_append, List.mem_cons]
    obtain hx | hx := List.mem_append.mp hx
    · exact .inl hx
    · exact .inr (.inr hx)
  exact ⟨hne, fun hxg => hne (hkeyed.account_eq (h.ofAccount x hin guid hxg) (h.ofAccount r hr guid hg))⟩

/-- The one list that waits for a role gets the answer. -/
theorem answerFirst_eq {pre post : List Roster} (hpre : ∀ x ∈ pre, guid ∉ x.awaiting)
    (hg : guid ∈ r.awaiting) :
    answerFirst guid role (pre ++ r :: post) =
      if (r.take guid role).awaiting = [] then (pre ++ post, some (r.take guid role))
      else (pre ++ r.take guid role :: post, none) := by
  induction pre with
  | nil => rw [List.nil_append, answerFirst, if_pos hg]; rfl
  | cons x pre ih =>
      rw [List.cons_append, answerFirst, if_neg (hpre x List.mem_cons_self),
        ih fun y hy => hpre y (List.mem_cons_of_mem x hy)]
      by_cases hdone : (r.take guid role).awaiting = []
      · rw [if_pos hdone, if_pos hdone]
        rfl
      · rw [if_neg hdone, if_neg hdone]
        rfl

end Steppingstone.Charsys
