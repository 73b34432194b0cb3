/-
  Steppingstone.Charsys.RoleList — every request for a list of roles gets one answer.

  The list goes out when the last of its roles is there or has failed.  The lists in the making are
  kept by account, and the loads by player.
-/
import Steppingstone.Charsys.Roster

namespace Steppingstone.Charsys

open Std (TreeMap)
open Pool (guidType etPlayer)

variable {cfg : Config} {rows : Rows} {s : State} {rs : List Roster} {r : Roster}
  {info : AccountInfo} {guid : UInt64} {role : Option PlayerEntity}

/-! ## §1. A request. -/

/-- The loop over the roles: a record and a packet to the cache for each. -/
theorem foldl_load (r : Roster) (keys : List UInt64) (s : State) :
    ∃ m : TreeMap UInt64 RoleInfo,
      keys.foldl (fun s guid =>
        let s := s.setRoleInfo (r.roleInfo guid)
        { s with toCache := s.toCache ++ [.load guid] }) s =
        { s with roleInfoMap := m, toCache := s.toCache ++ keys.map .load } ∧
      ∀ g : UInt64, m[g]? = if g ∈ keys then some (r.roleInfo g) else s.roleInfoMap[g]? := by
  induction keys generalizing s with
  | nil => exact ⟨s.roleInfoMap, by rw [List.map_nil, List.append_nil]; rfl, fun _ => rfl⟩
  | cons guid keys ih =>
      obtain ⟨m, heq, hm⟩ := ih { s with
        roleInfoMap := s.roleInfoMap.insert guid (r.roleInfo guid)
        toCache := s.toCache ++ [.load guid] }
      refine ⟨m, ?_, ?_⟩
      · rw [List.foldl_cons]
        refine heq.trans ?_
        rw [List.append_assoc]
        rfl
      · intro g
        rw [hm]
        by_cases hin : g ∈ keys
        · rw [if_pos hin, if_pos (List.mem_cons_of_mem guid hin)]
        · rw [if_neg hin]
          show (s.roleInfoMap.insert guid _)[g]? = _
          rw [Lookup.getElem?_insert]
          by_cases hg : g = guid
          · rw [if_pos hg, if_pos (hg ▸ List.mem_cons_self), hg]
          · rw [if_neg hg, if_neg]
            intro hcons
            obtain he | hin' := List.mem_cons.mp hcons
            · exact hg he
            · exact hin hin'

/-- A request with active roles. -/
theorem handleRequestRoleList_open {p : ListPacket} {db : Outcome} {guids : List UInt64}
    (hlist : s.rows.getRoleList p.accountId db = some guids) (hne : guids ≠ []) (r : Roster)
    (hr : r = { account := p.accountId, session := p.session, packetGuid := p.guid,
                awaiting := guids }) :
    ∃ (info : AccountInfo) (m : TreeMap UInt64 RoleInfo) (keys : List UInt64),
      s.handleRequestRoleList p db = { s with
        accountInfoMap := (s.accountInfoMap.erase p.accountId).insert p.accountId info
        roleInfoMap := m
        toCache := s.toCache ++ keys.map .load } ∧
      r.Holds info ∧ keys.Nodup ∧ (∀ g, g ∈ keys ↔ g ∈ guids) ∧
      ∀ g : UInt64, m[g]? = if g ∈ guids then some (r.roleInfo g) else s.roleInfoMap[g]? := by
  subst hr
  let roleMap : TreeMap UInt64 LoadedRole := guids.foldl (fun m guid => m.insert guid .null) {}
  -- the guids are entered without a role, and each is loaded once
  have hlookup : ∀ g, roleMap[g]? = if g ∈ guids then some .null else none := by
    intro g
    rw [Lookup.getElem?_foldl_insert]
    split
    · rfl
    · simp
  have hkeys : ∀ g, g ∈ roleMap.keys ↔ g ∈ guids := by
    intro g
    rw [TreeMap.mem_keys, TreeMap.mem_iff_isSome_getElem?, hlookup]
    by_cases hg : g ∈ guids
    · simp [hg]
    · simp [hg]
  have hopen : roleMap.isEmpty = false := by
    obtain ⟨g, hg⟩ := List.exists_mem_of_ne_nil guids hne
    exact TreeMap.isEmpty_eq_false_iff_exists_mem.mpr ⟨g, TreeMap.mem_keys.mp ((hkeys g).mpr hg)⟩
  let info : AccountInfo := {
    account := p.accountId, packetGuid := p.guid, gateSession := p.session, roleMap := roleMap }
  let s' : State := { s with
    accountInfoMap := (s.accountInfoMap.erase p.accountId).insert p.accountId info }
  let r : Roster := {
    account := p.accountId, session := p.session, packetGuid := p.guid, awaiting := guids }
  obtain ⟨m, heq, hm⟩ := foldl_load r roleMap.keys s'
  refine ⟨info, m, roleMap.keys, ?_, ⟨rfl, rfl, rfl, ?_, ?_⟩, TreeMap.nodup_keys, hkeys, ?_⟩
  · unfold State.handleRequestRoleList
    rw [hlist]
    exact (if_neg (by rw [hopen]; decide)).trans heq
  · intro g
    show roleMap[g]? = _ ↔ g ∈ guids
    rw [hlookup]
    by_cases hg : g ∈ guids
    · simp [hg]
    · simp [hg]
  · intro g role
    show roleMap[g]? = _ ↔ role ∈ [] ∧ _
    rw [hlookup]
    by_cases hg : g ∈ guids
    · simp [hg]
    · simp [hg]
  · intro g
    rw [hm]
    by_cases hg : g ∈ guids
    · rw [if_pos hg, if_pos ((hkeys g).mpr hg)]
    · rw [if_neg hg, if_neg fun hin => hg ((hkeys g).mp hin)]

/-! ## §2. A reply. -/

/-- The load of a role is over, and its list is told. -/
theorem handleLoadEneity_eq (normal : Bool) (message : Option PlayerEntity) {account : AccountInfo}
    (hg : guidType guid = etPlayer) (hload : s.roleInfoMap[guid]? = some (r.roleInfo guid))
    (haccount : s.accountInfoMap[r.account]? = some account)
    (hguid : ∀ role ∈ message, role.guid = guid) :
    ∃ m : TreeMap UInt64 RoleInfo, s.handleLoadEneity guid normal message =
        (({ s with roleInfoMap := m } : State).setLoaded account guid
          ((if normal then message else none).elim .failed .player)).removeRoleInfo guid ∧
      ∀ g : UInt64, g ≠ guid → m[g]? = s.roleInfoMap[g]? := by
  have hinfo : s.getPlayerInfo guid = some (r.roleInfo guid) := by
    rw [State.getPlayerInfo, if_pos hg, hload]
  have hupdate : ∀ (info : RoleInfo) ok, info.updateState guid ok =
      { info with playerState := if ok then 1 else 2 } := by
    intro info ok
    rw [RoleInfo.updateState, if_pos hg]
  have hother : ∀ (m : TreeMap UInt64 RoleInfo) (x : RoleInfo) (g : UInt64), g ≠ guid →
      (m.insert guid x)[g]? = m[g]? := by
    intro m x g hne
    rw [Lookup.getElem?_insert, if_neg hne]
  let won : RoleInfo := { r.roleInfo guid with playerState := 1 }
  let lost : RoleInfo := { r.roleInfo guid with playerState := 2 }
  unfold State.handleLoadEneity
  cases normal with
  | false =>
      refine ⟨s.roleInfoMap.insert guid lost, ?_, hother _ _⟩
      simp [hinfo, hupdate, State.setRoleInfo, RoleInfo.isFailed, RoleInfo.isFinish, Roster.roleInfo,
        haccount, lost]
  | true =>
      cases message with
      | none =>
          -- the player cannot be read: the record is set twice
          refine ⟨(s.roleInfoMap.insert guid won).insert guid lost, ?_, ?_⟩
          · simp [hinfo, hupdate, State.setRoleInfo, RoleInfo.isFailed, RoleInfo.isSuccess,
              RoleInfo.isFinish, Roster.roleInfo, haccount, won, lost]
          · intro g hne
            rw [hother _ _ g hne, hother _ _ g hne]
      | some role =>
          refine ⟨s.roleInfoMap.insert guid won, ?_, hother _ _⟩
          simp [hinfo, hupdate, State.setRoleInfo, RoleInfo.isSuccess, RoleInfo.isFinish,
            Roster.roleInfo, haccount, won, hguid role rfl]

/-- A list that is told of a role goes out when it is finished. -/
theorem setLoaded_eq {info : AccountInfo} (h : r.Holds info) (hproper : r.Proper)
    (hg : guid ∈ r.awaiting) (hguid : ∀ x ∈ role, x.guid = guid) (hsession : r.session ∈ s.gateSessions) :
    if (r.take guid role).awaiting = [] then
      ∃ players, players.Perm (r.take guid role).loaded ∧
        s.setLoaded info guid (role.elim .failed .player) = { s with
          accountInfoMap := (s.accountInfoMap.insert r.account { info with
            roleMap := info.roleMap.insert guid (role.elim .failed .player) }).erase r.account
          sent := s.sent ++
            [⟨r.session, r.packetGuid, .requestPlayerList players players.length⟩] }
    else s.setLoaded info guid (role.elim .failed .player) = { s with
      accountInfoMap := s.accountInfoMap.insert r.account { info with
        roleMap := info.roleMap.insert guid (role.elim .failed .player) } } := by
  have htake := h.take hproper hg hguid
  have hcomplete := htake.complete
  have hperm := htake.loadedPlayers (hproper.take hg hguid).1
  have hset : ∀ value, s.setLoaded info guid value = (({ s with
      accountInfoMap := s.accountInfoMap.insert info.account { info with
        roleMap := info.roleMap.insert guid value } } : State).replayRoleList { info with
        roleMap := info.roleMap.insert guid value }) := fun value => if_pos (h.mem hg)
  rw [hset]
  unfold State.replayRoleList
  by_cases hdone : (r.take guid role).awaiting = []
  · rw [if_pos hdone, if_pos (hcomplete.mpr hdone)]
    refine ⟨_, hperm, ?_⟩
    simp only [h.account, h.session, h.packetGuid, State.existGateSession, hsession, decide_true,
      if_true]
    rfl
  · rw [if_neg hdone, if_neg fun hall => hdone (hcomplete.mp hall), h.account]

/-! ## §3. Every step. -/

/-- What holds at every moment. -/
structure ListInv (rows : Rows) (l : ListLog) : Prop where
  books : ListBooks rows l.state l.rosters
  answered : List.Forall₂ Says l.state.sent l.due
  oneAnswer : l.requests.Perm
    (l.due.map (fun d => (d.session, d.packetGuid)) ++ l.rosters.map Roster.client)
  once : ∀ d ∈ l.due, ∀ players, d.verdict = .roles players →
    (players.map PlayerEntity.guid).Nodup

variable {l : ListLog}

/-- When nothing is under way, no list waits for anything. -/
theorem ListBooks.finished (h : ListBooks rows s rs) (hcache : s.toCache = []) (hasked : s.asked = []) :
    rs = [] := by
  obtain ⟨queue, waiting, hq, hw, -, hmem⟩ := h.underWay
  rw [hcache] at hq
  rw [hasked] at hw
  obtain rfl := List.map_eq_nil_iff.mp hq.symm
  obtain rfl := List.map_eq_nil_iff.mp hw.symm
  apply List.eq_nil_iff_forall_not_mem.mpr
  intro r hr
  obtain ⟨g, hg⟩ := List.exists_mem_of_ne_nil _ (h.proper r hr).open'
  cases (hmem g).mpr ⟨r, hr, hg⟩

theorem ListInv.listed (h : ListInv rows l) : Listed l :=
  ⟨h.answered, h.oneAnswer, h.once, h.books.finished⟩

theorem forall₂_snoc {α β : Type} {R : α → β → Prop} {xs : List α} {ys : List β} {a : α} {b : β}
    (h : List.Forall₂ R xs ys) (hab : R a b) : List.Forall₂ R (xs ++ [a]) (ys ++ [b]) :=
  List.rel_append h (.cons hab .nil)

/-- A new list. -/
theorem ListBooks.request (h : ListBooks rows s rs) (hkeyed : rows.Keyed) {m : TreeMap UInt64 RoleInfo}
    {keys : List UInt64} (hr : r.awaiting = rows.activeOf r.account) (hne : r.awaiting ≠ [])
    (hloaded : r.loaded = []) (hsession : r.session ∈ s.gateSessions)
    (halone : ∀ x ∈ rs, x.account ≠ r.account) (hholds : r.Holds info) (hnodup : keys.Nodup)
    (hkeys : ∀ g, g ∈ keys ↔ g ∈ r.awaiting)
    (hm : ∀ g : UInt64, m[g]? = if g ∈ r.awaiting then some (r.roleInfo g) else s.roleInfoMap[g]?) :
    ListBooks rows { s with
      accountInfoMap := (s.accountInfoMap.erase r.account).insert r.account info
      roleInfoMap := m
      toCache := s.toCache ++ keys.map .load } (rs ++ [r]) := by
  have hmem : ∀ {x}, x ∈ rs ++ [r] ↔ x ∈ rs ∨ x = r := by
    intro x
    rw [List.mem_append, List.mem_singleton]
  -- a row belongs to one account, and no list of this account is open
  have hapart : ∀ x ∈ rs, ∀ g ∈ x.awaiting, g ∉ r.awaiting := by
    intro x hx g hg hgr
    exact halone x hx (hkeyed.account_eq (h.ofAccount x hx g hg) (hr ▸ hgr))
  refine ⟨h.same, ?_, ?_, ?_, ?_, ?_, ?_, ?_⟩
  · intro x hx
    obtain hx | rfl := hmem.mp hx
    · exact h.proper x hx
    · refine ⟨hr ▸ hkeyed.nodup_activeOf _, by rw [hloaded]; exact List.nodup_nil, ?_, hne⟩
      rw [hloaded]
      intro role hrole
      cases hrole
  · intro x hx
    obtain hx | rfl := hmem.mp hx
    · exact h.connected x hx
    · exact hsession
  · rw [List.map_append, List.map_singleton, List.nodup_append_comm]
    refine List.nodup_cons.mpr ⟨?_, h.accounts⟩
    intro hin
    obtain ⟨x, hx, he⟩ := List.mem_map.mp hin
    exact halone x hx he
  · intro x hx g hg
    obtain hx | rfl := hmem.mp hx
    · exact h.ofAccount x hx g hg
    · exact hr ▸ hg
  · intro x hx
    show ∃ info', ((s.accountInfoMap.erase r.account).insert r.account info)[x.account]? = _ ∧ _
    obtain hx | rfl := hmem.mp hx
    · obtain ⟨old, hold, hxold⟩ := h.record x hx
      refine ⟨old, ?_, hxold⟩
      rw [Lookup.getElem?_insert, if_neg (halone x hx), Lookup.getElem?_erase, if_neg (halone x hx)]
      exact hold
    · exact ⟨info, by rw [Lookup.getElem?_insert, if_pos rfl], hholds⟩
  · intro x hx g hg
    show m[g]? = _
    rw [hm]
    obtain hx | rfl := hmem.mp hx
    · rw [if_neg (hapart x hx g hg)]
      exact h.load x hx g hg
    · rw [if_pos hg]
  -- the new loads go to the end of the queue
  · obtain ⟨queue, waiting, hq, hw, hnd, hin⟩ := h.underWay
    have hperm : ((queue ++ keys) ++ waiting).Perm ((queue ++ waiting) ++ keys) := by
      rw [List.append_assoc, List.append_assoc]
      exact List.perm_append_comm.append_left queue
    refine ⟨queue ++ keys, waiting, ?_, hw, ?_, ?_⟩
    · show s.toCache ++ _ = _
      rw [hq, List.map_append]
    · rw [hperm.nodup_iff]
      refine List.nodup_append.mpr ⟨hnd, hnodup, ?_⟩
      intro g hg g' hg' he
      obtain ⟨x, hx, hxg⟩ := (hin g).mp hg
      exact hapart x hx g hxg ((hkeys g).mp (he ▸ hg'))
    · intro g
      rw [hperm.mem_iff, List.mem_append, hin, hkeys]
      constructor
      · intro hor
        cases hor with
        | inl hex =>
            obtain ⟨x, hx, hxg⟩ := hex
            exact ⟨x, hmem.mpr (.inl hx), hxg⟩
        | inr hg => exact ⟨r, hmem.mpr (.inr rfl), hg⟩
      · intro hex
        obtain ⟨x, hx, hxg⟩ := hex
        obtain hx | rfl := hmem.mp hx
        · exact .inl ⟨x, hx, hxg⟩
        · exact .inr hxg

/-- What a request adds to the log, and what the answer is. -/
theorem ListInv.request (hinv : ListInv rows l) (hkeyed : rows.Keyed) {p : ListPacket} {db : Outcome}
    (hsession : p.session ∈ l.state.gateSessions) (halone : Alone l (.request p db)) :
    ListInv rows (l.note (l.state.handleRequestRoleList p db) (.request p db)) := by
  have hbooks := hinv.books
  have hdue : ∀ d : ListDue, (d.session, d.packetGuid) = (p.session, p.guid) →
      (l.requests ++ [(p.session, p.guid)]).Perm
        ((l.due ++ [d]).map (fun d => (d.session, d.packetGuid)) ++ l.rosters.map Roster.client) := by
    intro d hd
    rw [List.map_append, List.append_assoc]
    refine (hinv.oneAnswer.append_right _).trans ?_
    rw [List.append_assoc, ← hd]
    exact List.perm_append_comm.append_left _
  cases hlist : l.state.rows.getRoleList p.accountId db with
  | none =>
      have hstep : l.state.handleRequestRoleList p db = l.state.sendClientErrorInfo p.session p.guid 1 := by
        rw [State.handleRequestRoleList, hlist]
      rw [hstep]
      simp only [ListLog.note, hlist]
      refine ⟨?_, forall₂_snoc hinv.answered ⟨rfl, rfl, trivial⟩, hdue _ rfl, ?_⟩
      · exact ⟨hbooks.same, hbooks.proper, hbooks.connected, hbooks.accounts, hbooks.ofAccount,
          hbooks.record, hbooks.load, hbooks.underWay⟩
      · intro d hd players hplayers
        obtain hd | hd := List.mem_append.mp hd
        · exact hinv.once d hd players hplayers
        · rw [List.mem_singleton.mp hd] at hplayers
          cases hplayers
  | some guids =>
      obtain ⟨hquery, hguids⟩ : db.listQuery = true ∧ rows.activeOf p.accountId = guids := by
        unfold Rows.getRoleList at hlist
        split at hlist
        next hq => exact ⟨hq, by rw [← hbooks.same]; exact Option.some.inj hlist⟩
        next => cases hlist
      have hother : ∀ x ∈ l.rosters, x.account ≠ p.accountId := by
        intro x hx he
        obtain ⟨info, hinfo, -⟩ := hbooks.record x hx
        have hnone := halone hquery
        rw [← he, hinfo] at hnone
        cases hnone
      -- an account without roles is answered at once
      cases guids with
      | nil =>
          have hstep : l.state.handleRequestRoleList p db = { l.state with
              accountInfoMap := l.state.accountInfoMap.erase p.accountId
              sent := l.state.sent ++ [⟨p.session, p.guid, .requestPlayerList [] 0⟩] } := by
            unfold State.handleRequestRoleList
            rw [hlist]
            simp [State.replayRoleList, State.existGateSession, hsession, State.loadedPlayers,
              State.output, State.cleanAccountInfo]
          rw [hstep]
          simp only [ListLog.note, hlist]
          refine ⟨?_, forall₂_snoc hinv.answered ⟨rfl, rfl, List.Perm.nil, rfl⟩, hdue _ rfl, ?_⟩
          · refine ⟨hbooks.same, hbooks.proper, hbooks.connected, hbooks.accounts, hbooks.ofAccount,
              ?_, hbooks.load, hbooks.underWay⟩
            intro x hx
            show ∃ info, (l.state.accountInfoMap.erase p.accountId)[x.account]? = _ ∧ _
            rw [Lookup.getElem?_erase, if_neg (hother x hx)]
            exact hbooks.record x hx
          · intro d hd players hplayers
            obtain hd | hd := List.mem_append.mp hd
            · exact hinv.once d hd players hplayers
            · rw [List.mem_singleton.mp hd] at hplayers
              cases hplayers
              exact List.nodup_nil
      | cons g gs =>
          let r : Roster := {
            account := p.accountId, session := p.session, packetGuid := p.guid,
            awaiting := g :: gs }
          obtain ⟨info, m, keys, hstep, hholds, hnodup, hkeys, hm⟩ :=
            handleRequestRoleList_open hlist (List.cons_ne_nil g gs) r rfl
          rw [hstep]
          simp only [ListLog.note, hlist]
          refine ⟨?_, hinv.answered, ?_, hinv.once⟩
          · exact hbooks.request hkeyed (r := r) hguids.symm (List.cons_ne_nil g gs) rfl hsession
              hother hholds hnodup hkeys hm
          · show (l.requests ++ [_]).Perm (_ ++ (l.rosters ++ [r]).map Roster.client)
            rw [List.map_append, ← List.append_assoc]
            exact hinv.oneAnswer.append_right _

/-- The cache is asked for the next player. -/
theorem ListInv.cache (hinv : ListInv rows l) {s' : State}
    (hstep : l.state.sendCachePacket cfg = some s') : ListInv rows (l.note s' .cache) := by
  have hbooks := hinv.books
  obtain ⟨queue, waiting, hq, hw, hnd, hin⟩ := hbooks.underWay
  cases queue with
  | nil =>
      rw [State.sendCachePacket, hq] at hstep
      cases hstep
  | cons g queue =>
      rw [State.sendCachePacket, hq] at hstep
      obtain rfl := Option.some.inj hstep
      have hperm : (queue ++ (waiting ++ [g])).Perm (g :: queue ++ waiting) := by
        rw [← List.append_assoc]
        exact List.perm_append_singleton g _
      refine ⟨?_, hinv.answered, hinv.oneAnswer, hinv.once⟩
      refine ⟨hbooks.same, hbooks.proper, hbooks.connected, hbooks.accounts, hbooks.ofAccount,
        hbooks.record, hbooks.load, queue, waiting ++ [g], rfl, ?_, ?_, ?_⟩
      · show l.state.asked ++ _ = _
        rw [hw, List.map_append, List.map_singleton]
      · rw [hperm.nodup_iff]
        exact hnd
      · intro x
        rw [hperm.mem_iff]
        exact hin x

/-- What a reply does to the tables: `r` is its list, and `r'` what becomes of it. -/
theorem ListBooks.reply {pre post : List Roster} (h : ListBooks rows s (pre ++ r :: post))
    (hg : guid ∈ r.awaiting)
    (hother : ∀ x ∈ pre ++ post, x.account ≠ r.account ∧ guid ∉ x.awaiting)
    (hguid : ∀ x ∈ role, x.guid = guid) (hwait : .loadEntity guid ∈ s.asked) (s' : State)
    (hrows : s'.rows = s.rows) (hsessions : s'.gateSessions = s.gateSessions)
    (hcache : s'.toCache = s.toCache)
    (hasked : s'.asked = s.asked.erase (.loadEntity guid))
    (hload : ∀ g : UInt64, g ≠ guid → s'.roleInfoMap[g]? = s.roleInfoMap[g]?)
    (hrecord : ∀ a : String, a ≠ r.account → s'.accountInfoMap[a]? = s.accountInfoMap[a]?)
    (hown : (r.take guid role).awaiting ≠ [] →
      ∃ info, s'.accountInfoMap[r.account]? = some info ∧ (r.take guid role).Holds info) :
    ListBooks rows s'
      (if (r.take guid role).awaiting = [] then pre ++ post else pre ++ r.take guid role :: post) := by
  -- the list that is complete goes, and one that still waits stays in its place
  have hmem : ∀ {x}, x ∈ (if (r.take guid role).awaiting = [] then pre ++ post
      else pre ++ r.take guid role :: post) ↔
      x ∈ pre ++ post ∨ ((r.take guid role).awaiting ≠ [] ∧ x = r.take guid role) := by
    intro x
    split
    next hdone => simp [hdone]
    next hopen =>
      rw [List.mem_append, List.mem_cons, List.mem_append]
      tauto
  have hold : ∀ {x}, x ∈ pre ++ post → x ∈ pre ++ r :: post := by
    intro x hx
    rw [List.mem_append, List.mem_cons]
    obtain hx | hx := List.mem_append.mp hx
    · exact .inl hx
    · exact .inr (.inr hx)
  have hin : r ∈ pre ++ r :: post := List.mem_append_right _ List.mem_cons_self
  have hproper := h.proper r hin
  have hawait : ∀ g, g ∈ (r.take guid role).awaiting ↔ g ≠ guid ∧ g ∈ r.awaiting := fun g =>
    hproper.awaiting.mem_erase_iff
  refine ⟨hrows.trans h.same, ?_, ?_, ?_, ?_, ?_, ?_, ?_⟩
  · intro x hx
    obtain hx | ⟨hopen, rfl⟩ := hmem.mp hx
    · exact h.proper x (hold hx)
    · exact (hproper.take hg hguid).2 hopen
  · intro x hx
    rw [hsessions]
    obtain hx | ⟨-, rfl⟩ := hmem.mp hx
    · exact h.connected x (hold hx)
    · exact h.connected r hin
  · have hnodup := h.accounts
    split
    · refine hnodup.sublist ?_
      rw [List.map_append, List.map_append, List.map_cons]
      exact (List.Sublist.refl _).append (List.sublist_cons_self ..)
    · rw [List.map_append, List.map_cons] at hnodup ⊢
      exact hnodup
  · intro x hx g hxg
    obtain hx | ⟨-, rfl⟩ := hmem.mp hx
    · exact h.ofAccount x (hold hx) g hxg
    · exact h.ofAccount r hin g ((hawait g).mp hxg).2
  · intro x hx
    obtain hx | ⟨hopen, rfl⟩ := hmem.mp hx
    · rw [hrecord _ (hother x hx).1]
      exact h.record x (hold hx)
    · exact hown hopen
  · intro x hx g hxg
    obtain hx | ⟨-, rfl⟩ := hmem.mp hx
    · rw [hload g fun he => (hother x hx).2 (he ▸ hxg)]
      exact h.load x (hold hx) g hxg
    · rw [hload g ((hawait g).mp hxg).1]
      exact h.load r hin g ((hawait g).mp hxg).2
  · obtain ⟨queue, waiting, hq, hw, hnd, hpending⟩ := h.underWay
    have hinj : Function.Injective CacheRequest.loadEntity := fun a b => CacheRequest.loadEntity.inj
    have hwaiting : guid ∈ waiting := by
      rw [hw] at hwait
      exact (List.mem_map_of_injective hinj).mp hwait
    have hqueue : guid ∉ queue := fun hin => (List.nodup_append.mp hnd).2.2 guid hin guid hwaiting rfl
    have herase : (queue ++ waiting).erase guid = queue ++ waiting.erase guid :=
      List.erase_append_right _ hqueue
    refine ⟨queue, waiting.erase guid, hcache.trans hq, ?_, herase ▸ hnd.erase guid, ?_⟩
    · rw [hasked, hw]
      exact (List.map_erase hinj waiting).symm
    · intro g
      rw [← herase, hnd.mem_erase_iff, hpending]
      constructor
      · intro hand
        obtain ⟨hne, x, hx, hxg⟩ := hand
        rw [List.mem_append, List.mem_cons] at hx
        obtain hx | rfl | hx := hx
        · exact ⟨x, hmem.mpr (.inl (List.mem_append_left _ hx)), hxg⟩
        · have htake := (hawait g).mpr ⟨hne, hxg⟩
          exact ⟨_, hmem.mpr (.inr ⟨List.ne_nil_of_mem htake, rfl⟩), htake⟩
        · exact ⟨x, hmem.mpr (.inl (List.mem_append_right _ hx)), hxg⟩
      · intro hex
        obtain ⟨x, hx, hxg⟩ := hex
        obtain hx | ⟨-, rfl⟩ := hmem.mp hx
        · exact ⟨fun he => (hother x hx).2 (he ▸ hxg), x, hold hx, hxg⟩
        · have hand := (hawait g).mp hxg
          exact ⟨hand.1, r, hin, hand.2⟩

theorem ListInv.reply (hinv : ListInv rows l) (hkeyed : rows.Keyed) {normal : Bool}
    {message : Option PlayerEntity} (hwait : .loadEntity guid ∈ l.state.asked)
    (hmessage : ∀ role ∈ message, role.guid = guid) :
    ListInv rows (l.note ({ l.state with
      asked := l.state.asked.erase (.loadEntity guid) }.handleLoadEneity guid normal message)
      (.reply guid normal message)) := by
  have hbooks := hinv.books
  obtain ⟨queue, waiting, hq, hw, hnd, hpending⟩ := hbooks.underWay
  have hwaiting : guid ∈ waiting := by
    rw [hw] at hwait
    obtain ⟨g, hg, he⟩ := List.mem_map.mp hwait
    exact CacheRequest.loadEntity.inj he ▸ hg
  -- the roster that the guid belongs to: there is one only
  obtain ⟨r, hr, hg⟩ := (hpending guid).mp (List.mem_append_right _ hwaiting)
  obtain ⟨pre, post, hsplit, hother⟩ := hbooks.split hkeyed hr hg
  obtain ⟨info, hinfo, hholds⟩ := hbooks.record r hr
  have hplayer := hkeyed.player (hbooks.ofAccount r hr guid hg)
  have hproper := hbooks.proper r hr
  have hsession := hbooks.connected r hr
  -- what the roster gets for the guid
  let role := if normal then message else none
  have hguid : ∀ x ∈ role, x.guid = guid := by
    intro x hx
    by_cases hnormal : normal = true
    · exact hmessage x (by simpa [role, hnormal] using hx)
    · simp [role, hnormal] at hx
  let t : State := { l.state with asked := l.state.asked.erase (.loadEntity guid) }
  obtain ⟨m, hstep, hm⟩ := handleLoadEneity_eq (s := t) (r := r) normal message
    hplayer (hbooks.load r hr guid hg) hinfo hmessage
  have hset := setLoaded_eq (s := { t with roleInfoMap := m }) hholds hproper hg hguid hsession
  have hanswer : answerFirst guid role l.rosters =
      if (r.take guid role).awaiting = [] then (pre ++ post, some (r.take guid role))
      else (pre ++ r.take guid role :: post, none) := by
    rw [hsplit]
    exact answerFirst_eq (fun x hx => (hother x (List.mem_append_left _ hx)).2) hg
  have hload : ∀ g : UInt64, g ≠ guid → (m.erase guid)[g]? = l.state.roleInfoMap[g]? := by
    intro g hne
    rw [Lookup.getElem?_erase, if_neg hne]
    exact hm g hne
  have hold := hbooks
  rw [hsplit] at hold
  have hperm := hinv.oneAnswer
  rw [hsplit] at hperm
  rw [show ({ l.state with asked := l.state.asked.erase (.loadEntity guid) } : State) = t from rfl,
    hstep]
  by_cases hdone : (r.take guid role).awaiting = []
  · -- the list goes out
    rw [if_pos hdone] at hset hanswer
    obtain ⟨players, hplayers, hset⟩ := hset
    rw [hset]
    simp only [ListLog.note, show (if normal then message else none) = role from rfl, hanswer]
    refine ⟨?_, ?_, ?_, ?_⟩
    · have hbooks' := hold.reply hg hother hguid hwait { l.state with
        roleInfoMap := m.erase guid
        accountInfoMap := (l.state.accountInfoMap.insert r.account { info with
          roleMap := info.roleMap.insert guid (role.elim .failed .player) }).erase r.account
        asked := l.state.asked.erase (.loadEntity guid)
        sent := l.state.sent ++
          [⟨r.session, r.packetGuid, .requestPlayerList players players.length⟩] }
        rfl rfl rfl rfl hload ?_ fun hopen => absurd hdone hopen
      · rw [if_pos hdone] at hbooks'
        exact hbooks'
      · intro a ha
        show ((l.state.accountInfoMap.insert _ _).erase _)[a]? = _
        rw [Lookup.getElem?_erase, if_neg ha, Lookup.getElem?_insert, if_neg ha]
    · exact forall₂_snoc hinv.answered ⟨rfl, rfl, hplayers, hplayers.length_eq⟩
    · show l.requests.Perm ((l.due ++ [(r.take guid role).due]).map _ ++ _)
      refine hperm.trans ?_
      rw [List.map_append, List.map_append, List.map_append, List.map_cons, List.append_assoc]
      exact (List.perm_middle).append_left _
    · intro d hd ps hps
      obtain hd | hd := List.mem_append.mp hd
      · exact hinv.once d hd ps hps
      · rw [List.mem_singleton.mp hd] at hps
        cases hps
        exact (hproper.take hg hguid).1
  · -- the list still waits
    rw [if_neg hdone] at hset hanswer
    rw [hset]
    simp only [ListLog.note, show (if normal then message else none) = role from rfl, hanswer,
      Option.map_none, Option.toList_none, List.append_nil]
    refine ⟨?_, hinv.answered, ?_, hinv.once⟩
    · have hbooks' := hold.reply hg hother hguid hwait { l.state with
        roleInfoMap := m.erase guid
        accountInfoMap := l.state.accountInfoMap.insert r.account { info with
          roleMap := info.roleMap.insert guid (role.elim .failed .player) }
        asked := l.state.asked.erase (.loadEntity guid) }
        rfl rfl rfl rfl hload ?_ ?_
      · rw [if_neg hdone] at hbooks'
        exact hbooks'
      · intro a ha
        show (l.state.accountInfoMap.insert _ _)[a]? = _
        rw [Lookup.getElem?_insert, if_neg ha]
      · intro _
        refine ⟨_, ?_, hholds.take hproper hg hguid⟩
        show (l.state.accountInfoMap.insert _ _)[r.account]? = _
        rw [Lookup.getElem?_insert, if_pos rfl]
    · show l.requests.Perm (l.due.map _ ++ (pre ++ r.take guid role :: post).map _)
      refine hperm.trans (List.Perm.of_eq ?_)
      rw [List.map_append, List.map_cons, List.map_append, List.map_cons]
      rfl

theorem ListInv.init (sessions : List Nat) :
    ListInv rows { state := { rows := rows, gateSessions := sessions } } := by
  have hnone : ∀ r : Roster, r ∉ ([] : List Roster) := fun r => List.not_mem_nil
  refine ⟨?_, .nil, List.Perm.nil, ?_⟩
  · refine ⟨rfl, ?_, ?_, List.nodup_nil, ?_, ?_, ?_, [], [], rfl, rfl, List.nodup_nil, ?_⟩
    · exact fun r hr => absurd hr (hnone r)
    · exact fun r hr => absurd hr (hnone r)
    · exact fun r hr => absurd hr (hnone r)
    · exact fun r hr => absurd hr (hnone r)
    · exact fun r hr => absurd hr (hnone r)
    · simp
  · intro d hd
    cases hd

/-- **Every request for a list is answered once, with the active roles that could be loaded**: in
    each state that steps which meet the condition lead to. -/
theorem reachable_listed (cfg : Config) {rows : Rows} (hkeyed : rows.Keyed) {l : ListLog}
    (h : (listing cfg rows).ReachableWhen Alone l) : Listed l := by
  refine (h.invariant (I := ListInv rows) ?_ ?_).listed
  · intro l hinit
    obtain ⟨sessions, rfl⟩ := hinit
    exact ListInv.init sessions
  · intro l a l' hinv halone hstep
    simp only [listing, Option.ite_none_right_eq_some, Option.map_eq_some_iff] at hstep
    obtain ⟨hen, s', hact, rfl⟩ := hstep
    cases a with
    | request p db =>
        rw [← Option.some.inj hact]
        exact hinv.request hkeyed hen halone
    | cache => exact hinv.cache hact
    | reply guid normal message =>
        rw [← Option.some.inj hact]
        exact hinv.reply hkeyed hen.1 hen.2

/-! ## §4. Two runs. -/

/-- Ann has two roles, and one that is deleted; Bob has one. -/
def roles : Rows :=
  [⟨0x0100000000000001, "ann", "Ann", 1⟩, ⟨0x0100000000000002, "ann", "Anna", 1⟩,
   ⟨0x0100000000000003, "ann", "Anne", 2⟩, ⟨0x0100000000000004, "bob", "Bob", 1⟩]

theorem roles_keyed : roles.Keyed := ⟨by decide +kernel, by decide +kernel⟩

/-- A configuration that accepts every name and has a resource for every role. -/
def noFiles : Config :=
  { checkRoleName := fun _ => true, getRoleId := fun _ _ => 1, hasRoleRes := fun _ => true }

/-- Two gates, and roles in the database. -/
def startList : ListLog := { state := { rows := roles, gateSessions := [1, 2] } }

/-- Two accounts at once; one role of Ann's cannot be loaded. -/
def twoLists : List ListAction :=
  [.request ⟨1, 7, "ann"⟩ {}, .request ⟨2, 8, "bob"⟩ {}, .cache, .cache, .cache,
   .reply 0x0100000000000002 true (some { guid := 0x0100000000000002 }),
   .reply 0x0100000000000004 true (some { guid := 0x0100000000000004 }),
   .reply 0x0100000000000001 false none]

/-- The session and the players of each list sent. -/
def State.lists (s : State) : List (Nat × List UInt64) :=
  s.sent.filterMap fun sent =>
    match sent.answer with
    | .requestPlayerList players _ => some (sent.session, players.map PlayerEntity.guid)
    | _ => none

theorem twoLists_listed : ∃ l, (listing noFiles roles).run startList twoLists = some l ∧
    l.state.lists = [(2, [0x0100000000000004]), (1, [0x0100000000000002])] ∧ Listed l := by
  have hrun : ((listing noFiles roles).run startList twoLists).map (fun l => l.state.lists) =
      some [(2, [0x0100000000000004]), (1, [0x0100000000000002])] := by decide +kernel
  obtain ⟨l, hl, hlists⟩ := Option.map_eq_some_iff.mp hrun
  have halone : (listing noFiles roles).RunMeets Alone startList twoLists := by decide +kernel
  exact ⟨l, hl, hlists, reachable_listed noFiles roles_keyed
    (TransSys.reachableWhen_of_run ⟨[1, 2], rfl⟩ halone hl)⟩

/-- Bob asks twice, from two sessions. -/
def bobTwice : List ListAction :=
  [.request ⟨1, 7, "bob"⟩ {}, .request ⟨2, 8, "bob"⟩ {}, .cache, .cache,
   .reply 0x0100000000000004 true (some { guid := 0x0100000000000004 }),
   .reply 0x0100000000000004 true (some { guid := 0x0100000000000004 })]

/-- **The first request is never answered** when a second one comes before its list is there. -/
theorem second_request_loses_first : ∃ l, (listing noFiles roles).Reachable l ∧
    l.requests = [(1, 7), (2, 8)] ∧ l.state.toCache = [] ∧ l.state.asked = [] ∧
    l.state.lists = [(2, [0x0100000000000004])] ∧ l.state.sent.length = 1 ∧ ¬ Listed l := by
  have hrun : ((listing noFiles roles).run startList bobTwice).map (fun l =>
      (l.requests, l.state.lists, l.state.sent.length,
        l.state.toCache.isEmpty && l.state.asked.isEmpty)) =
      some ([(1, 7), (2, 8)], [(2, [0x0100000000000004])], 1, true) := by decide +kernel
  obtain ⟨l, hl, he⟩ := Option.map_eq_some_iff.mp hrun
  simp only [Prod.mk.injEq, Bool.and_eq_true, List.isEmpty_iff] at he
  obtain ⟨hrequests, hlists, hsent, hcache, hasked⟩ := he
  refine ⟨l, TransSys.reachable_of_run ⟨[1, 2], rfl⟩ hl, hrequests, hcache, hasked, hlists, hsent, ?_⟩
  intro h
  -- one answer, nothing in the making, and two requests
  have hlength := h.oneAnswer.length_eq
  have hdue := h.answered.length_eq
  rw [h.finished hcache hasked, hrequests, List.length_append, List.length_map] at hlength
  rw [hsent] at hdue
  simp only [List.length_cons, List.length_nil, List.map_nil] at hlength
  omega

end Steppingstone.Charsys
