/-
  Steppingstone.Charsys.Limit — how many roles an account has, and what they are called.

  The number of roles is looked up when a request arrives, and a role becomes active later, when the
  cache has answered.  Between the two moments other requests of the account may pass.  Names are
  looked up among all rows, active or not.
-/
import Steppingstone.Charsys.Make

namespace Steppingstone.Charsys

open Std (TreeMap)
open Pool (guidType etPlayer etRole)

/-! ## §1. Rows that are active, or may become so. -/

/-- A creation of the guid is in progress, and none of its entities has failed. -/
def State.mayActivate (s : State) (guid : UInt64) : Bool :=
  guidType guid = etPlayer &&
    (s.roleInfoMap[guid]?).any fun info => info.playerState ≠ 2 && info.roleState ≠ 2

/-- The row is active, or may become so. -/
def State.live (s : State) (row : Row) : Bool := row.status = 1 || s.mayActivate row.guid

/-- The rows of the account that are active, or may become so. -/
def State.taken (s : State) (account : String) : Nat :=
  s.rows.countP fun row => row.account = account && s.live row

/-- What the rows must be like at every moment. -/
structure Within (cfg : Config) (rows : Rows) : Prop where
  limit : ∀ account,
    rows.countP (fun row => row.account = account && row.status = 1) ≤ cfg.maxRoleNumber
  names : rows.Pairwise fun row row' => row.status = 1 → row'.status = 1 → row.name ≠ row'.name

/-! ## §2. The system. -/

/-- A request comes with a new guid, and a reply is one to an entity that is not answered yet. -/
def State.enabled (s : State) : Action → Prop
  | .make _ db => ∀ guid ∈ db.playerGuid, guidType guid = etPlayer ∧
      (∀ row ∈ s.rows, row.guid ≠ guid) ∧ s.roleInfoMap[guid]?.isNone = true
  | .cache => True
  | .reply guid _ _ => ∀ info ∈ s.getPlayerInfo guid,
      (guidType guid = etPlayer → info.playerState = 0) ∧
      (guidType guid = etRole → info.roleState = 0)

instance State.decidableEnabled (s : State) : (a : Action) → Decidable (s.enabled a)
  | .make _ db => decidableForallMem db.playerGuid _
  | .cache => inferInstanceAs (Decidable True)
  | .reply guid _ _ => decidableForallMem (s.getPlayerInfo guid) _

/-- The character system, from rows that are within the limit. -/
def limited (cfg : Config) : TransSys State Action where
  init s := ∃ rows sessions, Within cfg rows ∧ s = { rows := rows, gateSessions := sessions }
  step s a := if s.enabled a then s.act cfg a else none

/-- The condition on a step: a request that puts a row into the table and starts its creation finds
    room beside the creations in progress. -/
def Room (cfg : Config) (s : State) : Action → Prop
  | .make p db => s.isMakingRole p.guid = false → db.insert = .inserted →
      (s.starts cfg p db).isSome = true → s.taken p.account < cfg.maxRoleNumber
  | _ => True

instance decidableRoom (cfg : Config) (s : State) : (a : Action) → Decidable (Room cfg s a)
  | .make p db => inferInstanceAs (Decidable (s.isMakingRole p.guid = false →
      db.insert = .inserted → (s.starts cfg p db).isSome = true →
      s.taken p.account < cfg.maxRoleNumber))
  | .cache => inferInstanceAs (Decidable True)
  | .reply .. => inferInstanceAs (Decidable True)

/-! ## §3. What a step does to the rows. -/

/-- The records are kept under the guids of their players, and only a player is answered. -/
def Keyed (s : State) : Prop :=
  ∀ g info, s.roleInfoMap[g]? = some info →
    info.playerGuid = g ∧ (info.playerState ≠ 0 → guidType g = etPlayer)

/-- The rows keep their accounts and names, and none becomes live; `extra` is new. -/
def Effect (s s' : State) (extra : List Row) : Prop :=
  ∃ f : Row → Row, s'.rows = s.rows.map f ++ extra ∧ ∀ row ∈ s.rows,
    (f row).account = row.account ∧ (f row).name = row.name ∧
    (s'.live (f row) = true → s.live row = true)

/-- Live rows have different names. -/
def LiveNames (s : State) : Prop :=
  s.rows.Pairwise fun row row' => s.live row = true → s.live row' = true → row.name ≠ row'.name

variable {cfg : Config} {s s' : State} {extra : List Row}

theorem Effect.refl (hrows : s'.rows = s.rows) (hmap : s'.roleInfoMap = s.roleInfoMap) :
    Effect s s' [] := by
  refine ⟨id, ?_, ?_⟩
  · rw [hrows, List.map_id, List.append_nil]
  · intro row _
    refine ⟨rfl, rfl, ?_⟩
    intro hlive
    unfold State.live State.mayActivate at hlive ⊢
    rw [hmap] at hlive
    exact hlive

/-- The count of the live rows grows by the new ones. -/
theorem Effect.taken (h : Effect s s' extra) (account : String) :
    s'.taken account ≤
      s.taken account + extra.countP fun row => row.account = account && s'.live row := by
  obtain ⟨f, hrows, hf⟩ := h
  unfold State.taken
  rw [hrows, List.countP_append, List.countP_map]
  apply Nat.add_le_add_right
  apply List.countP_mono_left
  intro row hrow hcount
  obtain ⟨haccount, -, hlive⟩ := hf row hrow
  simp only [Function.comp_apply, haccount, Bool.and_eq_true] at hcount ⊢
  exact ⟨hcount.1, hlive hcount.2⟩

/-- Names stay different when a new row has a new name. -/
theorem Effect.names (h : Effect s s' extra) (hnames : LiveNames s)
    (hextra : extra = [] ∨ ∃ row, extra = [row] ∧ ∀ row' ∈ s.rows, row'.name ≠ row.name) :
    LiveNames s' := by
  obtain ⟨f, hrows, hf⟩ := h
  unfold LiveNames at hnames ⊢
  rw [hrows, List.pairwise_append]
  refine ⟨?_, ?_, ?_⟩
  · rw [List.pairwise_map]
    refine hnames.imp_of_mem ?_
    intro row row' hrow hrow' hne hlive hlive'
    obtain ⟨-, hname, hl⟩ := hf row hrow
    obtain ⟨-, hname', hl'⟩ := hf row' hrow'
    rw [hname, hname']
    exact hne (hl hlive) (hl' hlive')
  · cases hextra with
    | inl he =>
        rw [he]
        exact List.Pairwise.nil
    | inr hex =>
        obtain ⟨row, he, -⟩ := hex
        rw [he]
        exact List.pairwise_singleton ..
  · intro row hrow row' hrow' _ _
    obtain ⟨old, hold, rfl⟩ := List.mem_map.mp hrow
    rw [(hf old hold).2.1]
    cases hextra with
    | inl he =>
        rw [he] at hrow'
        cases hrow'
    | inr hex =>
        obtain ⟨new, he, hne⟩ := hex
        rw [he, List.mem_singleton] at hrow'
        rw [hrow']
        exact hne old hold

/-! ## §4. The steps. -/

/-- What `handleRoleMake` does: nothing to the tables, or a row, or a row and a record. -/
theorem handleRoleMake_cases (cfg : Config) (s : State) (p : MakePacket) (db : Outcome) :
    ((s.handleRoleMake cfg p db).rows = s.rows ∧
      (s.handleRoleMake cfg p db).roleInfoMap = s.roleInfoMap) ∨
    ∃ rows guid, s.isMakingRole p.guid = false ∧ s.rows.isExistRoleName p.name db = false ∧
      s.rows.insertRoleName p.account p.name db = some (rows, guid) ∧
      (s.handleRoleMake cfg p db).rows = rows ∧
      ((s.handleRoleMake cfg p db).roleInfoMap = s.roleInfoMap ∨
        ∃ c, s.starts cfg p db = some c ∧ c.playerGuid = guid ∧ c.player = none ∧
          (s.handleRoleMake cfg p db).roleInfoMap = s.roleInfoMap.insert guid c.info) := by
  unfold State.handleRoleMake
  -- the early returns of the source, in their order
  by_cases hmaking : s.isMakingRole p.guid = true
  · rw [if_pos hmaking]
    exact .inl ⟨rfl, rfl⟩
  by_cases hname : (!cfg.checkRoleName p.name) = true
  · rw [if_neg hmaking, if_pos hname]
    exact .inl ⟨rfl, rfl⟩
  by_cases hexist : s.rows.isExistRoleName p.name db = true
  · rw [if_neg hmaking, if_neg hname, if_pos hexist]
    exact .inl ⟨rfl, rfl⟩
  rw [if_neg hmaking, if_neg hname, if_neg hexist]
  cases hnumber : s.rows.getAccountRoleNumber p.account db with
  | none => exact .inl ⟨rfl, rfl⟩
  | some number =>
      by_cases hlt : number < cfg.maxRoleNumber
      · simp only [if_pos hlt]
        cases hinsert : s.rows.insertRoleName p.account p.name db with
        | none => exact .inl ⟨rfl, rfl⟩
        | some inserted =>
            obtain ⟨rows, guid⟩ := inserted
            refine .inr ⟨rows, guid, by simpa using hmaking, by simpa using hexist, rfl, ?_⟩
            cases hrole : db.roleGuid with
            | none => exact ⟨rfl, .inl rfl⟩
            | some roleGuid =>
                let c : Creation := {
                  account := p.account, session := p.session, packetGuid := p.guid,
                  playerGuid := guid, roleGuid := roleGuid }
                refine ⟨rfl, .inr ⟨c, ?_, rfl, rfl, rfl⟩⟩
                rw [State.starts, if_neg (by simp [hname, hexist]), hnumber, hinsert, hrole]
                exact if_pos hlt
      · refine .inl ?_
        simp only [if_neg hlt, and_self]

/-- **A request** grows the table by a row that is live only when its creation starts. -/
theorem make_effect (cfg : Config) {p : MakePacket} {db : Outcome} (hen : s.enabled (.make p db))
    (hkeyed : Keyed s) :
    Keyed (s.handleRoleMake cfg p db) ∧ ∃ extra, Effect s (s.handleRoleMake cfg p db) extra ∧
      (extra = [] ∨ ∃ row, extra = [row] ∧ (∀ row' ∈ s.rows, row'.name ≠ row.name) ∧
        ((s.handleRoleMake cfg p db).live row = true → row.account = p.account ∧
          s.isMakingRole p.guid = false ∧ db.insert = .inserted ∧
          (s.starts cfg p db).isSome = true)) := by
  cases handleRoleMake_cases cfg s p db with
  | inl h =>
      obtain ⟨hrows, hmap⟩ := h
      refine ⟨?_, [], Effect.refl hrows hmap, .inl rfl⟩
      unfold Keyed
      rw [hmap]
      exact hkeyed
  | inr h =>
      obtain ⟨rows, guid, hmaking, hexist, hinsert, hrows, hmap⟩ := h
      have hname : ∀ row' ∈ s.rows, row'.name ≠ p.name := by
        intro row' hrow' he
        have hany : (s.rows.any fun row => row.name = p.name) = true :=
          List.any_eq_true.mpr ⟨row', hrow', decide_eq_true he⟩
        rw [Rows.isExistRoleName, hany, Bool.or_true] at hexist
        cases hexist
      -- no row has the guid of the new record, unless it is no guid of a player
      have hother : ∀ row ∈ s.rows, row.guid = guid → guidType guid ≠ etPlayer := by
        intro row hrow he
        obtain ⟨-, hguid, -⟩ | ⟨-, hguid, -⟩ | ⟨-, hguid, -⟩ := insertRoleName_cases hinsert
        · exact absurd he ((hen guid hguid).2.1 row hrow)
        · exact absurd he ((hen guid hguid).2.1 row hrow)
        · rw [hguid]
          decide
      have hlive : ∀ row ∈ s.rows, (s.handleRoleMake cfg p db).live row = true →
          s.live row = true := by
        intro row hrow hlive
        cases hmap with
        | inl hsame =>
            unfold State.live State.mayActivate at hlive ⊢
            rwa [hsame] at hlive
        | inr hex =>
            obtain ⟨c, -, -, -, hmap⟩ := hex
            unfold State.live State.mayActivate at hlive ⊢
            rw [hmap, Lookup.getElem?_insert] at hlive
            by_cases hg : row.guid = guid
            · rw [hg, decide_eq_false (hother row hrow hg)] at hlive
              simp only [Bool.false_and, Bool.or_false] at hlive
              rw [hlive]
              rfl
            · rwa [if_neg hg] at hlive
      refine ⟨?_, ?_⟩
      · cases hmap with
        | inl hsame =>
            unfold Keyed
            rw [hsame]
            exact hkeyed
        | inr hex =>
            obtain ⟨c, -, hguid, hplayer, hmap⟩ := hex
            intro g info hinfo
            rw [hmap, Lookup.getElem?_insert] at hinfo
            by_cases hg : g = guid
            · rw [if_pos hg] at hinfo
              obtain rfl := Option.some.inj hinfo
              refine ⟨hguid.trans hg.symm, ?_⟩
              intro hstate
              have hzero : c.info.playerState = 0 := by
                show replyState c.player = 0
                rw [hplayer]
                rfl
              exact absurd hzero hstate
            · rw [if_neg hg] at hinfo
              exact hkeyed g info hinfo
      · have hsame : rows = s.rows → ∃ extra, Effect s (s.handleRoleMake cfg p db) extra ∧
            (extra = [] ∨ ∃ row, extra = [row] ∧ (∀ row' ∈ s.rows, row'.name ≠ row.name) ∧
              ((s.handleRoleMake cfg p db).live row = true → row.account = p.account ∧
                s.isMakingRole p.guid = false ∧ db.insert = .inserted ∧
                (s.starts cfg p db).isSome = true)) := by
          intro he
          refine ⟨[], ⟨id, ?_, fun row hrow => ⟨rfl, rfl, hlive row hrow⟩⟩, .inl rfl⟩
          rw [hrows, he, List.map_id, List.append_nil]
        obtain ⟨hinserted, hguid, he⟩ | ⟨-, -, he⟩ | ⟨-, -, he⟩ := insertRoleName_cases hinsert
        · let row : Row := { guid := guid, account := p.account, name := p.name, status := 0 }
          refine ⟨[row], ⟨id, ?_, fun row hrow => ⟨rfl, rfl, hlive row hrow⟩⟩,
            .inr ⟨row, rfl, hname, ?_⟩⟩
          · rw [hrows, he, List.map_id]
          · intro hnew
            refine ⟨rfl, hmaking, hinserted, ?_⟩
            cases hmap with
            | inl hsame =>
                -- without a record the row is not live
                have hnone := (hen guid hguid).2.2
                rw [Option.isNone_iff_eq_none] at hnone
                unfold State.live State.mayActivate at hnew
                rw [hsame, hnone] at hnew
                simp at hnew
            | inr hex =>
                obtain ⟨c, hstarts, -⟩ := hex
                rw [hstarts]
                rfl
        · exact hsame he
        · exact hsame he

/-- The record a reply finds is there under the guid of its player. -/
theorem getPlayerInfo_cases {guid : UInt64} {info : RoleInfo}
    (h : s.getPlayerInfo guid = some info) :
    (guidType guid = etPlayer ∧ s.roleInfoMap[guid]? = some info) ∨
    (guidType guid = etRole ∧ ∃ g : UInt64, s.roleInfoMap[g]? = some info) := by
  unfold State.getPlayerInfo at h
  split at h
  next hplayer => exact .inl ⟨hplayer, h⟩
  next =>
    split at h
    next hrole =>
        obtain ⟨e, hfind, rfl⟩ := Option.map_eq_some_iff.mp h
        exact .inr ⟨hrole, e.1, (Lookup.mem_toList _ e).mp (List.mem_of_find?_eq_some hfind)⟩
    next => cases h

/-- What `handleNewEneity` does with a record: it is put down or taken out, and the rows of its guid
    get a new status when both replies are there. -/
theorem handleNewEneity_cases (cfg : Config) {guid : UInt64} (normal : Bool) (db : Outcome)
    {info : RoleInfo} (h : s.getPlayerInfo guid = some info) :
    ((s.handleNewEneity cfg guid normal db).roleInfoMap =
        s.roleInfoMap.insert (info.updateState guid normal).playerGuid (info.updateState guid normal) ∨
      (s.handleNewEneity cfg guid normal db).roleInfoMap =
        (s.roleInfoMap.insert (info.updateState guid normal).playerGuid
          (info.updateState guid normal)).erase (info.updateState guid normal).playerGuid) ∧
    ((s.handleNewEneity cfg guid normal db).rows = s.rows ∨
      (s.handleNewEneity cfg guid normal db).rows =
        s.rows.setStatus (info.updateState guid normal).playerGuid 2 ∨
      (normal = true ∧ (info.updateState guid normal).isSuccess = true ∧
        (s.handleNewEneity cfg guid normal db).rows =
          s.rows.setStatus (info.updateState guid normal).playerGuid 1)) := by
  unfold State.handleNewEneity
  simp only [h]
  generalize info.updateState guid normal = info'
  refine ⟨?_, ?_⟩
  · -- the record goes when both replies are there, whatever happens to the rows
    by_cases hfinish : info'.isFinish = true
    · rw [if_pos hfinish]
      refine .inr ?_
      unfold State.removeRoleInfo
      split
      · split
        · split
          · rfl
          · split <;> rfl
        · rfl
      · split <;> rfl
    · rw [if_neg hfinish]
      refine .inl ?_
      split
      · split
        · split
          · rfl
          · split <;> rfl
        · rfl
      · split <;> rfl
  -- the rows change when the record is complete, and the database takes it
  · have hrows : ∀ t : State, (if info'.isFinish = true then t.removeRoleInfo info'.playerGuid
        else t).rows = t.rows := by
      intro t
      split <;> rfl
    rw [hrows]
    cases normal with
    | true =>
        by_cases hsuccess : info'.isSuccess = true
        · simp only [if_pos hsuccess, if_true]
          cases hupdate : (s.setRoleInfo info').rows.updateRoleStatus info'.playerGuid db with
          | none => exact .inl rfl
          | some rows =>
              have he : rows = s.rows.setStatus info'.playerGuid 1 := by
                unfold Rows.updateRoleStatus at hupdate
                split at hupdate
                · exact (Option.some.inj hupdate).symm
                · cases hupdate
              refine .inr (.inr ⟨trivial, hsuccess, ?_⟩)
              show (if _ then _ else _ : State).rows = _
              rw [← he]
              split <;> rfl
        · simp only [if_neg hsuccess, if_true]
          exact .inl rfl
    | false =>
        by_cases hfailed : info'.isFailed = true
        · simp only [if_pos hfailed, Bool.false_eq_true, if_false]
          show s.rows.deleteRole info'.playerGuid db = _ ∨ s.rows.deleteRole info'.playerGuid db = _ ∨ _
          unfold Rows.deleteRole
          split
          · exact .inr (.inl rfl)
          · exact .inl rfl
        · simp only [if_neg hfailed, Bool.false_eq_true, if_false]
          exact .inl rfl

theorem updateState_eq (info : RoleInfo) (guid : UInt64) (ok : Bool) :
    (info.updateState guid ok).playerGuid = info.playerGuid ∧
    (guidType guid = etPlayer → (info.updateState guid ok).roleState = info.roleState) ∧
    (guidType guid = etRole → (info.updateState guid ok).playerState = info.playerState) := by
  have hne : etPlayer ≠ etRole := by decide
  unfold RoleInfo.updateState
  split
  next hplayer => exact ⟨rfl, fun _ => rfl, fun hrole => absurd (hplayer.symm.trans hrole) hne⟩
  next hplayer =>
    split
    · exact ⟨rfl, fun h => absurd h hplayer, fun _ => rfl⟩
    · exact ⟨rfl, fun _ => rfl, fun _ => rfl⟩

/-- **A reply** makes no row live that was not. -/
theorem reply_effect (cfg : Config) {guid : UInt64} (normal : Bool) (db : Outcome)
    (hen : s.enabled (.reply guid normal db)) (hkeyed : Keyed s) :
    Keyed (s.handleNewEneity cfg guid normal db) ∧
      Effect s (s.handleNewEneity cfg guid normal db) [] := by
  cases hinfo : s.getPlayerInfo guid with
  | none =>
      have hstep : s.handleNewEneity cfg guid normal db = s := by
        unfold State.handleNewEneity
        rw [hinfo]
      rw [hstep]
      exact ⟨hkeyed, Effect.refl rfl rfl⟩
  | some info =>
      obtain ⟨hmap, hrows⟩ := handleNewEneity_cases cfg normal db hinfo
      obtain ⟨hguid, hplayer, hrole⟩ := updateState_eq info guid normal
      obtain ⟨hzero, hzero'⟩ := hen info hinfo
      -- the record is the one of its player
      obtain ⟨htype, hfound⟩ : (guidType guid = etPlayer ∧ guid = info.playerGuid ∨
          guidType guid = etRole) ∧ s.roleInfoMap[info.playerGuid]? = some info := by
        obtain ⟨hp, hfound⟩ | ⟨hr, g, hfound⟩ := getPlayerInfo_cases hinfo
        · have hg := (hkeyed guid info hfound).1
          exact ⟨.inl ⟨hp, hg.symm⟩, hg ▸ hfound⟩
        · have hg := (hkeyed g info hfound).1
          exact ⟨.inr hr, hg ▸ hfound⟩
      have hanswered : (info.updateState guid normal).playerState ≠ 0 →
          guidType info.playerGuid = etPlayer := by
        intro hstate
        cases htype with
        | inl hp => exact hp.2 ▸ hp.1
        | inr hr => exact (hkeyed _ info hfound).2 (by rw [← hrole hr]; exact hstate)
      have hopen : (info.updateState guid normal).playerState ≠ 2 →
          (info.updateState guid normal).roleState ≠ 2 →
          info.playerState ≠ 2 ∧ info.roleState ≠ 2 := by
        intro hp2 hr2
        cases htype with
        | inl hp =>
            refine ⟨?_, by rw [← hplayer hp.1]; exact hr2⟩
            rw [hzero hp.1]
            decide
        | inr hr =>
            refine ⟨by rw [← hrole hr]; exact hp2, ?_⟩
            rw [hzero' hr]
            decide
      have hlookup : ∀ x, x ≠ info.playerGuid →
          (s.handleNewEneity cfg guid normal db).roleInfoMap[x]? = s.roleInfoMap[x]? := by
        intro x hx
        cases hmap with
        | inl hmap => rw [hmap, Lookup.getElem?_insert, hguid, if_neg hx]
        | inr hmap => rw [hmap, Lookup.getElem?_erase, Lookup.getElem?_insert, hguid, if_neg hx,
            if_neg hx]
      have hown : ∀ x, (s.handleNewEneity cfg guid normal db).roleInfoMap[info.playerGuid]? = some x →
          x = info.updateState guid normal := by
        intro x hx
        cases hmap with
        | inl hmap =>
            rw [hmap, Lookup.getElem?_insert, hguid, if_pos rfl] at hx
            exact (Option.some.inj hx).symm
        | inr hmap =>
            rw [hmap, Lookup.getElem?_erase, hguid, if_pos rfl] at hx
            cases hx
      have hstay : ∀ x, (s.handleNewEneity cfg guid normal db).mayActivate x = true →
          s.mayActivate x = true := by
        intro x hmay
        unfold State.mayActivate at hmay ⊢
        by_cases hx : x = info.playerGuid
        · rw [hx] at hmay ⊢
          rw [hfound]
          cases hnew : (s.handleNewEneity cfg guid normal db).roleInfoMap[info.playerGuid]? with
          | none => simp [hnew] at hmay
          | some y =>
              rw [hnew, hown y hnew] at hmay
              simp only [Option.any_some, Bool.and_eq_true, decide_eq_true_eq] at hmay ⊢
              exact ⟨hmay.1, hopen hmay.2.1 hmay.2.2⟩
        · rwa [hlookup x hx] at hmay
      refine ⟨?_, ?_⟩
      · intro x y hy
        by_cases hx : x = info.playerGuid
        · rw [hx] at hy ⊢
          rw [hown y hy]
          exact ⟨hguid, hanswered⟩
        · rw [hlookup x hx] at hy
          exact hkeyed x y hy
      · obtain hsame | htwo | ⟨-, hsuccess, hone⟩ := hrows
        · refine ⟨id, by rw [hsame, List.map_id, List.append_nil], ?_⟩
          intro row _
          refine ⟨rfl, rfl, ?_⟩
          intro hlive
          unfold State.live at hlive ⊢
          rw [Bool.or_eq_true] at hlive ⊢
          exact hlive.imp_right (hstay row.guid)
        · refine ⟨_, by rw [htwo, hguid, List.append_nil]; rfl, ?_⟩
          intro row _
          unfold State.live
          split
          · refine ⟨rfl, rfl, ?_⟩
            intro hlive
            rw [Bool.or_eq_true] at hlive ⊢
            cases hlive with
            | inl he => exact absurd (of_decide_eq_true he) (show ¬ (2 : Nat) = 1 by decide)
            | inr hmay => exact .inr (hstay row.guid hmay)
          · refine ⟨rfl, rfl, ?_⟩
            intro hlive
            rw [Bool.or_eq_true] at hlive ⊢
            exact hlive.imp_right (hstay row.guid)
        · refine ⟨_, by rw [hone, hguid, List.append_nil]; rfl, ?_⟩
          intro row _
          unfold State.live
          split
          next hrow =>
              -- it was in progress until now
              refine ⟨rfl, rfl, ?_⟩
              intro _
              simp only [RoleInfo.isSuccess, Bool.and_eq_true, decide_eq_true_eq] at hsuccess
              have hp := hopen (by rw [hsuccess.1]; decide) (by rw [hsuccess.2]; decide)
              rw [Bool.or_eq_true]
              refine .inr ?_
              unfold State.mayActivate
              rw [hrow, hfound, decide_eq_true (hanswered (by rw [hsuccess.1]; decide))]
              simp [hp.1, hp.2]
          next =>
              refine ⟨rfl, rfl, ?_⟩
              intro hlive
              rw [Bool.or_eq_true] at hlive ⊢
              exact hlive.imp_right (hstay row.guid)

/-- The thread that talks to the cache changes neither rows nor records. -/
theorem cache_effect (h : s.sendCachePacket cfg = some s') :
    s'.rows = s.rows ∧ s'.roleInfoMap = s.roleInfoMap := by
  unfold State.sendCachePacket at h
  split at h
  · cases h
  · rw [← Option.some.inj h]
    unfold State.cacheRoleMake
    split
    · exact ⟨rfl, rfl⟩
    · show (if _ then _ else _ : State).rows = _ ∧ (if _ then _ else _ : State).roleInfoMap = _
      split <;> exact ⟨rfl, rfl⟩
  · rw [← Option.some.inj h]
    exact ⟨rfl, rfl⟩

/-! ## §5. Every run. -/

/-- **One step**: new rows have new names, and they are live only when their creations start. -/
theorem step_effect {a : Action} (hkeyed : Keyed s) (h : (limited cfg).step s a = some s') :
    Keyed s' ∧ ∃ extra, Effect s s' extra ∧
      (extra = [] ∨ ∃ row, extra = [row] ∧ (∀ row' ∈ s.rows, row'.name ≠ row.name) ∧
        (s'.live row = true → ∃ p db, a = .make p db ∧ row.account = p.account ∧
          s.isMakingRole p.guid = false ∧ db.insert = .inserted ∧
          (s.starts cfg p db).isSome = true)) := by
  simp only [limited, Option.ite_none_right_eq_some] at h
  obtain ⟨hen, hact⟩ := h
  cases a with
  | make p db =>
      obtain rfl := Option.some.inj hact
      obtain ⟨hkeyed', extra, heffect, hextra⟩ := make_effect cfg hen hkeyed
      refine ⟨hkeyed', extra, heffect, hextra.imp_right ?_⟩
      intro hex
      obtain ⟨row, he, hname, hlive⟩ := hex
      exact ⟨row, he, hname, fun h => ⟨p, db, rfl, hlive h⟩⟩
  | cache =>
      obtain ⟨hrows, hmap⟩ := cache_effect hact
      refine ⟨?_, [], Effect.refl hrows hmap, .inl rfl⟩
      unfold Keyed
      rw [hmap]
      exact hkeyed
  | reply guid normal db =>
      obtain rfl := Option.some.inj hact
      let t : State := { s with asked := s.asked.erase (.newEntity guid) }
      obtain ⟨hkeyed', heffect⟩ := reply_effect (s := t) cfg normal db hen hkeyed
      exact ⟨hkeyed', [], heffect, .inl rfl⟩

/-- Active rows are live. -/
theorem active_of_live_names (h : LiveNames s) :
    s.rows.Pairwise fun row row' => row.status = 1 → row'.status = 1 → row.name ≠ row'.name := by
  refine h.imp ?_
  intro row row' hne hrow hrow'
  refine hne ?_ ?_
  · rw [State.live, decide_eq_true hrow, Bool.true_or]
  · rw [State.live, decide_eq_true hrow', Bool.true_or]

theorem init_live {rows : Rows} {sessions : List Nat} (row : Row) :
    ({ rows := rows, gateSessions := sessions } : State).live row = decide (row.status = 1) := by
  unfold State.live State.mayActivate
  simp

/-- **Names are unique**, whatever happens. -/
theorem reachable_names (h : (limited cfg).Reachable s) : Keyed s ∧ LiveNames s := by
  refine h.invariant (I := fun s => Keyed s ∧ LiveNames s) ?_ ?_
  · intro s hinit
    obtain ⟨rows, sessions, hwithin, rfl⟩ := hinit
    refine ⟨?_, ?_⟩
    · intro g info hinfo
      simp at hinfo
    · refine hwithin.names.imp ?_
      intro row row' hne hlive hlive'
      rw [init_live] at hlive hlive'
      exact hne (of_decide_eq_true hlive) (of_decide_eq_true hlive')
  · intro s a s' hinv _ hstep
    obtain ⟨hkeyed, extra, heffect, hextra⟩ := step_effect hinv.1 hstep
    refine ⟨hkeyed, heffect.names hinv.2 ?_⟩
    refine hextra.imp_right ?_
    intro hex
    obtain ⟨row, he, hname, -⟩ := hex
    exact ⟨row, he, hname⟩

/-- Live rows are within the limit when every request finds room. -/
theorem reachable_taken (h : (limited cfg).ReachableWhen (Room cfg) s) :
    Keyed s ∧ ∀ account, s.taken account ≤ cfg.maxRoleNumber := by
  refine h.invariant (I := fun s => Keyed s ∧ ∀ account, s.taken account ≤ cfg.maxRoleNumber) ?_ ?_
  · intro s hinit
    obtain ⟨rows, sessions, hwithin, rfl⟩ := hinit
    refine ⟨?_, ?_⟩
    · intro g info hinfo
      simp at hinfo
    · intro account
      unfold State.taken
      simp only [init_live]
      exact hwithin.limit account
  · intro s a s' hinv hroom hstep
    obtain ⟨hkeyed, extra, heffect, hextra⟩ := step_effect hinv.1 hstep
    refine ⟨hkeyed, ?_⟩
    intro account
    have htaken := heffect.taken account
    have hbefore := hinv.2 account
    cases hextra with
    | inl he =>
        rw [he, List.countP_nil] at htaken
        omega
    | inr hex =>
        obtain ⟨row, he, -, hlive⟩ := hex
        rw [he, List.countP_singleton] at htaken
        by_cases hcount : (decide (row.account = account) && s'.live row) = true
        · rw [if_pos hcount] at htaken
          rw [Bool.and_eq_true, decide_eq_true_eq] at hcount
          obtain ⟨p, db, rfl, haccount, hmaking, hinserted, hstarts⟩ := hlive hcount.2
          have hlt : s.taken p.account < cfg.maxRoleNumber := hroom hmaking hinserted hstarts
          rw [← haccount, hcount.1] at hlt
          omega
        · rw [if_neg hcount] at htaken
          omega

/-- **No account exceeds its limit, and no two active rows have one name**, in each state that steps
    which find room lead to. -/
theorem reachable_within (cfg : Config) {s : State}
    (h : (limited cfg).ReachableWhen (Room cfg) s) : Within cfg s.rows := by
  refine ⟨?_, active_of_live_names (reachable_names (h.mono fun _ _ _ => trivial)).2⟩
  intro account
  refine Nat.le_trans ?_ ((reachable_taken h).2 account)
  unfold State.taken
  apply List.countP_mono_left
  intro row _ hrow
  rw [Bool.and_eq_true] at hrow ⊢
  refine ⟨hrow.1, ?_⟩
  rw [State.live, hrow.2, Bool.true_or]

/-! ## §6. Two runs. -/

/-- One client after the other makes a role of its own. -/
def twoAccounts : List Action :=
  [.make (request 7 "ann" "Ann") (guids 0x0100000000000001 0x0200000000000001),
   .make (request 8 "bob" "Bob") (guids 0x0100000000000002 0x0200000000000002),
   .cache, .cache,
   .reply 0x0200000000000001 true {}, .reply 0x0100000000000002 true {},
   .reply 0x0200000000000002 true {}, .reply 0x0100000000000001 true {}]

theorem twoAccounts_within : ∃ s, (limited files).run start.state twoAccounts = some s ∧
    s.rows.map Row.status = [1, 1] ∧ Within files s.rows := by
  have hrun : ((limited files).run start.state twoAccounts).map (fun s => s.rows.map Row.status) =
      some [1, 1] := by decide +kernel
  obtain ⟨s, hs, hrows⟩ := Option.map_eq_some_iff.mp hrun
  have hroom : (limited files).RunMeets (Room files) start.state twoAccounts := by decide +kernel
  refine ⟨s, hs, hrows, reachable_within files (TransSys.reachableWhen_of_run ?_ hroom hs)⟩
  exact ⟨[], [1], ⟨fun _ => Nat.zero_le _, List.Pairwise.nil⟩, rfl⟩

/-- Two clients of one account. -/
def oneAccount : List Action :=
  [.make (request 7 "ann" "Ann") (guids 0x0100000000000001 0x0200000000000001),
   .make (request 8 "ann" "Bob") (guids 0x0100000000000002 0x0200000000000002),
   .cache, .cache,
   .reply 0x0200000000000001 true {}, .reply 0x0100000000000002 true {},
   .reply 0x0200000000000002 true {}, .reply 0x0100000000000001 true {}]

/-- **Both make a role**: the account has two, and one is the limit. -/
theorem two_active_of_one : ∃ s, (limited files).Reachable s ∧
    s.rows.countP (fun row => row.account = "ann" && row.status = 1) = 2 ∧
    files.maxRoleNumber = 1 ∧ ¬ Within files s.rows := by
  have hrun : ((limited files).run start.state oneAccount).map (fun s =>
      s.rows.countP fun row => row.account = "ann" && row.status = 1) = some 2 := by decide +kernel
  obtain ⟨s, hs, hcount⟩ := Option.map_eq_some_iff.mp hrun
  refine ⟨s, TransSys.reachable_of_run ?_ hs, hcount, rfl, ?_⟩
  · exact ⟨[], [1], ⟨fun _ => Nat.zero_le _, List.Pairwise.nil⟩, rfl⟩
  · intro h
    have hlimit := h.limit "ann"
    rw [hcount] at hlimit
    revert hlimit
    decide

end Steppingstone.Charsys
