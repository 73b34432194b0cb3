/-
  Steppingstone.Charsys.Make — every request for a new role gets one answer.
-/
import Steppingstone.Charsys.Books

namespace Steppingstone.Charsys

open Std (TreeMap)
open Pool (guidType etPlayer etRole)

variable {cfg : Config} {s : State} {cs : List Creation} {c c' : Creation} {guid : UInt64}

/-! ## §1. Every step. -/

/-- What holds at every moment. -/
structure Inv (cfg : Config) (rows : Rows) (l : Log) : Prop where
  books : Books cfg l.state l.creations
  kept : ∀ g ∈ rows.map Row.guid, g ∈ l.state.rows.map Row.guid
  new : ∀ c ∈ l.creations, ¬ rows.Active c.playerGuid
  answered : l.state.sent.map Sent.due = l.due.map some
  oneAnswer : l.requests.Perm (l.due.map (fun d => (d.session, d.packetGuid)) ++
    (l.creations.filter fun c => !c.decided).map Creation.client)
  active : ∀ guid, l.state.rows.Active guid ↔
    rows.Active guid ∨ ∃ c ∈ l.creations, c.made = true ∧ c.playerGuid = guid

variable {rows : Rows} {l : Log}

/-- The invariant is the claimed consistency, and more. -/
theorem Inv.consistent (h : Inv cfg rows l) : Consistent rows l :=
  ⟨h.answered, h.oneAnswer, h.active, fun hcache hasked _ hc => h.books.finished hcache hasked hc⟩

/-- The guids of a creation that starts. -/
theorem started_fresh {p : MakePacket} {db : Outcome} (hfresh : l.Fresh db)
    (hcon : db.insert ≠ .noConnection) {rows' : Rows}
    (hinsert : l.state.rows.insertRoleName p.account p.name db = some (rows', c.playerGuid))
    (hrole : db.roleGuid = some c.roleGuid) :
    c.Typed ∧ c.playerGuid ∉ l.state.rows.map Row.guid ∧
      (∀ c' ∈ l.creations, c'.playerGuid ≠ c.playerGuid) ∧
      ∀ c' ∈ l.creations, c'.roleGuid ≠ c.roleGuid := by
  have hguid : db.playerGuid = some c.playerGuid := by
    obtain ⟨-, hg, -⟩ | ⟨-, hg, -⟩ | ⟨hno, -, -⟩ := insertRoleName_cases hinsert
    · exact hg
    · exact hg
    · exact absurd hno hcon
  obtain ⟨htp, hrow, hp⟩ := hfresh.player _ hguid
  obtain ⟨htr, hr⟩ := hfresh.role _ hrole
  refine ⟨⟨htp, htr⟩, ?_, hp, hr⟩
  intro hin
  obtain ⟨row, hmem, he⟩ := List.mem_map.mp hin
  exact hrow row hmem he

/-- A request keeps it. -/
theorem Inv.make (h : Inv cfg rows l) {p : MakePacket} {db : Outcome}
    (hen : l.enabled (.make p db)) (hmeets : Meets cfg l (.make p db)) :
    Inv cfg rows (l.note cfg (l.state.handleRoleMake cfg p db) (.make p db)) := by
  obtain ⟨hsession, hfresh, hdecided⟩ := hen
  have hmaking := h.books.not_making hdecided
  -- a name that is refused is answered at once; else the creation starts
  by_cases hrej : cfg.checkRoleName p.name = false ∨ l.state.rows.isExistRoleName p.name db = true
  · obtain ⟨hstarts, code, hstep⟩ := handleRoleMake_rejected hmaking hrej
    rw [hstep, Log.note_rejected hstarts]
    refine ⟨?_, h.kept, h.new, ?_, ?_, h.active⟩
    · exact ⟨h.books.typed, h.books.connected, h.books.players, h.books.roles, h.books.info,
        h.books.queue, h.books.known, h.books.queued, h.books.waits, h.books.asked, h.books.awaited⟩
    · show (l.state.sent ++ [_]).map Sent.due = (l.due ++ [_]).map some
      rw [List.map_append, h.answered, List.map_append]
      rfl
    · show (l.requests ++ [_]).Perm ((l.due ++ [_]).map _ ++ _)
      rw [List.map_append, List.append_assoc]
      refine (h.oneAnswer.append_right _).trans ?_
      rw [List.append_assoc]
      exact (List.perm_append_comm).append_left _
  · obtain ⟨hsome, hcon, hknown⟩ : (l.state.starts cfg p db).isSome = true ∧
        db.insert ≠ .noConnection ∧ cfg.KnownJob p := by
      unfold Meets at hmeets
      tauto
    obtain ⟨c, hstarts⟩ := Option.isSome_iff_exists.mp hsome
    obtain ⟨rows', hinsert, hrole, hcs, hcg, hq, hcp, hcr, hstep⟩ :=
      handleRoleMake_starts hmaking hstarts
    obtain ⟨htyped, hnotin, hplayers, hroles⟩ := started_fresh hfresh hcon hinsert hrole
    have hundecided : c.decided = false := by simp [Creation.decided, hcp]
    -- the insert adds a row that is not active, or none
    have hrows : rows' = l.state.rows ∨ rows' = l.state.rows ++
        [{ guid := c.playerGuid, account := p.account, name := p.name, status := 0 }] := by
      obtain ⟨-, -, he⟩ | ⟨-, -, he⟩ | ⟨-, -, he⟩ := insertRoleName_cases hinsert
      · exact .inr he
      · exact .inl he
      · exact .inl he
    have hactive : ∀ g, rows'.Active g ↔ l.state.rows.Active g := by
      intro g
      cases hrows with
      | inl he => rw [he]
      | inr he =>
          rw [he]
          unfold Rows.Active
          simp
    rw [hstep, Log.note_starts hstarts]
    refine ⟨?_, ?_, ?_, h.answered, ?_, ?_⟩
    · exact h.books.start ⟨hq, hcp, hcr⟩ htyped (hcs ▸ hsession) hknown hplayers hroles
    · intro g hg
      show g ∈ rows'.map Row.guid
      cases hrows with
      | inl he =>
          rw [he]
          exact h.kept g hg
      | inr he =>
          rw [he, List.map_append]
          exact List.mem_append_left _ (h.kept g hg)
    · intro x hx
      obtain hx | hx := List.mem_append.mp hx
      · exact h.new x hx
      · obtain rfl := List.mem_singleton.mp hx
        intro hact
        exact hnotin (h.kept _ (Rows.mem_of_active _ hact))
    · show (l.requests ++ [_]).Perm (_ ++ ((l.creations ++ [c]).filter _).map _)
      rw [List.filter_append, List.filter_singleton, hundecided, List.map_append, ← List.append_assoc]
      refine (h.oneAnswer.append_right _).trans (List.Perm.of_eq ?_)
      show _ ++ [(p.session, p.guid)] = _ ++ [(c.session, c.packetGuid)]
      rw [hcs, hcg]
    · intro g
      show rows'.Active g ↔ rows.Active g ∨ ∃ x ∈ l.creations ++ [c], _
      rw [hactive, h.active]
      refine or_congr_right ⟨?_, ?_⟩
      · intro hex
        obtain ⟨x, hx, hrest⟩ := hex
        exact ⟨x, List.mem_append_left _ hx, hrest⟩
      · intro hex
        obtain ⟨x, hx, hmade, hxg⟩ := hex
        obtain hx | hx := List.mem_append.mp hx
        · exact ⟨x, hx, hmade, hxg⟩
        · obtain rfl := List.mem_singleton.mp hx
          rw [Creation.decided_of_made hmade] at hundecided
          cases hundecided

/-- A packet to the cache keeps it. -/
theorem Inv.cache (h : Inv cfg rows l) {s' : State} (hstep : l.state.sendCachePacket cfg = some s') :
    Inv cfg rows (l.note cfg s' .cache) := by
  unfold State.sendCachePacket at hstep
  split at hstep
  · cases hstep
  next guid p rest hcache =>
    obtain ⟨guid', p', heq, hknown⟩ := h.books.known _ (hcache ▸ List.mem_cons_self)
    obtain ⟨rfl, rfl⟩ := CachePacket.make.inj heq
    obtain ⟨c, hc, hq, hcg⟩ := (h.books.queued guid).mp (by rw [hcache]; exact List.mem_cons_self)
    have hundecided : c.decided = false := by
      simp [Creation.decided, (h.books.waits c hc hq).1]
    have hinfo : ({ l.state with toCache := rest } : State).getPlayerInfo guid = some c.info :=
      h.books.getPlayerInfo hc hundecided (by simp [Creation.has, hcg])
    -- the job is known, so both entities are sent to the cache
    have hs : s' = { l.state with
        toCache := rest
        asked := l.state.asked ++ [.newEntity c.roleGuid, .newEntity guid] } := by
      rw [← Option.some.inj hstep, State.cacheRoleMake, hinfo]
      exact if_neg hknown
    rw [Log.note_cache hcache hknown, hs]
    refine ⟨h.books.dequeue hcache hc hcg hq, h.kept, ?_, h.answered, ?_, ?_⟩
    · intro x hx
      obtain ⟨y, hy, rfl⟩ := List.mem_map.mp hx
      rw [Creation.dequeue_playerGuid]
      exact h.new y hy
    · have hfilter : ((l.creations.map (·.dequeue guid)).filter fun c => !c.decided).map
          Creation.client = (l.creations.filter fun c => !c.decided).map Creation.client := by
        rw [List.filter_map, List.map_map]
        simp only [Function.comp_def, Creation.dequeue_decided, Creation.dequeue_client]
      show l.requests.Perm (_ ++ ((l.creations.map _).filter _).map _)
      rw [hfilter]
      exact h.oneAnswer
    · intro g
      rw [h.active]
      refine or_congr_right ⟨?_, ?_⟩
      · intro hex
        obtain ⟨x, hx, hmade, hxg⟩ := hex
        exact ⟨_, List.mem_map_of_mem hx, by simpa using hmade, by simpa using hxg⟩
      · intro hex
        obtain ⟨x, hx, hmade, hxg⟩ := hex
        obtain ⟨y, hy, rfl⟩ := List.mem_map.mp hx
        exact ⟨y, hy, by simpa using hmade, by simpa using hxg⟩
  next guid rest hcache =>
    obtain ⟨guid', p', heq, -⟩ := h.books.known _ (hcache ▸ List.mem_cons_self)
    cases heq

/-- The creation of a guid, and the others. -/
theorem Books.split (h : Books cfg s cs) (hc : c ∈ cs) (hg : c.has guid = true) :
    ∃ pre post, cs = pre ++ c :: post ∧
      (∀ x ∈ pre, x.has guid = false) ∧ ∀ x ∈ post, x.has guid = false := by
  obtain ⟨pre, post, rfl⟩ := List.append_of_mem hc
  have hnodup := List.Nodup.of_map _ h.players
  have hother : ∀ x ∈ pre ++ c :: post, x ≠ c → x.has guid = false := by
    intro x hx hne
    by_contra hxg
    exact hne (h.eq_of_has hx hc (by simpa using hxg) hg)
  rw [List.nodup_middle, List.nodup_cons] at hnodup
  refine ⟨pre, post, rfl, ?_, ?_⟩
  · intro x hx
    apply hother x (List.mem_append_left _ hx)
    intro he
    exact hnodup.1 (he ▸ List.mem_append_left _ hx)
  · intro x hx
    apply hother x (List.mem_append_right _ (List.mem_cons_of_mem _ hx))
    intro he
    exact hnodup.1 (he ▸ List.mem_append_right _ hx)

theorem map_take_eq {pre post : List Creation} {ok : Bool} (hpre : ∀ x ∈ pre, x.has guid = false)
    (hpost : ∀ x ∈ post, x.has guid = false) :
    (pre ++ c :: post).map (·.take guid ok) = pre ++ c.take guid ok :: post := by
  have hid : ∀ xs : List Creation, (∀ x ∈ xs, x.has guid = false) →
      xs.map (·.take guid ok) = xs := by
    intro xs hxs
    rw [List.map_congr_left fun x hx => x.take_of_not_has guid ok (hxs x hx), List.map_id']
  rw [List.map_append, List.map_cons, hid pre hpre, hid post hpost]

/-- What is due when the creation of a guid is decided. -/
theorem dues_eq {pre post : List Creation} (hg : c.has guid = true)
    (hpre : ∀ x ∈ pre, x.has guid = false) (hpost : ∀ x ∈ post, x.has guid = false) :
    dues (pre ++ c :: post) guid = if c.decided then [c.due] else [] := by
  have hnone : ∀ xs : List Creation, (∀ x ∈ xs, x.has guid = false) →
      xs.find? (fun c => c.has guid && c.decided) = none := by
    intro xs hxs
    apply List.find?_eq_none.mpr
    intro x hx
    simp [hxs x hx]
  unfold dues
  rw [List.find?_append, hnone pre hpre, Option.none_or, List.find?_cons, hnone post hpost, hg,
    Bool.true_and]
  cases c.decided <;> rfl

/-- What a reply does to the log, by what it does to the tables. -/
theorem Inv.replied (h : Inv cfg rows l) {normal : Bool} {db : Outcome} {s' : State}
    (hc : c ∈ l.creations) (hg : c.has guid = true) (hundecided : c.decided = false)
    (hbooks : Books cfg s' (l.creations.map (·.take guid normal)))
    (hguids : s'.rows.map Row.guid = l.state.rows.map Row.guid)
    (hactive : ∀ g, s'.rows.Active g ↔
      l.state.rows.Active g ∨ ((c.take guid normal).made = true ∧ c.playerGuid = g))
    (hsent : s'.sent.map Sent.due = l.state.sent.map Sent.due ++
      if (c.take guid normal).decided then [some (c.take guid normal).due] else []) :
    Inv cfg rows (l.note cfg s' (.reply guid normal db)) := by
  obtain ⟨pre, post, hsplit, hpre, hpost⟩ := h.books.split hc hg
  have hcs : l.creations.map (·.take guid normal) = pre ++ c.take guid normal :: post := by
    rw [hsplit]
    exact map_take_eq hpre hpost
  have hg' : (c.take guid normal).has guid = true := by
    simp only [Creation.has, Creation.take_playerGuid, Creation.take_roleGuid] at hg ⊢
    exact hg
  have hmade : c.made = false := by
    by_contra hmade
    rw [Creation.decided_of_made (by simpa using hmade)] at hundecided
    cases hundecided
  have hdues := dues_eq hg' hpre hpost
  have hperm := h.oneAnswer
  have hold := h.active
  show Inv cfg rows { l with
    state := s'
    creations := l.creations.map (·.take guid normal)
    due := l.due ++ dues (l.creations.map (·.take guid normal)) guid }
  refine ⟨hbooks, ?_, ?_, ?_, ?_, ?_⟩
  · intro g hin
    show g ∈ s'.rows.map Row.guid
    rw [hguids]
    exact h.kept g hin
  · intro x hx
    obtain ⟨y, hy, rfl⟩ := List.mem_map.mp hx
    rw [Creation.take_playerGuid]
    exact h.new y hy
  · show s'.sent.map Sent.due = _
    rw [hsent, h.answered, List.map_append, hcs, hdues]
    cases (c.take guid normal).decided <;> rfl
  · show l.requests.Perm ((l.due ++ dues _ guid).map _ ++ ((l.creations.map _).filter _).map _)
    rw [hcs, hdues]
    rw [hsplit] at hperm
    refine hperm.trans ?_
    simp only [List.filter_append, List.filter_cons, List.map_append, hundecided]
    -- the client of the creation moves from those that wait to those that are answered
    cases hdec : (c.take guid normal).decided with
    | false =>
        simp only [Bool.not_false, if_true, List.map_cons, Creation.take_client, Bool.false_eq_true,
          if_false, List.map_nil, List.append_nil]
        exact List.Perm.refl _
    | true =>
        simp only [Bool.not_false, Bool.not_true, if_true, Bool.false_eq_true, if_false,
          List.map_cons, List.map_nil, List.append_assoc]
        refine List.Perm.append_left _ ?_
        refine List.perm_middle.trans (List.Perm.of_eq ?_)
        show c.client :: _ = (c.take guid normal).client :: _
        rw [Creation.take_client]
        rfl
  · intro g
    show s'.rows.Active g ↔ rows.Active g ∨ ∃ x ∈ l.creations.map (·.take guid normal), _
    rw [hactive, hold, or_assoc, hcs, hsplit]
    refine or_congr_right ?_
    simp only [List.mem_append, List.mem_cons]
    constructor
    · intro hor
      cases hor with
      | inl hex =>
          obtain ⟨x, hx, hxmade, hxg⟩ := hex
          obtain hx | rfl | hx := hx
          · exact ⟨x, .inl hx, hxmade, hxg⟩
          · rw [hmade] at hxmade
            cases hxmade
          · exact ⟨x, .inr (.inr hx), hxmade, hxg⟩
      | inr hand =>
          exact ⟨_, .inr (.inl rfl), hand.1, (c.take_playerGuid guid normal).trans hand.2⟩
    · intro hex
      obtain ⟨x, hx, hxmade, hxg⟩ := hex
      obtain hx | rfl | hx := hx
      · exact .inl ⟨x, .inl hx, hxmade, hxg⟩
      · exact .inr ⟨hxmade, (c.take_playerGuid guid normal).symm.trans hxg⟩
      · exact .inl ⟨x, .inr (.inr hx), hxmade, hxg⟩

/-- A second reply that completes well completes the creation. -/
theorem made_of_completesWell {db : Outcome} (hinfo : s.getPlayerInfo guid = some c.info)
    (htyped : c.Typed) (hg : c.has guid = true) (hdec : (c.take guid true).decided = true)
    (h : s.CompletesWell guid db) :
    guid = c.playerGuid ∧ (c.take guid true).made = true ∧ db.update = true ∧
      guid ∈ s.rows.map Row.guid := by
  have hfinish : (c.info.updateState guid true).isFinish = true := by
    rw [← c.info_take guid true htyped hg, Creation.isFinish_info]
    exact hdec
  obtain ⟨hplayer, hrole, hupdate, row, hrow, he⟩ := h c.info hinfo hfinish
  refine ⟨hplayer, ?_, hupdate, he ▸ List.mem_map_of_mem hrow⟩
  have hc : c.role = some true := by
    have hstate : replyState c.role = 1 := hrole
    match hr : c.role with
    | some true => rfl
    | none => rw [hr] at hstate; cases hstate
    | some false => rw [hr] at hstate; cases hstate
  rw [Creation.take, if_pos (show c.playerGuid = guid from hplayer.symm)]
  simp [Creation.made, hc]

/-- A creation with a failed half is not made. -/
theorem not_made_of_failure (hg : c.has guid = true) : (c.take guid false).made = false := by
  by_cases hp : c.playerGuid = guid
  · simp [Creation.take, hp, Creation.made]
  · have hr : c.roleGuid = guid := by simpa [Creation.has, hp] using hg
    simp [Creation.take, hp, hr, Creation.made]

/-- A reply keeps it. -/
theorem Inv.reply (h : Inv cfg rows l) {normal : Bool} {db : Outcome}
    (hen : l.enabled (.reply guid normal db)) (hmeets : Meets cfg l (.reply guid normal db)) :
    Inv cfg rows (l.note cfg
      ({ l.state with asked := l.state.asked.erase (.newEntity guid) }.handleNewEneity cfg guid
        normal db) (.reply guid normal db)) := by
  obtain ⟨c, hc, haw, hg, hundecided⟩ := h.books.of_asked hen
  have htyped := h.books.typed c hc
  have hinfo := h.books.getPlayerInfo hc hundecided hg
  have hinfo' : ({ l.state with asked := l.state.asked.erase (.newEntity guid) } :
      State).getPlayerInfo guid = some c.info := hinfo
  have hupdate := (c.info_take guid normal htyped hg).symm
  have hsession : (c.take guid normal).session ∈ l.state.gateSessions := by
    show (c.take guid normal).client.1 ∈ _
    rw [Creation.take_client]
    exact h.books.connected c hc
  -- the second reply decides, and the first one is only noted
  by_cases hdec : (c.take guid normal).decided = true
  · cases normal with
    | true =>
        obtain ⟨hplayer, hmade, hquery, hrow⟩ :=
          made_of_completesWell hinfo htyped hg hdec (hmeets rfl)
        rw [handleNewEneity_made hinfo' hupdate hmade hquery hsession]
        refine h.replied hc hg hundecided ?_ (Rows.map_guid_setStatus ..) ?_ ?_
        · refine h.books.reply hc haw hg ?_ rfl rfl rfl
          intro g
          show ((l.state.roleInfoMap.insert _ _).erase _)[g]? = _
          rw [Lookup.getElem?_erase, Lookup.getElem?_insert, Creation.take_playerGuid, if_pos hdec]
          split <;> rfl
        · intro g
          show (l.state.rows.setStatus _ 1).Active g ↔ _
          rw [Rows.active_setStatus, Creation.take_playerGuid]
          by_cases hgc : g = c.playerGuid
          · rw [if_pos hgc]
            exact ⟨fun _ => .inr ⟨hmade, hgc.symm⟩, fun _ => ⟨rfl, hplayer ▸ hrow⟩⟩
          · rw [if_neg hgc]
            exact ⟨.inl, fun hor => hor.resolve_right fun hand => hgc hand.2.symm⟩
        · have hverdict : (c.take guid true).due =
              ⟨(c.take guid true).session, (c.take guid true).packetGuid, .made guid⟩ := by
            rw [Creation.due, hmade, Creation.take_playerGuid, ← hplayer]
            rfl
          rw [if_pos hdec, hverdict]
          exact List.map_append
    | false =>
        have hmade := not_made_of_failure hg
        rw [handleNewEneity_failed hinfo' hupdate hdec hmade]
        refine h.replied hc hg hundecided ?_ ?_ ?_ ?_
        · refine h.books.reply hc haw hg ?_ rfl rfl rfl
          intro g
          show ((l.state.roleInfoMap.insert _ _).erase _)[g]? = _
          rw [Lookup.getElem?_erase, Lookup.getElem?_insert, Creation.take_playerGuid, if_pos hdec]
          split <;> rfl
        · show (l.state.rows.deleteRole _ db).map Row.guid = _
          unfold Rows.deleteRole
          split
          · exact Rows.map_guid_setStatus ..
          · rfl
        · -- the row was not active before
          intro g
          show (l.state.rows.deleteRole _ db).Active g ↔ _
          rw [hmade]
          have hbefore : ¬ l.state.rows.Active c.playerGuid := by
            rw [h.active]
            intro hor
            cases hor with
            | inl hact => exact h.new c hc hact
            | inr hex =>
                obtain ⟨x, hx, hxmade, hxg⟩ := hex
                rw [h.books.eq_of_player hx hc hxg] at hxmade
                rw [Creation.decided_of_made hxmade] at hundecided
                cases hundecided
          unfold Rows.deleteRole
          split
          · rw [Rows.active_setStatus, Creation.take_playerGuid]
            by_cases hgc : g = c.playerGuid
            · rw [if_pos hgc, hgc]
              simp [hbefore]
            · rw [if_neg hgc]
              simp
          · simp
        · have hverdict : (c.take guid false).due =
              ⟨(c.take guid false).session, (c.take guid false).packetGuid, .error⟩ := by
            rw [Creation.due, hmade]
            rfl
          rw [if_pos hdec, hverdict]
          exact List.map_append
  · have hdec : (c.take guid normal).decided = false := by simpa using hdec
    rw [handleNewEneity_first hinfo' hupdate hdec]
    refine h.replied hc hg hundecided ?_ rfl ?_ ?_
    · refine h.books.reply hc haw hg ?_ rfl rfl rfl
      intro g
      show (l.state.roleInfoMap.insert _ _)[g]? = _
      rw [Lookup.getElem?_insert, hdec]
      show (if g = (c.take guid normal).playerGuid then _ else _) = _
      rw [Creation.take_playerGuid]
      rfl
    · intro g
      show l.state.rows.Active g ↔ _
      have hmade : (c.take guid normal).made = false := by
        by_contra hmade
        rw [Creation.decided_of_made (by simpa using hmade)] at hdec
        cases hdec
      simp [hmade]
    · rw [hdec]
      exact (List.append_nil _).symm

theorem Inv.init (sessions : List Nat) :
    Inv cfg rows { state := { rows := rows, gateSessions := sessions } } := by
  refine ⟨?_, fun _ hg => hg, ?_, rfl, List.Perm.nil, ?_⟩
  · refine ⟨?_, ?_, List.nodup_nil, List.nodup_nil, ?_, List.nodup_nil, ?_, ?_, ?_, List.nodup_nil, ?_⟩
    · intro c hc
      cases hc
    · intro c hc
      cases hc
    · intro g info
      show (∅ : TreeMap UInt64 RoleInfo)[g]? = some info ↔ _
      simp
    · intro x hx
      cases hx
    · simp
    · intro c hc
      cases hc
    · simp
  · intro c hc
    cases hc
  · simp

/-- One step keeps the invariant. -/
theorem Inv.step (h : Inv cfg rows l) {a : Action} {l' : Log} (hmeets : Meets cfg l a)
    (hstep : (making cfg rows).step l a = some l') : Inv cfg rows l' := by
  simp only [making, Option.ite_none_right_eq_some, Option.map_eq_some_iff] at hstep
  obtain ⟨hen, s', hact, rfl⟩ := hstep
  cases a with
  | make p db =>
      rw [← Option.some.inj hact]
      exact h.make hen hmeets
  | cache => exact h.cache hact
  | reply guid normal db =>
      rw [← Option.some.inj hact]
      exact h.reply hen hmeets

/-- **Every request is answered once, and as the cache answers**: in each state that steps which
    meet the condition lead to. -/
theorem reachable_consistent (cfg : Config) (rows : Rows) {l : Log}
    (h : (making cfg rows).ReachableWhen (Meets cfg) l) : Consistent rows l := by
  refine (h.invariant (I := Inv cfg rows) ?_ fun l a l' hl hm hst => hl.step hm hst).consistent
  intro l hinit
  obtain ⟨sessions, rfl⟩ := hinit
  exact Inv.init sessions

/-! ## §2. Two runs. -/

/-- Every name is good, and every job has the role 1. -/
def files : Config :=
  { checkRoleName := fun _ => true, getRoleId := fun _ _ => 1, hasRoleRes := fun _ => true }

/-- One gate, and nothing made yet. -/
def start : Log := { state := { gateSessions := [1] } }

/-- A request of the gate's session for a role. -/
def request (guid : UInt64) (account name : String) : MakePacket :=
  { session := 1, guid := guid, account := account, name := name, profession := 1, sex := 1 }

/-- What the guid server gives: a player and a role. -/
def guids (playerGuid roleGuid : UInt64) : Outcome :=
  { playerGuid := some playerGuid, roleGuid := some roleGuid }

/-- Two creations at once: one is made, the role of the other fails. -/
def twoRequests : List Action :=
  [.make (request 7 "ann" "Ann") (guids 0x0100000000000001 0x0200000000000001),
   .make (request 8 "bob" "Bob") (guids 0x0100000000000002 0x0200000000000002),
   .cache, .cache,
   .reply 0x0200000000000001 true {}, .reply 0x0100000000000002 true {},
   .reply 0x0200000000000002 false {}, .reply 0x0100000000000001 true {}]

theorem twoRequests_consistent : ∃ l, (making files []).run start twoRequests = some l ∧
    l.due = [⟨1, 8, .error⟩, ⟨1, 7, .made 0x0100000000000001⟩] ∧ Consistent [] l := by
  have hrun : ((making files []).run start twoRequests).map Log.due =
      some [⟨1, 8, .error⟩, ⟨1, 7, .made 0x0100000000000001⟩] := by decide +kernel
  obtain ⟨l, hl, hdue⟩ := Option.map_eq_some_iff.mp hrun
  have hmeets : (making files []).RunMeets (Meets files) start twoRequests := by decide +kernel
  exact ⟨l, hl, hdue, reachable_consistent files []
    (TransSys.reachableWhen_of_run ⟨[1], rfl⟩ hmeets hl)⟩

/-- The player cannot be created, and then the role is. -/
def lostRequest : List Action :=
  [.make (request 7 "ann" "Ann") (guids 0x0100000000000001 0x0200000000000001), .cache,
   .reply 0x0100000000000001 false {}, .reply 0x0200000000000001 true {}]

/-- **The client is never answered** when the second reply is a success after a failure. -/
theorem failure_then_success_silent : ∃ l, (making files []).Reachable l ∧
    l.requests = [(1, 7)] ∧ l.state.toCache = [] ∧ l.state.asked = [] ∧ l.state.sent = [] ∧
    ¬ Consistent [] l := by
  have hrun : ((making files []).run start lostRequest).map (fun l =>
      (l.requests, l.due, l.state.toCache.isEmpty && l.state.asked.isEmpty && l.state.sent.isEmpty)) =
      some ([(1, 7)], [⟨1, 7, .error⟩], true) := by decide +kernel
  obtain ⟨l, hl, he⟩ := Option.map_eq_some_iff.mp hrun
  simp only [Prod.mk.injEq, Bool.and_eq_true, List.isEmpty_iff] at he
  obtain ⟨hrequests, hdue, ⟨hcache, hasked⟩, hsent⟩ := he
  refine ⟨l, TransSys.reachable_of_run ⟨[1], rfl⟩ hl, hrequests, hcache, hasked, hsent, ?_⟩
  intro h
  have hanswered := h.answered
  rw [hsent, hdue] at hanswered
  cases hanswered

end Steppingstone.Charsys
