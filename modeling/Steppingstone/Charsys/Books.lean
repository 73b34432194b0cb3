/-
  Steppingstone.Charsys.Books — the tables of the character system hold what its creations say.

  A creation that is not decided has its record, under the guid of its player; what waits for the
  cache and what the cache was asked are the guids that are still missing.
-/
import Steppingstone.Charsys.Log
import Steppingstone.Lib.Lookup

namespace Steppingstone.Charsys

open Pool (guidType etPlayer etRole)

/-! ## §1. The tables and the creations. -/

/-- The tables hold what the creations say. -/
structure Books (cfg : Config) (s : State) (cs : List Creation) : Prop where
  typed : ∀ c ∈ cs, c.Typed
  connected : ∀ c ∈ cs, c.session ∈ s.gateSessions
  players : (cs.map Creation.playerGuid).Nodup
  roles : (cs.map Creation.roleGuid).Nodup
  info : ∀ g info, s.roleInfoMap[g]? = some info ↔
    ∃ c ∈ cs, c.decided = false ∧ c.playerGuid = g ∧ c.info = info
  queue : (s.toCache.map CachePacket.guid).Nodup
  known : ∀ x ∈ s.toCache, ∃ guid p, x = .make guid p ∧ cfg.KnownJob p
  queued : ∀ g, g ∈ s.toCache.map CachePacket.guid ↔
    ∃ c ∈ cs, c.queued = true ∧ c.playerGuid = g
  waits : ∀ c ∈ cs, c.queued = true → c.player = none ∧ c.role = none
  asked : s.asked.Nodup
  awaited : ∀ q, q ∈ s.asked ↔ ∃ c ∈ cs, c.Awaits q

variable {cfg : Config} {s : State} {cs : List Creation} {c c' : Creation} {guid : UInt64}

theorem Books.eq_of_player (h : Books cfg s cs) (hc : c ∈ cs) (hc' : c' ∈ cs)
    (he : c.playerGuid = c'.playerGuid) : c = c' :=
  List.inj_on_of_nodup_map h.players hc hc' he

/-- A guid tells the creation. -/
theorem Books.eq_of_has (h : Books cfg s cs) (hc : c ∈ cs) (hc' : c' ∈ cs)
    (hg : c.has guid = true) (hg' : c'.has guid = true) : c = c' := by
  have hcases : c.playerGuid = guid ∨ c.roleGuid = guid := by simpa [Creation.has] using hg
  have hcases' : c'.playerGuid = guid ∨ c'.roleGuid = guid := by simpa [Creation.has] using hg'
  cases hcases with
  | inl hp =>
      cases hcases' with
      | inl hp' => exact h.eq_of_player hc hc' (hp.trans hp'.symm)
      | inr hr' => exact absurd (hp.trans hr'.symm) ((h.typed c hc).ne (h.typed c' hc'))
  | inr hr =>
      cases hcases' with
      | inl hp' => exact absurd (hp'.trans hr.symm) ((h.typed c' hc').ne (h.typed c hc))
      | inr hr' => exact List.inj_on_of_nodup_map h.roles hc hc' (hr.trans hr'.symm)

/-- Who has no creation in progress is not making a role. -/
theorem Books.not_making (h : Books cfg s cs) {packetGuid : UInt64}
    (hp : ∀ c ∈ cs, c.packetGuid = packetGuid → c.decided = true) :
    s.isMakingRole packetGuid = false := by
  apply List.any_eq_false.mpr
  intro e he
  obtain ⟨c, hc, hwait, -, hinfo⟩ := (h.info e.1 e.2).mp ((Lookup.mem_toList _ e).mp he)
  intro hguid
  have hdecided : c.decided = true := by
    apply hp c hc
    rw [← of_decide_eq_true hguid, ← hinfo]
    rfl
  rw [hdecided] at hwait
  cases hwait

/-- Both guids of a creation in progress lead to its record. -/
theorem Books.getPlayerInfo (h : Books cfg s cs) (hc : c ∈ cs) (hwait : c.decided = false)
    (hg : c.has guid = true) : s.getPlayerInfo guid = some c.info := by
  have hfound : s.roleInfoMap[c.playerGuid]? = some c.info :=
    (h.info c.playerGuid c.info).mpr ⟨c, hc, hwait, rfl, rfl⟩
  unfold State.getPlayerInfo
  by_cases hp : c.playerGuid = guid
  · rw [← hp, if_pos (h.typed c hc).player]
    exact hfound
  · have hr : c.roleGuid = guid := by simpa [Creation.has, hp] using hg
    have hrole : guidType guid = etRole := hr ▸ (h.typed c hc).role
    rw [if_neg (by rw [hrole]; decide), if_pos hrole]
    -- the only entry with the role is that of the creation
    cases hfind : s.roleInfoMap.toList.find? fun e => decide (e.2.roleGuid = guid) with
    | none =>
        have hnone := List.find?_eq_none.mp hfind (c.playerGuid, c.info)
          ((Lookup.mem_toList _ _).mpr hfound)
        exact absurd (decide_eq_true hr) hnone
    | some e =>
        obtain ⟨c', hc', -, -, hinfo⟩ :=
          (h.info e.1 e.2).mp ((Lookup.mem_toList _ e).mp (List.mem_of_find?_eq_some hfind))
        have hr' : c'.roleGuid = guid := by
          have he : e.2.roleGuid = guid := of_decide_eq_true
            (List.find?_some (p := fun (e : UInt64 × RoleInfo) => decide (e.2.roleGuid = guid)) hfind)
          rw [← he, ← hinfo]
          rfl
        have hcc : c' = c := List.inj_on_of_nodup_map h.roles hc' hc (hr'.trans hr.symm)
        rw [← hcc, hinfo]
        rfl

/-- The creation that a reply is for. -/
theorem Books.of_asked (h : Books cfg s cs) (hq : .newEntity guid ∈ s.asked) :
    ∃ c ∈ cs, c.Awaits (.newEntity guid) ∧ c.has guid = true ∧ c.decided = false := by
  obtain ⟨c, hc, haw⟩ := (h.awaited _).mp hq
  refine ⟨c, hc, haw, haw.has, ?_⟩
  cases haw.2 with
  | inl hp => simp [Creation.decided, hp.2]
  | inr hr => simp [Creation.decided, hr.2]

/-- Nothing under way: nothing in progress. -/
theorem Books.finished (h : Books cfg s cs) (hcache : s.toCache = []) (hasked : s.asked = [])
    (hc : c ∈ cs) : c.decided = true := by
  have hq : c.queued = false := by
    by_contra hq
    have hin := (h.queued c.playerGuid).mpr ⟨c, hc, by simpa using hq, rfl⟩
    rw [hcache] at hin
    cases hin
  have hnone : ∀ q, ¬ c.Awaits q := by
    intro q haw
    have hin := (h.awaited q).mpr ⟨c, hc, haw⟩
    rw [hasked] at hin
    cases hin
  have hplayer : c.player ≠ none := fun he => hnone _ ⟨hq, .inl ⟨rfl, he⟩⟩
  have hrole : c.role ≠ none := fun he => hnone _ ⟨hq, .inr ⟨rfl, he⟩⟩
  rw [Creation.decided, Option.isSome_iff_ne_none.mpr hplayer,
    Option.isSome_iff_ne_none.mpr hrole]
  rfl

/-! ## §2. How they stay together. -/

theorem nodup_map_snoc {α β : Type} {f : α → β} {xs : List α} {a : α} (h : (xs.map f).Nodup)
    (hne : ∀ x ∈ xs, f x ≠ f a) : ((xs ++ [a]).map f).Nodup := by
  rw [List.map_append, List.map_singleton, List.nodup_append_comm]
  refine List.nodup_cons.mpr ⟨?_, h⟩
  intro hin
  obtain ⟨x, hx, he⟩ := List.mem_map.mp hin
  exact hne x hx he

/-- A creation starts. -/
theorem Books.start (h : Books cfg s cs) {p : MakePacket} {rows : Rows}
    (hnew : c.queued = true ∧ c.player = none ∧ c.role = none) (htyped : c.Typed)
    (hsession : c.session ∈ s.gateSessions) (hknown : cfg.KnownJob p)
    (hplayer : ∀ c' ∈ cs, c'.playerGuid ≠ c.playerGuid)
    (hrole : ∀ c' ∈ cs, c'.roleGuid ≠ c.roleGuid) :
    Books cfg { s with
      rows := rows
      roleInfoMap := s.roleInfoMap.insert c.playerGuid c.info
      toCache := s.toCache ++ [.make c.playerGuid p] } (cs ++ [c]) := by
  have hmem : ∀ {x}, x ∈ cs ++ [c] ↔ x ∈ cs ∨ x = c := by
    intro x
    rw [List.mem_append, List.mem_singleton]
  -- nothing is asked of the cache for a creation that is in the queue
  have hnowait : ∀ q, ¬ c.Awaits q := by
    intro q haw
    have hq := haw.1
    rw [hnew.1] at hq
    cases hq
  refine ⟨?_, ?_, ?_, ?_, ?_, ?_, ?_, ?_, ?_, h.asked, ?_⟩
  · intro x hx
    obtain hx | rfl := hmem.mp hx
    · exact h.typed x hx
    · exact htyped
  · intro x hx
    obtain hx | rfl := hmem.mp hx
    · exact h.connected x hx
    · exact hsession
  · exact nodup_map_snoc h.players hplayer
  · exact nodup_map_snoc h.roles hrole
  -- the new record is that of the new creation, and the others are as before
  · intro g info
    show (s.roleInfoMap.insert c.playerGuid c.info)[g]? = some info ↔ _
    rw [Lookup.getElem?_insert]
    by_cases hg : g = c.playerGuid
    · rw [if_pos hg]
      constructor
      · intro he
        refine ⟨c, hmem.mpr (.inr rfl), ?_, hg.symm, Option.some.inj he⟩
        simp [Creation.decided, hnew.2.1]
      · intro hex
        obtain ⟨x, hx, -, hxg, hinfo⟩ := hex
        obtain hx | rfl := hmem.mp hx
        · exact absurd (hxg.trans hg) (hplayer x hx)
        · exact congrArg some hinfo
    · rw [if_neg hg, h.info]
      constructor
      · intro hex
        obtain ⟨x, hx, hrest⟩ := hex
        exact ⟨x, hmem.mpr (.inl hx), hrest⟩
      · intro hex
        obtain ⟨x, hx, hdec, hxg, hinfo⟩ := hex
        obtain hx | rfl := hmem.mp hx
        · exact ⟨x, hx, hdec, hxg, hinfo⟩
        · exact absurd hxg.symm hg
  · refine nodup_map_snoc h.queue ?_
    intro packet hin he
    obtain ⟨x, hx, -, hxg⟩ := (h.queued packet.guid).mp (List.mem_map_of_mem hin)
    exact hplayer x hx (hxg.trans he)
  · intro x hx
    obtain hx | hx := List.mem_append.mp hx
    · exact h.known x hx
    · exact ⟨c.playerGuid, p, List.mem_singleton.mp hx, hknown⟩
  · intro g
    show g ∈ (s.toCache ++ [CachePacket.make c.playerGuid p]).map CachePacket.guid ↔ _
    rw [List.map_append, List.map_singleton, List.mem_append, List.mem_singleton, h.queued]
    constructor
    · intro hor
      cases hor with
      | inl hex =>
          obtain ⟨x, hx, hrest⟩ := hex
          exact ⟨x, hmem.mpr (.inl hx), hrest⟩
      | inr he => exact ⟨c, hmem.mpr (.inr rfl), hnew.1, he.symm⟩
    · intro hex
      obtain ⟨x, hx, hq, hxg⟩ := hex
      obtain hx | rfl := hmem.mp hx
      · exact .inl ⟨x, hx, hq, hxg⟩
      · exact .inr hxg.symm
  · intro x hx hq
    obtain hx | rfl := hmem.mp hx
    · exact h.waits x hx hq
    · exact hnew.2
  · intro q
    show q ∈ s.asked ↔ _
    rw [h.awaited]
    constructor
    · intro hex
      obtain ⟨x, hx, haw⟩ := hex
      exact ⟨x, hmem.mpr (.inl hx), haw⟩
    · intro hex
      obtain ⟨x, hx, haw⟩ := hex
      obtain hx | rfl := hmem.mp hx
      · exact ⟨x, hx, haw⟩
      · exact absurd haw (hnowait q)

/-- The cache has answered: the record is changed, and it goes when both answers are there. -/
theorem Books.reply (h : Books cfg s cs) {ok : Bool} {s' : State}
    (hc : c ∈ cs) (haw : c.Awaits (.newEntity guid)) (hg : c.has guid = true)
    (hmap : ∀ g, s'.roleInfoMap[g]? = if g = c.playerGuid then
      if (c.take guid ok).decided then none else some (c.take guid ok).info else s.roleInfoMap[g]?)
    (hcache : s'.toCache = s.toCache) (hasked : s'.asked = s.asked.erase (.newEntity guid))
    (hsessions : s'.gateSessions = s.gateSessions) :
    Books cfg s' (cs.map (·.take guid ok)) := by
  have hother : ∀ x ∈ cs, x.playerGuid ≠ c.playerGuid → x.take guid ok = x := by
    intro x hx hne
    apply Creation.take_of_not_has
    by_contra hxg
    exact hne (congrArg _ (h.eq_of_has hx hc (by simpa using hxg) hg))
  refine ⟨?_, ?_, ?_, ?_, ?_, ?_, ?_, ?_, ?_, ?_, ?_⟩
  · intro x hx
    obtain ⟨y, hy, rfl⟩ := List.mem_map.mp hx
    exact ⟨by rw [Creation.take_playerGuid]; exact (h.typed y hy).player,
      by rw [Creation.take_roleGuid]; exact (h.typed y hy).role⟩
  · intro x hx
    obtain ⟨y, hy, rfl⟩ := List.mem_map.mp hx
    rw [hsessions]
    show (y.take guid ok).client.1 ∈ _
    rw [Creation.take_client]
    exact h.connected y hy
  · rw [List.map_map, show Creation.playerGuid ∘ (·.take guid ok) = Creation.playerGuid from
      funext fun x => x.take_playerGuid guid ok]
    exact h.players
  · rw [List.map_map, show Creation.roleGuid ∘ (·.take guid ok) = Creation.roleGuid from
      funext fun x => x.take_roleGuid guid ok]
    exact h.roles
  · intro g info
    rw [hmap]
    by_cases hgc : g = c.playerGuid
    · rw [if_pos hgc]
      constructor
      · intro he
        by_cases hdec : (c.take guid ok).decided = true
        · rw [if_pos hdec] at he
          cases he
        · rw [if_neg hdec] at he
          exact ⟨_, List.mem_map_of_mem hc, by simpa using hdec,
            (c.take_playerGuid guid ok).trans hgc.symm, Option.some.inj he⟩
      · intro hex
        obtain ⟨x, hx, hdec, hxg, hinfo⟩ := hex
        obtain ⟨y, hy, rfl⟩ := List.mem_map.mp hx
        rw [Creation.take_playerGuid] at hxg
        obtain rfl := h.eq_of_player hy hc (hxg.trans hgc)
        rw [if_neg (by rw [hdec]; decide), hinfo]
    · rw [if_neg hgc, h.info]
      constructor
      · intro hex
        obtain ⟨x, hx, hdec, hxg, hinfo⟩ := hex
        have htake := hother x hx (by rw [hxg]; exact hgc)
        exact ⟨x, List.mem_map.mpr ⟨x, hx, htake⟩, hdec, hxg, hinfo⟩
      · intro hex
        obtain ⟨x, hx, hdec, hxg, hinfo⟩ := hex
        obtain ⟨y, hy, rfl⟩ := List.mem_map.mp hx
        rw [Creation.take_playerGuid] at hxg
        have htake := hother y hy (by rw [hxg]; exact hgc)
        rw [htake] at hdec hinfo
        exact ⟨y, hy, hdec, hxg, hinfo⟩
  · rw [hcache]
    exact h.queue
  · rw [hcache]
    exact h.known
  · intro g
    rw [hcache, h.queued]
    constructor
    · intro hex
      obtain ⟨x, hx, hq, hxg⟩ := hex
      exact ⟨_, List.mem_map_of_mem hx, (x.take_queued guid ok).trans hq,
        (x.take_playerGuid guid ok).trans hxg⟩
    · intro hex
      obtain ⟨x, hx, hq, hxg⟩ := hex
      obtain ⟨y, hy, rfl⟩ := List.mem_map.mp hx
      exact ⟨y, hy, (y.take_queued guid ok).symm.trans hq, (y.take_playerGuid guid ok).symm.trans hxg⟩
  · intro x hx hq
    obtain ⟨y, hy, rfl⟩ := List.mem_map.mp hx
    rw [Creation.take_queued] at hq
    -- a creation in the queue is not the one that is answered
    have hne : y.playerGuid ≠ c.playerGuid := by
      intro he
      obtain rfl := h.eq_of_player hy hc he
      rw [haw.1] at hq
      cases hq
    rw [hother y hy hne]
    exact h.waits y hy hq
  · rw [hasked]
    exact h.asked.erase _
  · intro q
    rw [hasked, h.asked.mem_erase_iff, h.awaited]
    constructor
    · intro hand
      obtain ⟨hne, x, hx, hxaw⟩ := hand
      exact ⟨_, List.mem_map_of_mem hx, (x.awaits_take guid ok (h.typed x hx) q).mpr ⟨hne, hxaw⟩⟩
    · intro hex
      obtain ⟨x, hx, hxaw⟩ := hex
      obtain ⟨y, hy, rfl⟩ := List.mem_map.mp hx
      obtain ⟨hne, hyaw⟩ := (y.awaits_take guid ok (h.typed y hy) q).mp hxaw
      exact ⟨hne, y, hy, hyaw⟩

/-- The cache is asked for the two entities of the next creation. -/
theorem Books.dequeue (h : Books cfg s cs) {p : MakePacket} {rest : List CachePacket}
    (hcache : s.toCache = .make guid p :: rest) (hc : c ∈ cs) (hg : c.playerGuid = guid)
    (hq : c.queued = true) :
    Books cfg { s with
      toCache := rest
      asked := s.asked ++ [.newEntity c.roleGuid, .newEntity guid] }
      (cs.map (·.dequeue guid)) := by
  have hqueue := h.queue
  rw [hcache, List.map_cons, List.nodup_cons] at hqueue
  have hother : ∀ x ∈ cs, x ≠ c → x.playerGuid ≠ guid := by
    intro x hx hne he
    exact hne (h.eq_of_player hx hc (he.trans hg.symm))
  -- nothing has been asked for the creation that leaves the queue
  have hnew : ∀ g, c.has g = true → .newEntity g ∉ s.asked := by
    intro g hcg hin
    obtain ⟨x, hx, haw⟩ := (h.awaited _).mp hin
    have hxc : x = c := h.eq_of_has hx hc haw.has hcg
    have hqueued := haw.1
    rw [hxc, hq] at hqueued
    cases hqueued
  have hrole : c.has c.roleGuid = true := by simp [Creation.has]
  have hplayer : c.has guid = true := by simp [Creation.has, hg]
  obtain ⟨hcp, hcr⟩ := h.waits c hc hq
  refine ⟨?_, ?_, ?_, ?_, ?_, ?_, ?_, ?_, ?_, ?_, ?_⟩
  · intro x hx
    obtain ⟨y, hy, rfl⟩ := List.mem_map.mp hx
    exact ⟨by rw [Creation.dequeue_playerGuid]; exact (h.typed y hy).player,
      by rw [Creation.dequeue_roleGuid]; exact (h.typed y hy).role⟩
  · intro x hx
    obtain ⟨y, hy, rfl⟩ := List.mem_map.mp hx
    show (y.dequeue guid).client.1 ∈ _
    rw [Creation.dequeue_client]
    exact h.connected y hy
  · rw [List.map_map, show Creation.playerGuid ∘ (·.dequeue guid) = Creation.playerGuid from
      funext fun x => x.dequeue_playerGuid guid]
    exact h.players
  · rw [List.map_map, show Creation.roleGuid ∘ (·.dequeue guid) = Creation.roleGuid from
      funext fun x => x.dequeue_roleGuid guid]
    exact h.roles
  · intro g info
    show s.roleInfoMap[g]? = some info ↔ _
    rw [h.info]
    constructor
    · intro hex
      obtain ⟨x, hx, hdec, hxg, hinfo⟩ := hex
      exact ⟨_, List.mem_map_of_mem hx, by simpa using hdec, by simpa using hxg, by simpa using hinfo⟩
    · intro hex
      obtain ⟨x, hx, hdec, hxg, hinfo⟩ := hex
      obtain ⟨y, hy, rfl⟩ := List.mem_map.mp hx
      exact ⟨y, hy, by simpa using hdec, by simpa using hxg, by simpa using hinfo⟩
  · exact hqueue.2
  · intro x hx
    exact h.known x (hcache ▸ List.mem_cons_of_mem _ hx)
  · intro g
    show g ∈ rest.map CachePacket.guid ↔ _
    have hin := h.queued g
    rw [hcache, List.map_cons, List.mem_cons] at hin
    constructor
    · intro hg'
      obtain ⟨x, hx, hxq, hxg⟩ := hin.mp (.inr hg')
      have hne : g ≠ guid := fun he => hqueue.1 (he ▸ hg')
      exact ⟨_, List.mem_map_of_mem hx, (x.dequeue_queued guid).mpr ⟨hxg ▸ hne, hxq⟩, by simpa using hxg⟩
    · intro hex
      obtain ⟨x, hx, hxq, hxg⟩ := hex
      obtain ⟨y, hy, rfl⟩ := List.mem_map.mp hx
      rw [Creation.dequeue_queued] at hxq
      rw [Creation.dequeue_playerGuid] at hxg
      cases hin.mpr ⟨y, hy, hxq.2, hxg⟩ with
      | inl he => exact absurd (hxg.trans he) hxq.1
      | inr hin => exact hin
  · intro x hx hxq
    obtain ⟨y, hy, rfl⟩ := List.mem_map.mp hx
    obtain ⟨hne, hyq⟩ := (y.dequeue_queued guid).mp hxq
    rw [y.dequeue_of_ne guid hne]
    exact h.waits y hy hyq
  -- the two new requests differ from each other and from all others
  · show (s.asked ++ [CacheRequest.newEntity c.roleGuid, .newEntity guid]).Nodup
    have hne : c.roleGuid ≠ guid := fun he => (h.typed c hc).ne (h.typed c hc) (hg.trans he.symm)
    refine List.nodup_append.mpr ⟨h.asked, by simpa using hne, ?_⟩
    intro q hqa q' hq' he
    subst he
    simp only [List.mem_cons, List.not_mem_nil, or_false] at hq'
    cases hq' with
    | inl he => exact hnew _ hrole (he ▸ hqa)
    | inr he => exact hnew _ hplayer (he ▸ hqa)
  · intro q
    show q ∈ s.asked ++ [CacheRequest.newEntity c.roleGuid, .newEntity guid] ↔ _
    rw [List.mem_append, h.awaited]
    have hcd : c.dequeue guid = { c with queued := false } := if_pos hg
    constructor
    · intro hor
      cases hor with
      | inl hex =>
          obtain ⟨x, hx, haw⟩ := hex
          refine ⟨x, List.mem_map.mpr ⟨x, hx, ?_⟩, haw⟩
          apply Creation.dequeue_of_ne
          apply hother x hx
          intro he
          have hxq := haw.1
          rw [he, hq] at hxq
          cases hxq
      | inr hin =>
          simp only [List.mem_cons, List.not_mem_nil, or_false] at hin
          refine ⟨_, List.mem_map_of_mem hc, ?_⟩
          rw [hcd]
          refine ⟨rfl, ?_⟩
          cases hin with
          | inl he => exact .inr ⟨he, hcr⟩
          | inr he => exact .inl ⟨hg ▸ he, hcp⟩
    · intro hex
      obtain ⟨x, hx, haw⟩ := hex
      obtain ⟨y, hy, rfl⟩ := List.mem_map.mp hx
      by_cases hyc : y = c
      · rw [hyc, hcd] at haw
        simp only [List.mem_cons, List.not_mem_nil, or_false]
        cases haw.2 with
        | inl hp => exact .inr (.inr (hg ▸ hp.1))
        | inr hr => exact .inr (.inl hr.1)
      · rw [y.dequeue_of_ne guid (hother y hy hyc)] at haw
        exact .inl ⟨y, hy, haw⟩

/-! ## §3. Rows. -/

section rows

variable (rows : Rows) (g x : UInt64)

@[simp] theorem Rows.map_guid_setStatus (status : Nat) :
    (rows.setStatus g status).map Row.guid = rows.map Row.guid := by
  rw [Rows.setStatus, List.map_map]
  apply List.map_congr_left
  intro row _
  show Row.guid (if row.guid = g then _ else row) = row.guid
  split <;> rfl

/-- Setting the status of a guid decides about it, and about no other. -/
theorem Rows.active_setStatus (status : Nat) :
    (rows.setStatus g status).Active x ↔
      if x = g then status = 1 ∧ g ∈ rows.map Row.guid else rows.Active x := by
  unfold Rows.Active Rows.setStatus
  constructor
  · intro h
    obtain ⟨row', hrow', hguid, hstatus⟩ := h
    obtain ⟨row, hrow, rfl⟩ := List.mem_map.mp hrow'
    by_cases hg : row.guid = g
    · rw [if_pos hg] at hguid hstatus
      have hx : x = g := hguid.symm.trans hg
      rw [if_pos hx]
      exact ⟨hstatus, hg ▸ List.mem_map_of_mem hrow⟩
    · rw [if_neg hg] at hguid hstatus
      rw [if_neg (by rw [← hguid]; exact hg)]
      exact ⟨row, hrow, hguid, hstatus⟩
  · intro h
    by_cases hx : x = g
    · rw [if_pos hx] at h
      obtain ⟨row, hrow, hg⟩ := List.mem_map.mp h.2
      refine ⟨_, List.mem_map_of_mem hrow, ?_⟩
      rw [if_pos hg]
      exact ⟨hg.trans hx.symm, h.1⟩
    · rw [if_neg hx] at h
      obtain ⟨row, hrow, hguid, hstatus⟩ := h
      refine ⟨_, List.mem_map_of_mem hrow, ?_⟩
      rw [if_neg (by rw [hguid]; exact hx)]
      exact ⟨hguid, hstatus⟩

theorem Rows.mem_of_active {rows : Rows} (h : rows.Active g) : g ∈ rows.map Row.guid := by
  obtain ⟨row, hrow, hguid, -⟩ := h
  exact hguid ▸ List.mem_map_of_mem hrow

end rows

/-- A new row, a row that is missing, or no guid. -/
theorem insertRoleName_cases {rows rows' : Rows} {account name : String} {db : Outcome}
    (h : rows.insertRoleName account name db = some (rows', guid)) :
    (db.insert = .inserted ∧ db.playerGuid = some guid ∧
      rows' = rows ++ [{ guid, account, name, status := 0 }]) ∨
    (db.insert = .raised ∧ db.playerGuid = some guid ∧ rows' = rows) ∨
    (db.insert = .noConnection ∧ guid = 0 ∧ rows' = rows) := by
  unfold Rows.insertRoleName at h
  split at h
  next hcon =>
      obtain ⟨hrows, hguid⟩ := Prod.mk.inj (Option.some.inj h)
      exact .inr (.inr ⟨hcon, hguid.symm, hrows.symm⟩)
  next => cases h
  next g hinsert hg =>
      obtain ⟨hrows, rfl⟩ := Prod.mk.inj (Option.some.inj h)
      exact .inl ⟨hinsert, hg, hrows.symm⟩
  next => cases h
  next g hraised hg =>
      obtain ⟨hrows, rfl⟩ := Prod.mk.inj (Option.some.inj h)
      exact .inr (.inl ⟨hraised, hg, hrows.symm⟩)

/-! ## §4. The handlers in each case. -/

/-- A request that is rejected for its name. -/
theorem handleRoleMake_rejected {p : MakePacket} {db : Outcome}
    (hmaking : s.isMakingRole p.guid = false)
    (h : cfg.checkRoleName p.name = false ∨ s.rows.isExistRoleName p.name db = true) :
    s.starts cfg p db = none ∧
      ∃ code, s.handleRoleMake cfg p db = s.sendClientErrorInfo p.session p.guid code := by
  constructor
  · rw [State.starts, if_pos]
    cases h with
    | inl h => simp [h]
    | inr h => simp [h]
  · unfold State.handleRoleMake
    rw [if_neg (by rw [hmaking]; decide)]
    by_cases hname : cfg.checkRoleName p.name = true
    · have hexist : s.rows.isExistRoleName p.name db = true := by simpa [hname] using h
      rw [if_neg (by simp [hname]), if_pos hexist]
      exact ⟨16, rfl⟩
    · rw [if_pos (by simpa using hname)]
      exact ⟨17, rfl⟩

/-- A request that starts a creation. -/
theorem handleRoleMake_starts {p : MakePacket} {db : Outcome}
    (hmaking : s.isMakingRole p.guid = false) (h : s.starts cfg p db = some c) :
    ∃ rows, s.rows.insertRoleName p.account p.name db = some (rows, c.playerGuid) ∧
      db.roleGuid = some c.roleGuid ∧ c.session = p.session ∧ c.packetGuid = p.guid ∧
      c.queued = true ∧ c.player = none ∧ c.role = none ∧
      s.handleRoleMake cfg p db = { s with
        rows := rows
        roleInfoMap := s.roleInfoMap.insert c.playerGuid c.info
        toCache := s.toCache ++ [.make c.playerGuid p] } := by
  unfold State.starts at h
  split at h
  · cases h
  next hname =>
    rw [Bool.or_eq_true, not_or] at hname
    split at h
    next number rows playerGuid roleGuid hnumber hinsert hroleGuid =>
        split at h
        next hlt =>
            obtain rfl := Option.some.inj h
            refine ⟨rows, hinsert, hroleGuid, rfl, rfl, rfl, rfl, rfl, ?_⟩
            unfold State.handleRoleMake
            rw [if_neg (by rw [hmaking]; decide), if_neg hname.1, if_neg hname.2, hnumber]
            simp only [hinsert, hroleGuid, if_pos hlt]
            rfl
        next => cases h
    next => cases h

theorem Creation.decided_of_made (h : c.made = true) : c.decided = true := by
  obtain ⟨hplayer, hrole⟩ : c.player = some true ∧ c.role = some true := by
    simpa [Creation.made] using h
  rw [Creation.decided, hplayer, hrole]
  rfl

section reply

variable {info : RoleInfo} {normal : Bool} {db : Outcome}

/-- The first reply is put down. -/
theorem handleNewEneity_first (hinfo : s.getPlayerInfo guid = some info)
    (hc : info.updateState guid normal = c.info) (hdec : c.decided = false) :
    s.handleNewEneity cfg guid normal db = s.setRoleInfo c.info := by
  have hmade : c.made = false := by
    by_contra hmade
    rw [Creation.decided_of_made (by simpa using hmade)] at hdec
    cases hdec
  unfold State.handleNewEneity
  simp only [hinfo, hc, Creation.isSuccess_info, Creation.isFailed_info, Creation.isFinish_info, hdec,
    hmade]
  cases normal <;> rfl

/-- Both entities are there. -/
theorem handleNewEneity_made (hinfo : s.getPlayerInfo guid = some info)
    (hc : info.updateState guid true = c.info) (hmade : c.made = true) (hupdate : db.update = true)
    (hsession : c.session ∈ s.gateSessions) :
    s.handleNewEneity cfg guid true db = { s with
      rows := s.rows.setStatus c.playerGuid 1
      roleInfoMap := (s.roleInfoMap.insert c.playerGuid c.info).erase c.playerGuid
      sent := s.sent ++ [⟨c.session, c.packetGuid, .playerMake guid cfg.mapId cfg.lineId⟩] } := by
  have hexist : ((s.setRoleInfo c.info).existGateSession c.session) = true :=
    decide_eq_true hsession
  unfold State.handleNewEneity
  simp only [hinfo, hc, Creation.isSuccess_info, Creation.isFinish_info, hmade,
    Creation.decided_of_made hmade, if_true, Rows.updateRoleStatus, hupdate]
  rw [if_pos (by exact hexist)]
  rfl

/-- The second reply is a failure, or the second after one. -/
theorem handleNewEneity_failed (hinfo : s.getPlayerInfo guid = some info)
    (hc : info.updateState guid false = c.info) (hdec : c.decided = true) (hmade : c.made = false) :
    s.handleNewEneity cfg guid false db = { s with
      rows := s.rows.deleteRole c.playerGuid db
      roleInfoMap := (s.roleInfoMap.insert c.playerGuid c.info).erase c.playerGuid
      sent := s.sent ++ [⟨c.session, c.packetGuid, .errorMessage 1⟩] } := by
  unfold State.handleNewEneity
  simp only [hinfo, hc, Creation.isFailed_info, Creation.isFinish_info, hdec, hmade, if_true]
  rfl

end reply

end Steppingstone.Charsys
