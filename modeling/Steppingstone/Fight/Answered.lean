/-
  Steppingstone.Fight.Answered — every request for fight data is answered once.

  A run is any interleaving of requests and answers.  A player who is jumping
  maps, or whose scene cannot be reached, is answered while the request is set
  up, and then the shared entry that was made for him is never dropped: it
  points to a deleted request, and later requests for the player are added to it
  and are never answered.
-/
import Steppingstone.Fight.Linked
import Steppingstone.Lib.Lookup

namespace Steppingstone.Fight

open Pool (PoolImp guidType etPlayer)
open Player (Entity)

/-! ## §1. The property. -/

/-- The call tells of the request what its players were answered. -/
structure Call.Reports (s : SceneRequestImp) (c : Call) (r : Accepted) : Prop where
  address : c.address = r.address
  reqId : c.reqId = r.reqId
  answered : ∀ g ∈ r.guids, s.answers r.address g ≠ none
  success : c.success = true ↔ ∀ g ∈ r.guids, s.answers r.address g = some true

/-- **Every request is answered once**: a callback runs at most once for a
request, after all its players are answered, and with their result; a request
that was not called back waits for a player whose question is in flight; and the
shared entries mention only requests that still exist. -/
structure AnsweredOnce (s : SceneRequestImp) : Prop where
  distinct : (s.accepted.map Accepted.address).Nodup
  once : (s.calls.map Call.address).Nodup
  reports : ∀ c ∈ s.calls, ∃ r ∈ s.accepted, c.Reports s r
  waits : ∀ r ∈ s.accepted, (∀ c ∈ s.calls, c.address ≠ r.address) →
    (∃ g ∈ r.guids, s.answers r.address g = none) ∧
    ∀ g ∈ r.guids, s.answers r.address g = none → g ∈ s.inFlight
  shared : ∀ g requests, s.guidRequestReferenceMap g = some requests → ∀ a ∈ requests,
    s.objects a ≠ none ∧ ∀ c ∈ s.calls, c.address ≠ a
  safe : s.usedDeleted = false

/-- **With no question in flight, every request was called back.** -/
theorem AnsweredOnce.all_called {s : SceneRequestImp} (h : AnsweredOnce s)
    (hf : s.inFlight = []) : ∀ r ∈ s.accepted, ∃ c ∈ s.calls, c.address = r.address := by
  intro r hr
  by_contra hnot
  obtain ⟨⟨g, hg, hnone⟩, hall⟩ :=
    h.waits r hr (fun c hc heq => hnot ⟨c, hc, heq⟩)
  have hmem := hall g hg hnone
  rw [hf] at hmem
  exact absurd hmem (by simp)

/-- **The condition on a step**: a request that is accepted gets the id of no open
request, and the players it has to ask for are offline or their scene can be
reached. -/
def Askable (s : SceneRequestImp) : Act → Prop
  | .request guids line => validGuids guids → s.dataRequestIdInfoMap s.getRequestId = none ∧
      ∀ g ∈ guids, s.references.requestPlayerFightDataFromLocate g = none →
        s.guidRequestReferenceMap g = none → line g = .offline ∨ line g = .scene true
  | _ => True

instance decidableAskable (s : SceneRequestImp) : (a : Act) → Decidable (Askable s a)
  | .request guids line =>
      -- over the list, not over all guids
      letI : Decidable (∀ g ∈ guids, s.references.requestPlayerFightDataFromLocate g = none →
          s.guidRequestReferenceMap g = none → line g = .offline ∨ line g = .scene true) :=
        List.decidableBAll _ guids
      inferInstanceAs (Decidable (validGuids guids →
        s.dataRequestIdInfoMap s.getRequestId = none ∧
        ∀ g ∈ guids, s.references.requestPlayerFightDataFromLocate g = none →
          s.guidRequestReferenceMap g = none → line g = .offline ∨ line g = .scene true))
  | .sceneBack _ _ => isTrue trivial
  | .sceneBackFailed _ => isTrue trivial
  | .cacheBack _ _ => isTrue trivial

theorem Askable.freshId {s : SceneRequestImp} {a : Act} (h : Askable s a) : FreshId s a := by
  match a with
  | .request guids line => exact fun hv => (h hv).1
  | .sceneBack _ _ => trivial
  | .sceneBackFailed _ => trivial
  | .cacheBack _ _ => trivial

/-! ## §2. The history of the requests. -/

/-- Accepted requests are open or were called back, and calls were right. -/
structure Logged (s : SceneRequestImp) : Prop where
  distinct : (s.accepted.map Accepted.address).Nodup
  bounded : ∀ r ∈ s.accepted, r.address < s.nextObject
  once : (s.calls.map Call.address).Nodup
  opened : ∀ a p, s.pending a = some p →
    Accepted.mk a p.reqId p.guids ∈ s.accepted ∧ ∀ c ∈ s.calls, c.address ≠ a
  closed : ∀ r ∈ s.accepted, s.pending r.address = none → ∃ c ∈ s.calls, c.address = r.address
  reports : ∀ c ∈ s.calls, ∃ r ∈ s.accepted, c.Reports s r

namespace Logged

theorem init (pool : PoolImp Entity) : Logged { references := { pool } } where
  distinct := List.nodup_nil
  bounded := by intro r hr; exact absurd hr (by simp)
  once := List.nodup_nil
  opened := by intro a p hp; exact absurd hp (by simp [SceneRequestImp.pending])
  closed := by intro r hr; exact absurd hr (by simp)
  reports := by intro c hc; exact absurd hc (by simp)

variable {s s' : SceneRequestImp}

/-- The history depends on who is open, not on what the open requests know. -/
theorem of_same (h : Logged s) (haccepted : s'.accepted = s.accepted)
    (hnext : s'.nextObject = s.nextObject) (hcalls : s'.calls = s.calls)
    (hopen : ∀ a p, s'.pending a = some p →
      ∃ q, s.pending a = some q ∧ p.reqId = q.reqId ∧ p.guids = q.guids)
    (hclosed : ∀ a, s'.pending a = none → s.pending a = none)
    (hans : ∀ a g, (∃ c ∈ s.calls, c.address = a) → s'.answers a g = s.answers a g) :
    Logged s' := by
  refine ⟨?_, ?_, ?_, ?_, ?_, ?_⟩
  · rw [haccepted]
    exact h.distinct
  · rw [haccepted, hnext]
    exact h.bounded
  · rw [hcalls]
    exact h.once
  · intro a p hp
    obtain ⟨q, hq, hid, hguids⟩ := hopen a p hp
    rw [haccepted, hcalls, hid, hguids]
    exact h.opened a q hq
  · intro r hr hp
    rw [haccepted] at hr
    rw [hcalls]
    exact h.closed r hr (hclosed r.address hp)
  · intro c hc
    rw [hcalls] at hc
    obtain ⟨r, hr, hrep⟩ := h.reports c hc
    have hsame : ∀ g, s'.answers r.address g = s.answers r.address g :=
      fun g => hans r.address g ⟨c, hc, hrep.address⟩
    refine ⟨r, haccepted ▸ hr, hrep.address, hrep.reqId, ?_, ?_⟩
    · intro g hg
      rw [hsame g]
      exact hrep.answered g hg
    · rw [hrep.success]
      simp only [hsame]

/-- The call of a request whose players are all answered is right. -/
theorem reports_of_answered {a : Nat} {p : Pending} {todo : List Nat} (hl : Linked s todo)
    (hp : s.pending a = some p) (ha : p.Answered) :
    (Call.mk a p.reqId (decide p.Succeeded)).Reports s (Accepted.mk a p.reqId p.guids) := by
  refine ⟨rfl, rfl, ?_, ?_⟩
  · intro g hg
    obtain ⟨e, he, rfl⟩ := List.mem_map.mp hg
    show s.answers a e.guid ≠ none
    rw [hl.answered a p hp e he]
    exact ha e he
  · show decide p.Succeeded = true ↔ ∀ g ∈ p.guids, s.answers a g = some true
    rw [decide_eq_true_iff]
    unfold Pending.Succeeded Pending.guids
    rw [List.forall_mem_map]
    refine forall₂_congr ?_
    intro e he
    rw [hl.answered a p hp e he]

/-- **Completing a request** is noted once. -/
theorem complate {a : Nat} {todo : List Nat} (hl : Linked s (a :: todo)) (h : Logged s) :
    Logged (s.complateDataRequest a) := by
  obtain ⟨d, hd, heq⟩ := hl.complate_eq
  have hpend := SceneRequestImp.pending_of_objects hd
  obtain ⟨hacc, hnocall⟩ := h.opened a d.pending hpend
  rw [heq]
  by_cases ha : d.pending.Answered
  · rw [if_pos ha]
    have hrep := reports_of_answered hl hpend ha
    have hcases : ∀ b p, (s.completed a d).pending b = some p → b ≠ a ∧ s.pending b = some p :=
      fun _ _ hb => SceneRequestImp.pending_of_completed hb
    refine ⟨h.distinct, h.bounded, ?_, ?_, ?_, ?_⟩
    -- the request is called back once: it was pending until now
    · show ((s.calls ++ [Call.mk a d.reqId _]).map Call.address).Nodup
      rw [List.map_append, List.nodup_append]
      refine ⟨h.once, List.nodup_singleton _, ?_⟩
      intro b hb b' hb'
      obtain ⟨c, hc, rfl⟩ := List.mem_map.mp hb
      rw [List.mem_singleton.mp hb']
      exact hnocall c hc
    · intro b p hb
      obtain ⟨hba, hbp⟩ := hcases b p hb
      obtain ⟨hmem, hno⟩ := h.opened b p hbp
      refine ⟨hmem, ?_⟩
      intro c hc
      match List.mem_append.mp hc with
      | Or.inl hc' => exact hno c hc'
      | Or.inr hc' =>
          rw [List.mem_singleton.mp hc']
          exact fun he => hba he.symm
    · intro r hr hnone
      by_cases hra : r.address = a
      · exact ⟨_, List.mem_append.mpr (Or.inr (List.mem_singleton.mpr rfl)), hra.symm⟩
      · rw [SceneRequestImp.completed_pending, if_neg hra] at hnone
        obtain ⟨c, hc, hca⟩ := h.closed r hr hnone
        exact ⟨c, List.mem_append.mpr (Or.inl hc), hca⟩
    · intro c hc
      match List.mem_append.mp hc with
      | Or.inl hc' =>
          obtain ⟨r, hr, hrep'⟩ := h.reports c hc'
          exact ⟨r, hr, hrep'.address, hrep'.reqId, hrep'.answered, hrep'.success⟩
      | Or.inr hc' =>
          rw [List.mem_singleton.mp hc']
          exact ⟨_, hacc, hrep.address, hrep.reqId, hrep.answered, hrep.success⟩
  · rw [if_neg ha]
    -- not answered yet: nothing but the look is new
    have hsame := SceneRequestImp.lookedAt_pending hd
    refine h.of_same rfl rfl rfl ?_ ?_ (fun _ _ _ => rfl)
    · intro b p hb
      exact ⟨p, by rw [← hsame]; exact hb, rfl, rfl⟩
    · intro b hb
      rw [← hsame]
      exact hb

/-- Telling requests of an answer changes the history of none. -/
theorem told {guid : UInt64} {requests : List Nat} {info : Option CollectMsgInfo}
    (h : Logged s) (ht : Linked.Told s s' guid requests info) : Logged s' := by
  obtain ⟨objects, answers, hs'⟩ := ht.frame
  have haccepted : s'.accepted = s.accepted := by rw [hs']
  have hnext : s'.nextObject = s.nextObject := by rw [hs']
  have hcalls : s'.calls = s.calls := by rw [hs']
  refine h.of_same haccepted hnext hcalls ?_ ?_ ?_
  · intro a p hp
    rw [ht.pending a] at hp
    split at hp
    · obtain ⟨q, hq, rfl⟩ := Option.map_eq_some_iff.mp hp
      exact ⟨q, hq, rfl, q.told_guids guid info.isSome⟩
    · exact ⟨p, hp, rfl, rfl⟩
  · intro a hp
    rw [ht.pending a] at hp
    split at hp
    · exact Option.map_eq_none_iff.mp hp
    · exact hp
  · -- who was called back is not told any more
    intro a g hcall
    obtain ⟨c, hc, hca⟩ := hcall
    rw [ht.answers a g, if_neg]
    intro hmem
    have hlive := ht.linked.todoLive a hmem.1
    obtain ⟨p, hp⟩ := Option.ne_none_iff_exists'.mp hlive
    rw [ht.pending a, if_pos hmem.1] at hp
    obtain ⟨q, hq, -⟩ := Option.map_eq_some_iff.mp hp
    exact (h.opened a q hq).2 c hc hca

/-- **Answering a player** notes the requests that it completes. -/
theorem answer {guid : UInt64} {requests : List Nat} (hl : Linked s []) (h : Logged s)
    (info : Option CollectMsgInfo)
    (hreq : s.guidRequestReferenceMap guid = some requests) (hn : requests.Nodup)
    (hw : ∀ a ∈ requests, s.Waits a guid) (hg : guid ∉ s.inFlight) :
    Logged (s.playerFightDataBack guid info) := by
  obtain ⟨s', htold, heq⟩ := hl.answer_eq info hreq hn hw hg
  obtain ⟨-, hdone⟩ := htold.linked.complateAll (P := Logged)
    (fun t a todo ht hlog => hlog.complate ht) (h.told htold)
  rw [heq]
  exact ⟨hdone.distinct, hdone.bounded, hdone.once, hdone.opened, hdone.closed,
    fun c hc => by
      obtain ⟨r, hr, hrep⟩ := hdone.reports c hc
      exact ⟨r, hr, hrep.address, hrep.reqId, hrep.answered, hrep.success⟩⟩

/-- **A new request** is noted. -/
theorem accept (hl : Linked s []) (h : Logged s) {guids : List UInt64}
    (line : UInt64 → Located) (hn : guids.Nodup)
    (hfree : s.dataRequestIdInfoMap s.getRequestId = none) :
    Logged (s.acceptRequest guids line) := by
  obtain ⟨shared, answers, s', hs', heq, hshared, hans⟩ := s.acceptRequest_eq line guids hn hfree
  have hposted := hl.posted hn hfree hs' hshared hans
  rw [heq]
  refine Logged.complate hposted ?_
  have haccepted : s'.accepted =
      s.accepted ++ [Accepted.mk s.nextObject s.getRequestId guids] := by rw [hs']
  have hcalls : s'.calls = s.calls := by rw [hs']
  have hnext : s'.nextObject = s.nextObject + 1 := by rw [hs']
  -- the request gets the next address, which none of the old ones has
  have hold : ∀ b, b ≠ s.nextObject → s'.pending b = s.pending b := by
    intro b hb
    exact SceneRequestImp.pending_of_ne (by rw [hs']) hb
  have hcallLt : ∀ c ∈ s.calls, c.address < s.nextObject := by
    intro c hc
    obtain ⟨r, hr, hrep⟩ := h.reports c hc
    rw [hrep.address]
    exact h.bounded r hr
  refine ⟨?_, ?_, ?_, ?_, ?_, ?_⟩
  · rw [haccepted, List.map_append, List.nodup_append]
    refine ⟨h.distinct, List.nodup_singleton _, ?_⟩
    intro b hb b' hb'
    obtain ⟨r, hr, rfl⟩ := List.mem_map.mp hb
    rw [List.mem_singleton.mp hb']
    exact Nat.ne_of_lt (h.bounded r hr)
  · intro r hr
    rw [haccepted] at hr
    rw [hnext]
    match List.mem_append.mp hr with
    | Or.inl hr' => exact Nat.lt_succ_of_lt (h.bounded r hr')
    | Or.inr hr' =>
        rw [List.mem_singleton.mp hr']
        exact Nat.lt_succ_self _
  · rw [hcalls]
    exact h.once
  · intro b p hp
    rw [haccepted, hcalls]
    by_cases hb : b = s.nextObject
    · have hp' : s'.pending s.nextObject =
          some { reqId := s.getRequestId
                 entries := guids.map fun g => (s.infoOf line g).entry } := by
        exact SceneRequestImp.pending_posted (by rw [hs'])
      rw [hb, hp'] at hp
      obtain rfl := Option.some.inj hp
      have hguids : guids.map (Entry.guid ∘ fun g => (s.infoOf line g).entry) = guids :=
        (List.map_congr_left fun g _ => s.infoOf_guid line g).trans (List.map_id guids)
      unfold Pending.guids
      rw [List.map_map, hguids, hb]
      refine ⟨List.mem_append.mpr (Or.inr (List.mem_singleton.mpr rfl)), ?_⟩
      intro c hc hca
      have := hcallLt c hc
      omega
    · rw [hold b hb] at hp
      obtain ⟨hmem, hno⟩ := h.opened b p hp
      exact ⟨List.mem_append.mpr (Or.inl hmem), hno⟩
  · intro r hr hp
    rw [haccepted] at hr
    rw [hcalls]
    match List.mem_append.mp hr with
    | Or.inl hr' =>
        have hne : r.address ≠ s.nextObject := Nat.ne_of_lt (h.bounded r hr')
        rw [hold _ hne] at hp
        exact h.closed r hr' hp
    | Or.inr hr' =>
        rw [List.mem_singleton.mp hr'] at hp
        exact absurd hp (hposted.todoLive s.nextObject (List.mem_singleton.mpr rfl))
  · intro c hc
    rw [hcalls] at hc
    obtain ⟨r, hr, hrep⟩ := h.reports c hc
    -- the answers of the old requests are not touched
    have hsame : ∀ g, s'.answers r.address g = s.answers r.address g := by
      intro g
      have hlt := hcallLt c hc
      rw [hrep.address] at hlt
      rw [show s'.answers = answers by rw [hs'], hans r.address g, if_neg (fun hc' => by omega)]
    refine ⟨r, ?_, hrep.address, hrep.reqId, ?_, ?_⟩
    · rw [haccepted]
      exact List.mem_append.mpr (Or.inl hr)
    · intro g hg
      rw [hsame g]
      exact hrep.answered g hg
    · rw [hrep.success]
      simp only [hsame]

end Logged

/-- **Every step keeps the history right**, as long as ids are fresh. -/
theorem Logged.step {s s' : SceneRequestImp} {a : Act} (hl : Linked s []) (h : Logged s)
    (hid : FreshId s a) (hst : Fight.step s a = some s') : Logged s' := by
  match step_cases hid hst with
  | Or.inl heq =>
      rw [heq]
      exact h
  | Or.inr (Or.inl ⟨guids, line, _, hv, hfree, heq⟩) =>
      rw [heq]
      exact h.accept hl line (validGuids_nodup hv) hfree
  | Or.inr (Or.inr (Or.inl ⟨guid, info, sceneAsked, loads, _, hp, heq⟩)) =>
      rw [heq]
      obtain ⟨htaken, hnot, requests, hreq, -, hn, hw⟩ := hl.taken hp
      have hlog : Logged { s with sceneAsked := sceneAsked, loads := loads } :=
        h.of_same rfl rfl rfl (fun a p hp => ⟨p, hp, rfl, rfl⟩) (fun a hp => hp)
          (fun _ _ _ => rfl)
      exact hlog.answer htaken info hreq hn hw hnot
  | Or.inr (Or.inr (Or.inr ⟨guid, sceneAsked, loads, _, hp, heq⟩)) =>
      obtain ⟨objects, hclosed, hobj, -⟩ := hl.sceneFailed_eq hp
      rw [heq, hclosed]
      exact h.of_same rfl rfl rfl (fun a p hp => ⟨p, (hobj a).symm.trans hp, rfl, rfl⟩)
        (fun a hp => (hobj a).symm.trans hp) (fun _ _ _ => rfl)

/-! ## §3. Shared entries. -/

/-- Every shared entry belongs to a question in flight. -/
def Flying (s : SceneRequestImp) : Prop :=
  ∀ g requests, s.guidRequestReferenceMap g = some requests → g ∈ s.inFlight

/-- **Every step that meets the condition** leaves no entry without a question. -/
theorem Flying.step {s s' : SceneRequestImp} {a : Act} (hl : Linked s []) (h : Flying s)
    (hc : Askable s a) (hst : Fight.step s a = some s') : Flying s' := by
  match step_cases hc.freshId hst with
  | Or.inl heq =>
      rw [heq]
      exact h
  | Or.inr (Or.inl ⟨guids, line, ha, hv, hfree, heq⟩) =>
      subst ha
      obtain ⟨shared, answers, t, ht, hdone, hshared, hans⟩ :=
        s.acceptRequest_eq line guids (validGuids_nodup hv) hfree
      have hposted := hl.posted (validGuids_nodup hv) hfree ht hshared hans
      obtain ⟨hfl, hmap⟩ := foldl_complate_frame hposted
      intro g requests hreq
      rw [heq, hdone] at hreq ⊢
      rw [show t.complateDataRequest s.nextObject =
        [s.nextObject].foldl SceneRequestImp.complateDataRequest t from rfl] at hreq ⊢
      rw [hmap, show t.guidRequestReferenceMap = shared by rw [ht], hshared g] at hreq
      rw [hfl, ht]
      unfold SceneRequestImp.inFlight
      simp only [List.mem_append, List.mem_filter, decide_eq_true_eq]
      match hr : s.guidRequestReferenceMap g with
      | some old =>
          have hold := h g old hr
          unfold SceneRequestImp.inFlight at hold
          have := List.mem_append.mp hold
          tauto
      | none =>
          rw [hr] at hreq
          by_cases hg : g ∈ guids ∧ s.references.requestPlayerFightDataFromLocate g = none
          · -- the condition: a new entry comes with a question
            match (hc hv).2 g hg.1 hg.2 hr with
            | Or.inl hoff => exact Or.inr (Or.inr ⟨hg.1, hg.2, hr, hoff⟩)
            | Or.inr hsent => exact Or.inl (Or.inr ⟨hg.1, hg.2, hr, hsent⟩)
          · rw [if_neg hg] at hreq
            exact absurd hreq (by simp)
  | Or.inr (Or.inr (Or.inl ⟨guid, info, sceneAsked, loads, _, hp, heq⟩)) =>
      obtain ⟨htaken, hnot, requests, hreq, -, hn, hw⟩ := hl.taken hp
      obtain ⟨t, htold, hdone⟩ := htaken.answer_eq info hreq hn hw hnot
      obtain ⟨objects, answers, ht⟩ := htold.frame
      obtain ⟨hfl, hmap⟩ := foldl_complate_frame htold.linked
      intro g requests' hreq'
      rw [heq, hdone] at hreq' ⊢
      have hreq'' : Function.update (requests.foldl SceneRequestImp.complateDataRequest
          t).guidRequestReferenceMap guid none g = some requests' := hreq'
      obtain ⟨hg, hreq''⟩ := Lookup.update_none.mp hreq''
      rw [hmap, ht] at hreq''
      show g ∈ (requests.foldl SceneRequestImp.complateDataRequest t).inFlight
      rw [hfl, ht]
      -- the guid that was answered has left the map, every other one is still in flight
      have hmem := hp.mem_iff.mpr (h g requests' hreq'')
      exact (List.mem_cons.mp hmem).resolve_left hg
  | Or.inr (Or.inr (Or.inr ⟨guid, sceneAsked, loads, _, hp, heq⟩)) =>
      obtain ⟨objects, hclosed, -, hperm⟩ := hl.sceneFailed_eq hp
      intro g requests hreq
      rw [heq, hclosed] at hreq ⊢
      -- what is in flight is only put in another order
      exact hperm.mem_iff.mpr (h g requests hreq)

/-! ## §4. Runs. -/

/-- What the runs keep. -/
structure Answering (s : SceneRequestImp) : Prop where
  linked : Linked s []
  logged : Logged s
  flying : Flying s

theorem Answering.answeredOnce {s : SceneRequestImp} (h : Answering s) : AnsweredOnce s := by
  refine ⟨h.logged.distinct, h.logged.once, h.logged.reports, ?_, ?_, h.linked.safe⟩
  · intro r hr hno
    match hp : s.pending r.address with
    | none =>
        obtain ⟨c, hc, hca⟩ := h.logged.closed r hr hp
        exact absurd hca (hno c hc)
    | some p =>
        -- the request that is open at the address is this one
        have hmem := (h.logged.opened r.address p hp).1
        have hsame : r = Accepted.mk r.address p.reqId p.guids :=
          List.inj_on_of_nodup_map h.logged.distinct hr hmem rfl
        have hguids : r.guids = p.guids := congrArg Accepted.guids hsame
        have hwaits : ∀ g ∈ r.guids, s.answers r.address g = none → s.Waits r.address g := by
          intro g hg hnone
          rw [hguids] at hg
          obtain ⟨e, he, rfl⟩ := List.mem_map.mp hg
          rw [h.linked.answered r.address p hp e he] at hnone
          exact ⟨p, hp, e, he, rfl, hnone⟩
        refine ⟨?_, ?_⟩
        · have hopen := h.linked.unfinished r.address p hp (by simp)
          unfold Pending.Answered at hopen
          simp only [ne_eq, not_forall, not_not] at hopen
          obtain ⟨e, he, hnone⟩ := hopen
          refine ⟨e.guid, ?_, ?_⟩
          · rw [hguids]
            exact List.mem_map_of_mem he
          · rw [h.linked.answered r.address p hp e he, hnone]
        · intro g hg hnone
          obtain ⟨requests, hreq, -⟩ := h.linked.enlisted r.address g (hwaits g hg hnone)
          exact h.flying g requests hreq
  · intro g requests hreq a ha
    obtain ⟨requests', hreq', -, -, hw⟩ := h.linked.asked g (h.flying g requests hreq)
    rw [hreq] at hreq'
    obtain rfl := Option.some.inj hreq'
    obtain ⟨p, hp, -⟩ := hw a ha
    refine ⟨?_, (h.logged.opened a p hp).2⟩
    obtain ⟨d, hd, -⟩ := SceneRequestImp.objects_of_pending hp
    rw [hd]
    exact Option.some_ne_none d

/-- **Every run** whose requests take fresh ids and ask for no player who jumps
maps or whose scene cannot be reached answers every request once. -/
theorem reachable_answeredOnce {s : SceneRequestImp} (hs : fightSystem.ReachableWhen Askable s) :
    AnsweredOnce s := by
  refine Answering.answeredOnce (hs.invariant ?_ ?_)
  · intro s hs
    obtain ⟨pool, rfl⟩ := hs
    exact ⟨Linked.init pool, Logged.init pool, fun g requests hreq => absurd hreq (by simp)⟩
  · intro s a s' h hc hst
    rw [fightSystem_step] at hst
    exact ⟨h.linked.step hc.freshId hst, h.logged.step h.linked hc.freshId hst,
      h.flying.step h.linked hc hst⟩

/-- A player guid. -/
def playerA : UInt64 := 0x0100000000000001

/-- Another one. -/
def playerB : UInt64 := 0x0100000000000002

/-- An empty pool. -/
def emptyPool : PoolImp Entity := { cfg := ⟨1, false⟩ }

/-- Two requests share a player; one of them also wants a player whose scene fails. -/
theorem shared_player_answered : ∃ s, AnsweredOnce s ∧
    s.calls = [Call.mk 1 2 false, Call.mk 0 1 false] ∧ s.inFlight = [] := by
  let acts : List Act := [
    .request [playerA, playerB] fun g => if g = playerA then .offline else .scene true,
    .request [playerA] fun _ => .offline,
    .cacheBack 0 none, .sceneBackFailed 0, .cacheBack 0 (some [])]
  obtain ⟨s, hs, hcalls, hfl⟩ : ∃ s,
      fightSystem.run { references := { pool := emptyPool } } acts = some s ∧
        s.calls = [Call.mk 1 2 false, Call.mk 0 1 false] ∧ s.inFlight = [] :=
    ⟨_, rfl, by decide +kernel, by decide +kernel⟩
  have hr : fightSystem.ReachableWhen Askable s :=
    TransSys.reachableWhen_of_run ⟨emptyPool, rfl⟩ (by decide +kernel) hs
  exact ⟨s, reachable_answeredOnce hr, hcalls, hfl⟩

/-- **The defect**: the request for a player who jumps maps is called back and
deleted, and the shared entry of the player still points to it. -/
theorem jumping_leaves_entry : ¬ ∀ s, fightSystem.Reachable s → AnsweredOnce s := by
  intro hall
  obtain ⟨s, hs, hentry, hcalls⟩ : ∃ s,
      fightSystem.run { references := { pool := emptyPool } }
        [.request [playerA] fun _ => .jumping []] = some s ∧
        s.guidRequestReferenceMap playerA = some [0] ∧ s.calls = [Call.mk 0 1 true] :=
    ⟨_, rfl, by decide +kernel, by decide +kernel⟩
  have hr : fightSystem.Reachable s := TransSys.reachable_of_run ⟨emptyPool, rfl⟩ hs
  have hno := ((hall s hr).shared playerA [0] hentry 0 (by simp)).2
  rw [hcalls] at hno
  exact hno (Call.mk 0 1 true) (by simp) rfl

end Steppingstone.Fight
