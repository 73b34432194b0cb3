/-
  Steppingstone.Fight.Linked — how requests, shared questions and questions in
  flight hang together.

  A request is seen as its id and, for each player, the answer it has and
  whether a reference was counted.  The invariant `Linked s todo` speaks of a
  state in which the requests at the addresses `todo` still have to be
  completed, so that it can be followed through the loops of
  `playerFightDataBack`.
-/
import Mathlib.Data.List.Nodup
import Mathlib.Data.List.Perm.Basic
import Steppingstone.Fight.Model

namespace Steppingstone.Fight

open Pool (PoolImp guidType etPlayer)
open Player (Entity)

/-! ## §1. Requests as the callers see them. -/

/-- A player of a request. -/
structure Entry where
  guid : UInt64
  answer : Option Bool
  counted : Bool
  deriving Repr, DecidableEq

/-- A request that is not completed. -/
structure Pending where
  reqId : UInt32
  entries : List Entry
  deriving Repr, DecidableEq

/-- What a caller sees of a player. -/
def GuidRequestInfo.entry (i : GuidRequestInfo) : Entry where
  guid := i.reqGuid
  answer := if i.reqBack then some i.reqSuccess else none
  counted := i.counted

/-- What a caller sees of a request. -/
def DataRequestInfo.pending (d : DataRequestInfo) : Pending where
  reqId := d.reqId
  entries := d.guidReqInfoMap.map GuidRequestInfo.entry

namespace Pending

/-- The players of the request. -/
def guids (p : Pending) : List UInt64 := p.entries.map Entry.guid

/-- Every player is answered. -/
def Answered (p : Pending) : Prop := ∀ e ∈ p.entries, e.answer ≠ none

instance (p : Pending) : Decidable p.Answered :=
  inferInstanceAs (Decidable (∀ e ∈ p.entries, _))

/-- Every player is answered with success. -/
def Succeeded (p : Pending) : Prop := ∀ e ∈ p.entries, e.answer = some true

instance (p : Pending) : Decidable p.Succeeded :=
  inferInstanceAs (Decidable (∀ e ∈ p.entries, _))

/-- The request after an answer for one player. -/
def told (p : Pending) (guid : UInt64) (success : Bool) : Pending :=
  { p with entries := p.entries.map fun e =>
      if e.guid = guid then
        { e with answer := some success, counted := success || e.counted }
      else e }

@[simp] theorem told_reqId (p : Pending) (guid : UInt64) (success : Bool) :
    (p.told guid success).reqId = p.reqId := rfl

@[simp] theorem told_guids (p : Pending) (guid : UInt64) (success : Bool) :
    (p.told guid success).guids = p.guids := by
  unfold guids told
  rw [List.map_map]
  refine List.map_congr_left ?_
  intro e _
  show (if e.guid = guid then _ else e : Entry).guid = e.guid
  split <;> rfl

theorem mem_told {p : Pending} {guid : UInt64} {success : Bool} {e : Entry} :
    e ∈ (p.told guid success).entries ↔
      (e ∈ p.entries ∧ e.guid ≠ guid) ∨
      (e.guid = guid ∧ e.answer = some success ∧
        ∃ e' ∈ p.entries, e'.guid = guid ∧ e.counted = (success || e'.counted)) := by
  show e ∈ p.entries.map _ ↔ _
  rw [List.mem_map]
  refine ⟨?_, ?_⟩
  · intro h
    obtain ⟨e', he', heq⟩ := h
    by_cases hg : e'.guid = guid
    · rw [if_pos hg] at heq
      subst heq
      exact Or.inr ⟨hg, rfl, e', he', hg, rfl⟩
    · rw [if_neg hg] at heq
      subst heq
      exact Or.inl ⟨he', hg⟩
  · intro h
    match h with
    | Or.inl ⟨he, hg⟩ => exact ⟨e, he, if_neg hg⟩
    | Or.inr ⟨hg, ha, e', he', hg', hc⟩ =>
        refine ⟨e', he', ?_⟩
        rw [if_pos hg']
        cases e
        simp only [Entry.mk.injEq]
        exact ⟨hg'.trans hg.symm, ha.symm, hc.symm⟩

end Pending

theorem DataRequestInfo.modify_pending (d : DataRequestInfo) (guid : UInt64)
    (f : GuidRequestInfo → GuidRequestInfo) (f' : Entry → Entry)
    (h : ∀ i, (f i).entry = f' i.entry) :
    (d.modify guid f).pending =
      { d.pending with entries := d.pending.entries.map fun e =>
          if e.guid = guid then f' e else e } := by
  unfold modify pending
  simp only [List.map_map, Pending.mk.injEq, true_and]
  refine List.map_congr_left ?_
  intro i _
  show (if i.reqGuid = guid then f i else i).entry = if i.entry.guid = guid then f' i.entry else i.entry
  by_cases hg : i.reqGuid = guid
  · rw [if_pos hg, if_pos (show i.entry.guid = guid from hg)]
    exact h i
  · rw [if_neg hg, if_neg (show ¬ i.entry.guid = guid from hg)]

theorem DataRequestInfo.requestDataBack_pending (d : DataRequestInfo) (guid : UInt64)
    (guidVec : List UInt64) :
    (d.requestDataBack guid guidVec).pending = d.pending.told guid true :=
  d.modify_pending guid _ (fun e => { e with answer := some true, counted := true })
    fun _ => rfl

theorem DataRequestInfo.requestDataBackFailed_pending (d : DataRequestInfo) (guid : UInt64) :
    (d.requestDataBackFailed guid).pending = d.pending.told guid false :=
  d.modify_pending guid _ (fun e => { e with answer := some false }) fun _ => rfl

theorem DataRequestInfo.modifyType_pending (d : DataRequestInfo) (guid : UInt64) :
    (d.modifyGuidRequestTypeFromCache guid).pending = d.pending := by
  have h := d.modify_pending guid (fun i => { i with reqType := .fromCachesys }) id
    (fun _ => rfl)
  rw [show d.modifyGuidRequestTypeFromCache guid = d.modify guid _ from rfl, h]
  simp only [id_eq, ite_self, List.map_id']

/-! ## §2. The loop of queryFinish. -/

theorem queryLoop_eq (l : List GuidRequestInfo) (success : Bool) :
    DataRequestInfo.queryLoop l success =
      (l.all (·.reqBack), l.all (·.reqBack) && success && l.all (·.reqSuccess)) := by
  induction l generalizing success with
  | nil => simp [DataRequestInfo.queryLoop]
  | cons i rest ih =>
      unfold DataRequestInfo.queryLoop
      by_cases hb : i.reqBack = true
      · simp only [hb, if_true, ih, List.all_cons, Bool.true_and]
        cases i.reqSuccess <;> cases success <;> simp
      · simp [hb]

theorem DataRequestInfo.all_reqBack (d : DataRequestInfo) :
    d.guidReqInfoMap.all (·.reqBack) = decide d.pending.Answered := by
  rw [Bool.eq_iff_iff, List.all_eq_true, decide_eq_true_iff]
  unfold Pending.Answered pending
  simp only [List.forall_mem_map]
  refine forall₂_congr ?_
  intro i _
  unfold GuidRequestInfo.entry
  cases i.reqBack <;> simp

theorem DataRequestInfo.queryFinish_eq (d : DataRequestInfo) :
    d.queryFinish.pending = d.pending ∧
    d.queryFinish.guidReqInfoMap = d.guidReqInfoMap ∧
    d.queryFinish.reqFinish = decide d.pending.Answered ∧
    (d.pending.Answered → d.queryFinish.reqSuccess = decide d.pending.Succeeded) := by
  refine ⟨rfl, rfl, ?_, ?_⟩
  · show (queryLoop d.guidReqInfoMap true).1 = _
    rw [queryLoop_eq, all_reqBack]
  · intro ha
    show (queryLoop d.guidReqInfoMap true).2 = _
    have hback : d.guidReqInfoMap.all (·.reqBack) = true := by
      rw [all_reqBack]
      exact decide_eq_true ha
    rw [queryLoop_eq, hback, Bool.eq_iff_iff, decide_eq_true_iff]
    simp only [Bool.true_and, List.all_eq_true]
    unfold Pending.Succeeded pending
    simp only [List.forall_mem_map]
    refine forall₂_congr ?_
    intro i hi
    have hb : i.reqBack = true := List.all_eq_true.mp hback i hi
    unfold GuidRequestInfo.entry
    simp [hb]

/-! ## §3. The invariant. -/

namespace SceneRequestImp

variable (s : SceneRequestImp)

/-- The request at an address, as a caller sees it. -/
def pending (a : Nat) : Option Pending := (s.objects a).map DataRequestInfo.pending

/-- The questions in flight. -/
def inFlight : List UInt64 := s.sceneAsked ++ s.loads

/-- The request at an address waits for a player. -/
def Waits (a : Nat) (guid : UInt64) : Prop :=
  ∃ p, s.pending a = some p ∧ ∃ e ∈ p.entries, e.guid = guid ∧ e.answer = none

end SceneRequestImp

/-- **The links between requests and questions**, while the requests `todo` have
to be completed. -/
structure Linked (s : SceneRequestImp) (todo : List Nat) : Prop where
  todoNodup : todo.Nodup
  todoLive : ∀ a ∈ todo, s.pending a ≠ none
  safe : s.usedDeleted = false
  bounded : ∀ a p, s.pending a = some p → a < s.nextObject
  registered : ∀ a p, s.pending a = some p → s.dataRequestIdInfoMap p.reqId = some a
  guidsNodup : ∀ a p, s.pending a = some p → p.guids.Nodup
  unfinished : ∀ a p, s.pending a = some p → a ∉ todo → ¬ p.Answered
  flight : s.inFlight.Nodup
  asked : ∀ g ∈ s.inFlight, ∃ requests, s.guidRequestReferenceMap g = some requests ∧
    requests ≠ [] ∧ requests.Nodup ∧ ∀ a ∈ requests, s.Waits a g
  enlisted : ∀ a g, s.Waits a g → ∃ requests, s.guidRequestReferenceMap g = some requests ∧
    a ∈ requests
  answered : ∀ a p, s.pending a = some p → ∀ e ∈ p.entries, s.answers a e.guid = e.answer
  unused : ∀ a g, s.nextObject ≤ a → s.answers a g = none

theorem Linked.init (pool : PoolImp Entity) : Linked { references := { pool } } [] where
  todoNodup := List.nodup_nil
  todoLive := by intro a ha; simp at ha
  safe := rfl
  bounded := by intro a p hp; exact absurd hp (by simp [SceneRequestImp.pending])
  registered := by intro a p hp; exact absurd hp (by simp [SceneRequestImp.pending])
  guidsNodup := by intro a p hp; exact absurd hp (by simp [SceneRequestImp.pending])
  unfinished := by intro a p hp; exact absurd hp (by simp [SceneRequestImp.pending])
  flight := List.nodup_nil
  asked := by intro g hg; exact absurd hg (by simp [SceneRequestImp.inFlight])
  enlisted := by
    intro a g hw
    obtain ⟨p, hp, -⟩ := hw
    exact absurd hp (by simp [SceneRequestImp.pending])
  answered := by intro a p hp; exact absurd hp (by simp [SceneRequestImp.pending])
  unused := by intro a g _; rfl

/-! ## §4. Completing requests. -/

namespace SceneRequestImp

/-- The state after a request was called back and deleted. -/
def completed (s : SceneRequestImp) (a : Nat) (d : DataRequestInfo) : SceneRequestImp :=
  { s with
    calls := s.calls ++ [Call.mk a d.reqId (decide d.pending.Succeeded)]
    references := s.references.reduceAll d.guidReqInfoMap
    objects := Function.update s.objects a none
    dataRequestIdInfoMap := Function.update s.dataRequestIdInfoMap d.reqId none }

/-- The state after a look at a request that is not finished. -/
def lookedAt (s : SceneRequestImp) (a : Nat) (d : DataRequestInfo) : SceneRequestImp :=
  { s with objects := Function.update s.objects a (some d.queryFinish) }

/-- **Completing a registered request**: it is called back and deleted when every
player is answered, and otherwise nothing happens. -/
theorem complateDataRequest_eq {s : SceneRequestImp} {a : Nat} {d : DataRequestInfo}
    (hd : s.objects a = some d) (hr : s.dataRequestIdInfoMap d.reqId = some a) :
    s.complateDataRequest a =
      if d.pending.Answered then s.completed a d else s.lookedAt a d := by
  obtain ⟨-, hmap, hfin, hsucc⟩ := d.queryFinish_eq
  unfold complateDataRequest
  rw [hd]
  dsimp only
  by_cases ha : d.pending.Answered
  · rw [if_pos ha, if_pos (by rw [hfin]; exact decide_eq_true ha)]
    unfold removeRequestInfo completed
    dsimp only
    rw [show d.queryFinish.reqId = d.reqId from rfl, hr, hmap, hsucc ha]
    simp only [Function.update_idem]
  · rw [if_neg ha, if_neg (by rw [hfin]; simpa using ha)]
    rfl

section

variable {s : SceneRequestImp} {a : Nat} {d : DataRequestInfo}

theorem pending_of_objects (hd : s.objects a = some d) : s.pending a = some d.pending := by
  unfold pending
  rw [hd]
  rfl

theorem objects_of_pending {p : Pending} (hp : s.pending a = some p) :
    ∃ d, s.objects a = some d ∧ d.pending = p := by
  unfold pending at hp
  exact Option.map_eq_some_iff.mp hp

theorem completed_pending (b : Nat) :
    (s.completed a d).pending b = if b = a then none else s.pending b := by
  unfold pending completed
  dsimp only
  by_cases hb : b = a
  · rw [if_pos hb, hb, Function.update_self]
    rfl
  · rw [if_neg hb, Function.update_of_ne hb]

/-- Completing a request leaves the others pending. -/
theorem pending_of_completed {b : Nat} {p : Pending} (hp : (s.completed a d).pending b = some p) :
    b ≠ a ∧ s.pending b = some p := by
  rw [completed_pending] at hp
  by_cases hb : b = a
  · rw [if_pos hb] at hp
    cases hp
  · rw [if_neg hb] at hp
    exact ⟨hb, hp⟩

theorem lookedAt_pending (hd : s.objects a = some d) (b : Nat) :
    (s.lookedAt a d).pending b = s.pending b := by
  unfold pending lookedAt
  dsimp only
  by_cases hb : b = a
  · rw [hb, Function.update_self, hd]
    rfl
  · rw [Function.update_of_ne hb]

theorem Waits.of_pending {s' : SceneRequestImp} {g : UInt64} (h : s'.pending a = s.pending a) :
    s'.Waits a g ↔ s.Waits a g := by
  unfold Waits
  rw [h]

end

end SceneRequestImp

namespace Linked

variable {s : SceneRequestImp} {a : Nat} {todo : List Nat}

/-- What completing the head of the list does. -/
theorem complate_eq (h : Linked s (a :: todo)) :
    ∃ d, s.objects a = some d ∧
      s.complateDataRequest a = if d.pending.Answered then s.completed a d else s.lookedAt a d := by
  obtain ⟨p, hp⟩ := Option.ne_none_iff_exists'.mp (h.todoLive a (List.mem_cons_self ..))
  obtain ⟨d, hd, hdp⟩ := SceneRequestImp.objects_of_pending hp
  have hr : s.dataRequestIdInfoMap d.reqId = some a := by
    have := h.registered a p hp
    rw [← hdp] at this
    exact this
  exact ⟨d, hd, SceneRequestImp.complateDataRequest_eq hd hr⟩

/-- **Completing the head of the list** keeps the links. -/
theorem complate (h : Linked s (a :: todo)) : Linked (s.complateDataRequest a) todo := by
  obtain ⟨d, hd, heq⟩ := h.complate_eq
  have hpend := SceneRequestImp.pending_of_objects hd
  obtain ⟨hnot, hnodup⟩ := List.nodup_cons.mp h.todoNodup
  rw [heq]
  by_cases ha : d.pending.Answered
  · -- called back: the other requests keep what they had
    rw [if_pos ha]
    have hp : ∀ b p, (s.completed a d).pending b = some p → b ≠ a ∧ s.pending b = some p :=
      fun _ _ hb => SceneRequestImp.pending_of_completed hb
    have hne : ∀ b g, s.Waits b g → b ≠ a := by
      intro b g hw hba
      obtain ⟨p, hbp, e, he, -, hnone⟩ := hw
      rw [hba, hpend] at hbp
      obtain rfl := Option.some.inj hbp
      exact ha e he hnone
    have hsame : ∀ b, b ≠ a → (s.completed a d).pending b = s.pending b := by
      intro b hb
      rw [SceneRequestImp.completed_pending, if_neg hb]
    refine ⟨hnodup, ?_, h.safe, ?_, ?_, ?_, ?_, h.flight, ?_, ?_, ?_, h.unused⟩
    · intro b hb
      have hba : b ≠ a := fun hba => hnot (hba ▸ hb)
      rw [hsame b hba]
      exact h.todoLive b (List.mem_cons_of_mem _ hb)
    · intro b p hb
      exact h.bounded b p (hp b p hb).2
    · intro b p hb
      obtain ⟨hba, hbp⟩ := hp b p hb
      have hreg := h.registered b p hbp
      show Function.update s.dataRequestIdInfoMap d.reqId none p.reqId = some b
      by_cases hid : p.reqId = d.reqId
      · -- two requests with one id are one request
        have hself : s.dataRequestIdInfoMap d.reqId = some a := h.registered a _ hpend
        rw [hid, hself] at hreg
        exact absurd (Option.some.inj hreg).symm hba
      · rw [Function.update_of_ne hid]
        exact hreg
    · intro b p hb
      exact h.guidsNodup b p (hp b p hb).2
    · intro b p hb hmem
      obtain ⟨hba, hbp⟩ := hp b p hb
      exact h.unfinished b p hbp (by simp [hba, hmem])
    · intro g hg
      obtain ⟨requests, hreq, hnil, hnd, hw⟩ := h.asked g hg
      refine ⟨requests, hreq, hnil, hnd, ?_⟩
      intro b hb
      exact (SceneRequestImp.Waits.of_pending (hsame b (hne b g (hw b hb)))).mpr (hw b hb)
    · intro b g hw
      have hba : b ≠ a := by
        obtain ⟨p, hb, -⟩ := hw
        exact (hp b p hb).1
      exact h.enlisted b g ((SceneRequestImp.Waits.of_pending (hsame b hba)).mp hw)
    · intro b p hb
      exact h.answered b p (hp b p hb).2
  · -- nothing changes but what nobody reads
    rw [if_neg ha]
    have hsame := SceneRequestImp.lookedAt_pending hd
    refine ⟨hnodup, ?_, h.safe, ?_, ?_, ?_, ?_, h.flight, ?_, ?_, ?_, h.unused⟩
    · intro b hb
      rw [hsame]
      exact h.todoLive b (List.mem_cons_of_mem _ hb)
    · intro b p hb
      exact h.bounded b p (by rw [← hsame]; exact hb)
    · intro b p hb
      exact h.registered b p (by rw [← hsame]; exact hb)
    · intro b p hb
      exact h.guidsNodup b p (by rw [← hsame]; exact hb)
    · intro b p hb hmem
      rw [hsame] at hb
      by_cases hba : b = a
      · rw [hba, hpend] at hb
        obtain rfl := Option.some.inj hb
        exact ha
      · exact h.unfinished b p hb (by simp [hba, hmem])
    · intro g hg
      obtain ⟨requests, hreq, hnil, hnd, hw⟩ := h.asked g hg
      refine ⟨requests, hreq, hnil, hnd, ?_⟩
      intro b hb
      exact (SceneRequestImp.Waits.of_pending (hsame b)).mpr (hw b hb)
    · intro b g hw
      exact h.enlisted b g ((SceneRequestImp.Waits.of_pending (hsame b)).mp hw)
    · intro b p hb
      exact h.answered b p (by rw [← hsame]; exact hb)

/-- A property of the state that every completion keeps holds after all of them. -/
theorem complateAll {P : SceneRequestImp → Prop}
    (hP : ∀ s a todo, Linked s (a :: todo) → P s → P (s.complateDataRequest a))
    (h : Linked s todo) (hs : P s) :
    Linked (todo.foldl SceneRequestImp.complateDataRequest s) [] ∧
      P (todo.foldl SceneRequestImp.complateDataRequest s) := by
  induction todo generalizing s with
  | nil => exact ⟨h, hs⟩
  | cons a rest ih => exact ih h.complate (hP s a rest h hs)

end Linked

/-! ## §5. Telling requests of an answer. -/

namespace SceneRequestImp

/-- One round of either loop of `playerFightDataBack`. -/
def mark (guid : UInt64) (f : DataRequestInfo → DataRequestInfo) (success : Bool)
    (count : References → References) (s : SceneRequestImp) (a : Nat) : SceneRequestImp :=
  let s := (s.withObject a f).setAnswer a guid success
  { s with references := count s.references }

theorem markFailed_eq (guid : UInt64) :
    markFailed guid = mark guid (·.requestDataBackFailed guid) false id := rfl

theorem markBack_eq (guid : UInt64) (guidVec : List UInt64) :
    markBack guid guidVec =
      mark guid (·.requestDataBack guid guidVec) true (·.addReferenceNo guid guidVec) := rfl

/-- The references after `n` more were counted. -/
def repeated (count : References → References) : Nat → References → References
  | 0, r => r
  | n + 1, r => repeated count n (count r)

/-- **Every request of the list is told** the answer, and nothing else happens. -/
theorem foldl_mark {guid : UInt64} {f : DataRequestInfo → DataRequestInfo} {success : Bool}
    {count : References → References}
    (hf : ∀ d, (f d).pending = d.pending.told guid success)
    (requests : List Nat) (s : SceneRequestImp) (hn : requests.Nodup)
    (hlive : ∀ a ∈ requests, s.pending a ≠ none) :
    ∃ objects answers,
      requests.foldl (mark guid f success count) s =
        { s with
          objects := objects
          answers := answers
          references := repeated count requests.length s.references } ∧
      (∀ a, (objects a).map DataRequestInfo.pending =
        if a ∈ requests then (s.pending a).map (·.told guid success) else s.pending a) ∧
      (∀ a g, answers a g =
        if a ∈ requests ∧ g = guid then some success else s.answers a g) := by
  induction requests generalizing s with
  | nil => exact ⟨s.objects, s.answers, rfl, fun a => rfl, fun a g => by simp⟩
  | cons a rest ih =>
      obtain ⟨hnot, hn'⟩ := List.nodup_cons.mp hn
      obtain ⟨p, hp⟩ := Option.ne_none_iff_exists'.mp (hlive a (List.mem_cons_self ..))
      obtain ⟨d, hd, hdp⟩ := objects_of_pending hp
      have hround : mark guid f success count s a =
          { s with
            objects := Function.update s.objects a (some (f d))
            answers := Function.update s.answers a
              (Function.update (s.answers a) guid (some success))
            references := count s.references } := by
        unfold mark withObject setAnswer
        rw [hd]
      have hother : ∀ b, b ≠ a → (mark guid f success count s a).pending b = s.pending b := by
        intro b hb
        rw [hround]
        unfold pending
        dsimp only
        rw [Function.update_of_ne hb]
      obtain ⟨objects, answers, heq, hobj, hans⟩ := ih (mark guid f success count s a) hn'
        (by
          intro b hb
          rw [hother b (fun hba => hnot (hba ▸ hb))]
          exact hlive b (List.mem_cons_of_mem _ hb))
      refine ⟨objects, answers, ?_, ?_, ?_⟩
      · show rest.foldl (mark guid f success count) (mark guid f success count s a) = _
        rw [heq, hround]
        rfl
      · intro b
        rw [hobj b]
        by_cases hba : b = a
        · subst hba
          rw [if_neg hnot, if_pos (List.mem_cons_self ..), hround, hp, ← hdp]
          unfold pending
          dsimp only
          rw [Function.update_self, Option.map_some, Option.map_some, hf]
        · rw [hother b hba]
          simp [hba]
      · intro b g
        rw [hans b g, hround]
        dsimp only
        by_cases hba : b = a
        · subst hba
          by_cases hg : g = guid
          · simp [hg]
          · simp [hg]
        · rw [Function.update_of_ne hba]
          simp [hba]

theorem repeated_id (n : Nat) (r : References) : repeated id n r = r := by
  induction n generalizing r with
  | zero => rfl
  | succ n ih => exact ih r

/-- The references when `n` requests were told of an answer for a player. -/
def toldReferences (r : References) (guid : UInt64) (n : Nat) :
    Option CollectMsgInfo → References
  | none => r
  | some info =>
      repeated (·.addReferenceNo guid (guidVecOf info)) n (r.addCollected guid info)

/-- What was put into the pool for the players after an answer. -/
def toldPut (put : UInt64 → Option (List UInt64)) (guid : UInt64) :
    Option CollectMsgInfo → UInt64 → Option (List UInt64)
  | none => put
  | some info => Function.update put guid (some (guidVecOf info))

/-- **The answer for a player**: the requests that wait for it are told, then
completed, then forgotten. -/
theorem playerFightDataBack_eq {guid : UInt64} (info : Option CollectMsgInfo)
    {requests : List Nat} {s : SceneRequestImp}
    (hreq : s.guidRequestReferenceMap guid = some requests) (hn : requests.Nodup)
    (hlive : ∀ a ∈ requests, s.pending a ≠ none) :
    ∃ objects answers s',
      s' = { s with
        objects := objects
        answers := answers
        references := toldReferences s.references guid requests.length info
        put := toldPut s.put guid info } ∧
      s.playerFightDataBack guid info =
        { requests.foldl complateDataRequest s' with
          guidRequestReferenceMap := Function.update
            (requests.foldl complateDataRequest s').guidRequestReferenceMap guid none } ∧
      (∀ a, s'.pending a =
        if a ∈ requests then (s.pending a).map (·.told guid info.isSome) else s.pending a) ∧
      (∀ a g, answers a g =
        if a ∈ requests ∧ g = guid then some info.isSome else s.answers a g) := by
  match info with
  | none =>
      obtain ⟨objects, answers, heq, hobj, hans⟩ :=
        @foldl_mark guid (·.requestDataBackFailed guid) _ id
          (fun d => d.requestDataBackFailed_pending guid) requests s hn hlive
      refine ⟨objects, answers, _, rfl, ?_, hobj, hans⟩
      unfold playerFightDataBack
      rw [hreq]
      dsimp only
      rw [markFailed_eq, heq, repeated_id]
      rfl
  | some msgs =>
      obtain ⟨objects, answers, heq, hobj, hans⟩ :=
        @foldl_mark guid (·.requestDataBack guid (guidVecOf msgs)) _
          (·.addReferenceNo guid (guidVecOf msgs))
          (fun d => d.requestDataBack_pending guid (guidVecOf msgs)) requests
          { s with
            references := s.references.addCollected guid msgs
            put := Function.update s.put guid (some (guidVecOf msgs)) } hn hlive
      refine ⟨objects, answers, _, rfl, ?_, hobj, hans⟩
      unfold playerFightDataBack
      rw [hreq]
      dsimp only
      rw [markBack_eq, heq]
      rfl

end SceneRequestImp

namespace Linked

variable {s s' : SceneRequestImp} {guid : UInt64} {requests : List Nat} {success : Bool}

/-- **Once its requests are told**, nobody waits for a player who is not asked for
any more. -/
theorem told (h : Linked s [])
    (hreq : s.guidRequestReferenceMap guid = some requests) (hn : requests.Nodup)
    (hw : ∀ a ∈ requests, s.Waits a guid) (hg : guid ∉ s.inFlight)
    {objects : Nat → Option DataRequestInfo} {answers : Nat → UInt64 → Option Bool}
    {references : References} {put : UInt64 → Option (List UInt64)}
    (hs' : s' = { s with
      objects := objects
      answers := answers
      references := references
      put := put })
    (hobj : ∀ a, s'.pending a =
      if a ∈ requests then (s.pending a).map (·.told guid success) else s.pending a)
    (hans : ∀ a g, answers a g =
      if a ∈ requests ∧ g = guid then some success else s.answers a g) :
    Linked s' requests ∧ ∀ a, ¬ s'.Waits a guid := by
  have hlive : ∀ a ∈ requests, ∃ p, s.pending a = some p := by
    intro a ha
    obtain ⟨p, hp, -⟩ := hw a ha
    exact ⟨p, hp⟩
  -- a request is the one it was, or was told
  have hcases : ∀ a p, s'.pending a = some p →
      (a ∉ requests ∧ s.pending a = some p) ∨
      (a ∈ requests ∧ ∃ q, s.pending a = some q ∧ p = q.told guid success) := by
    intro a p hp
    rw [hobj a] at hp
    by_cases ha : a ∈ requests
    · rw [if_pos ha] at hp
      obtain ⟨q, hq, hqp⟩ := Option.map_eq_some_iff.mp hp
      exact Or.inr ⟨ha, q, hq, hqp.symm⟩
    · rw [if_neg ha] at hp
      exact Or.inl ⟨ha, hp⟩
  have hwaits : ∀ a g, s'.Waits a g → g ≠ guid ∧ s.Waits a g := by
    intro a g hwa
    obtain ⟨p, hp, e, he, heg, hnone⟩ := hwa
    match hcases a p hp with
    | Or.inl ⟨ha, hq⟩ =>
        refine ⟨?_, p, hq, e, he, heg, hnone⟩
        intro hgg
        obtain ⟨requests', hreq', hmem⟩ := h.enlisted a g ⟨p, hq, e, he, heg, hnone⟩
        rw [hgg, hreq] at hreq'
        obtain rfl := Option.some.inj hreq'
        exact ha hmem
    | Or.inr ⟨ha, q, hq, hpq⟩ =>
        rw [hpq] at he
        match Pending.mem_told.mp he with
        | Or.inl ⟨he', hne⟩ => exact ⟨heg ▸ hne, q, hq, e, he', heg, hnone⟩
        | Or.inr ⟨_, hsome, _⟩ =>
            rw [hsome] at hnone
            exact absurd hnone (by simp)
  have hwaits' : ∀ a g, g ≠ guid → s.Waits a g → s'.Waits a g := by
    intro a g hne hwa
    obtain ⟨p, hp, e, he, heg, hnone⟩ := hwa
    by_cases ha : a ∈ requests
    · refine ⟨p.told guid success, ?_, e, ?_, heg, hnone⟩
      · rw [hobj a, if_pos ha, hp]
        rfl
      · exact Pending.mem_told.mpr (Or.inl ⟨he, by rw [heg]; exact hne⟩)
    · refine ⟨p, ?_, e, he, heg, hnone⟩
      rw [hobj a, if_neg ha]
      exact hp
  have hguids : ∀ a p, s'.pending a = some p →
      ∃ q, s.pending a = some q ∧ p.reqId = q.reqId ∧ p.guids = q.guids := by
    intro a p hp
    match hcases a p hp with
    | Or.inl ⟨_, hq⟩ => exact ⟨p, hq, rfl, rfl⟩
    | Or.inr ⟨_, q, hq, hpq⟩ => exact ⟨q, hq, by rw [hpq]; rfl, by rw [hpq, Pending.told_guids]⟩
  refine ⟨⟨hn, ?_, ?_, ?_, ?_, ?_, ?_, ?_, ?_, ?_, ?_, ?_⟩, fun a hwa => (hwaits a guid hwa).1 rfl⟩
  · intro a ha
    obtain ⟨p, hp⟩ := hlive a ha
    rw [hobj a, if_pos ha, hp]
    exact Option.some_ne_none _
  · rw [hs']
    exact h.safe
  · intro a p hp
    obtain ⟨q, hq, -, -⟩ := hguids a p hp
    rw [hs']
    exact h.bounded a q hq
  · intro a p hp
    obtain ⟨q, hq, hid, -⟩ := hguids a p hp
    rw [hs', hid]
    exact h.registered a q hq
  · intro a p hp
    obtain ⟨q, hq, -, heq⟩ := hguids a p hp
    rw [heq]
    exact h.guidsNodup a q hq
  · intro a p hp ha
    match hcases a p hp with
    | Or.inl ⟨_, hq⟩ => exact h.unfinished a p hq (by simp)
    | Or.inr ⟨ha', _⟩ => exact absurd ha' ha
  · rw [hs']
    exact h.flight
  · intro g hgf
    have hgf' : g ∈ s.inFlight := by
      rw [hs'] at hgf
      exact hgf
    have hne : g ≠ guid := fun he => hg (he ▸ hgf')
    obtain ⟨requests', hreq', hnil, hnd, hwg⟩ := h.asked g hgf'
    refine ⟨requests', ?_, hnil, hnd, fun a ha => hwaits' a g hne (hwg a ha)⟩
    rw [hs']
    exact hreq'
  · intro a g hwa
    obtain ⟨requests', hreq', hmem⟩ := h.enlisted a g (hwaits a g hwa).2
    refine ⟨requests', ?_, hmem⟩
    rw [hs']
    exact hreq'
  · intro a p hp e he
    rw [show s'.answers = answers by rw [hs'], hans a e.guid]
    match hcases a p hp with
    | Or.inl ⟨ha, hq⟩ =>
        rw [if_neg (fun hc => ha hc.1)]
        exact h.answered a p hq e he
    | Or.inr ⟨ha, q, hq, hpq⟩ =>
        rw [hpq] at he
        match Pending.mem_told.mp he with
        | Or.inl ⟨he', hne⟩ =>
            rw [if_neg (fun hc => hne hc.2)]
            exact h.answered a q hq e he'
        | Or.inr ⟨heg, hsome, _⟩ => rw [if_pos ⟨ha, heg⟩, hsome]
  · intro a g hle
    have hle' : s.nextObject ≤ a := by
      rw [hs'] at hle
      exact hle
    have ha : a ∉ requests := by
      intro ha
      obtain ⟨p, hp⟩ := hlive a ha
      have := h.bounded a p hp
      omega
    rw [show s'.answers = answers by rw [hs'], hans a g, if_neg (fun hc => ha hc.1)]
    exact h.unused a g hle'

/-- Nobody starts to wait while requests are completed. -/
theorem complate_waits {a : Nat} {todo : List Nat} (h : Linked s (a :: todo)) {b : Nat}
    {g : UInt64} (hw : (s.complateDataRequest a).Waits b g) : s.Waits b g := by
  obtain ⟨d, hd, heq⟩ := h.complate_eq
  rw [heq] at hw
  by_cases ha : d.pending.Answered
  · rw [if_pos ha] at hw
    have hba : b ≠ a := by
      intro hba
      obtain ⟨p, hp, -⟩ := hw
      rw [SceneRequestImp.completed_pending, if_pos hba] at hp
      exact absurd hp (by simp)
    refine (SceneRequestImp.Waits.of_pending ?_).mp hw
    rw [SceneRequestImp.completed_pending, if_neg hba]
  · rw [if_neg ha] at hw
    exact (SceneRequestImp.Waits.of_pending (SceneRequestImp.lookedAt_pending hd b)).mp hw

/-- The shared entry of a player nobody waits for can be dropped. -/
theorem forget (h : Linked s []) (hw : ∀ a, ¬ s.Waits a guid) (hg : guid ∉ s.inFlight) :
    Linked { s with
      guidRequestReferenceMap := Function.update s.guidRequestReferenceMap guid none } [] := by
  refine ⟨h.todoNodup, h.todoLive, h.safe, h.bounded, h.registered, h.guidsNodup,
    h.unfinished, h.flight, ?_, ?_, h.answered, h.unused⟩
  · intro g hgf
    have hne : g ≠ guid := fun he => hg (he ▸ hgf)
    obtain ⟨requests, hreq, hrest⟩ := h.asked g hgf
    refine ⟨requests, ?_, hrest⟩
    show Function.update s.guidRequestReferenceMap guid none g = _
    rw [Function.update_of_ne hne]
    exact hreq
  · intro a g hwa
    have hwa' : s.Waits a g := hwa
    have hne : g ≠ guid := fun he => hw a (he ▸ hwa')
    obtain ⟨requests, hreq, hmem⟩ := h.enlisted a g hwa'
    refine ⟨requests, ?_, hmem⟩
    show Function.update s.guidRequestReferenceMap guid none g = _
    rw [Function.update_of_ne hne]
    exact hreq

/-- What completing leaves alone. -/
theorem complate_frame {a : Nat} {todo : List Nat} (h : Linked s (a :: todo)) :
    (s.complateDataRequest a).sceneAsked = s.sceneAsked ∧
    (s.complateDataRequest a).loads = s.loads ∧
    (s.complateDataRequest a).guidRequestReferenceMap = s.guidRequestReferenceMap ∧
    (s.complateDataRequest a).nextObject = s.nextObject ∧
    (s.complateDataRequest a).accepted = s.accepted ∧
    (s.complateDataRequest a).answers = s.answers ∧
    (s.complateDataRequest a).put = s.put := by
  obtain ⟨d, hd, heq⟩ := h.complate_eq
  rw [heq]
  split
  · exact ⟨rfl, rfl, rfl, rfl, rfl, rfl, rfl⟩
  · exact ⟨rfl, rfl, rfl, rfl, rfl, rfl, rfl⟩

/-- The requests of the list, told and not yet completed. -/
structure Told (s s' : SceneRequestImp) (guid : UInt64) (requests : List Nat)
    (info : Option CollectMsgInfo) : Prop where
  linked : Linked s' requests
  noWaits : ∀ a, ¬ s'.Waits a guid
  frame : ∃ objects answers, s' = { s with
    objects := objects
    answers := answers
    references :=
      SceneRequestImp.toldReferences s.references guid requests.length info
    put := SceneRequestImp.toldPut s.put guid info }
  pending : ∀ a, s'.pending a =
    if a ∈ requests then (s.pending a).map (·.told guid info.isSome) else s.pending a
  answers : ∀ a g, s'.answers a g =
    if a ∈ requests ∧ g = guid then some info.isSome else s.answers a g

/-- An answer, up to the completion of the requests. -/
theorem answer_eq (h : Linked s []) (info : Option CollectMsgInfo)
    (hreq : s.guidRequestReferenceMap guid = some requests) (hn : requests.Nodup)
    (hw : ∀ a ∈ requests, s.Waits a guid) (hg : guid ∉ s.inFlight) :
    ∃ s', Told s s' guid requests info ∧
      s.playerFightDataBack guid info =
        { requests.foldl SceneRequestImp.complateDataRequest s' with
          guidRequestReferenceMap := Function.update
            (requests.foldl SceneRequestImp.complateDataRequest s').guidRequestReferenceMap
            guid none } := by
  have hlive : ∀ a ∈ requests, s.pending a ≠ none := by
    intro a ha
    obtain ⟨p, hp, -⟩ := hw a ha
    rw [hp]
    exact Option.some_ne_none p
  obtain ⟨objects, answers, s', hs', heq, hobj, hans⟩ :=
    SceneRequestImp.playerFightDataBack_eq info hreq hn hlive
  obtain ⟨htold, hnone⟩ := h.told hreq hn hw hg hs' hobj hans
  refine ⟨s', ⟨htold, hnone, ⟨objects, answers, hs'⟩, hobj, ?_⟩, heq⟩
  intro a g
  rw [show s'.answers = answers by rw [hs'], hans a g]

/-- **Answering a player** keeps the links. -/
theorem answer (h : Linked s []) (info : Option CollectMsgInfo)
    (hreq : s.guidRequestReferenceMap guid = some requests) (hn : requests.Nodup)
    (hw : ∀ a ∈ requests, s.Waits a guid) (hg : guid ∉ s.inFlight) :
    Linked (s.playerFightDataBack guid info) [] := by
  obtain ⟨s', htold, heq⟩ := h.answer_eq info hreq hn hw hg
  have hg' : guid ∉ s'.inFlight := by
    obtain ⟨objects, answers, hs'⟩ := htold.frame
    rw [hs']
    exact hg
  obtain ⟨hdone, hnone', hfl⟩ := htold.linked.complateAll
    (P := fun t => (∀ a, ¬ t.Waits a guid) ∧ guid ∉ t.inFlight)
    (by
      intro t a todo ht hP
      refine ⟨fun b hb => hP.1 b (ht.complate_waits hb), ?_⟩
      unfold SceneRequestImp.inFlight
      rw [ht.complate_frame.1, ht.complate_frame.2.1]
      exact hP.2)
    ⟨htold.noWaits, hg'⟩
  rw [heq]
  exact hdone.forget hnone' hfl

/-- Taking a question out of the flight. -/
theorem taken (h : Linked s []) {sceneAsked loads : List UInt64}
    (hp : (guid :: (sceneAsked ++ loads)).Perm s.inFlight) :
    Linked { s with sceneAsked := sceneAsked, loads := loads } [] ∧
      guid ∉ sceneAsked ++ loads ∧
      ∃ requests, s.guidRequestReferenceMap guid = some requests ∧ requests ≠ [] ∧
        requests.Nodup ∧ ∀ a ∈ requests, s.Waits a guid := by
  have hnd := hp.nodup_iff.mpr h.flight
  obtain ⟨hnot, hnd'⟩ := List.nodup_cons.mp hnd
  refine ⟨⟨h.todoNodup, h.todoLive, h.safe, h.bounded, h.registered, h.guidsNodup,
    h.unfinished, hnd', ?_, h.enlisted, h.answered, h.unused⟩, hnot, ?_⟩
  · intro g hg
    exact h.asked g (hp.mem_iff.mp (List.mem_cons_of_mem _ hg))
  · exact h.asked guid (hp.mem_iff.mp (List.mem_cons_self ..))

end Linked

/-- Taking the `i`-th element of the first list. -/
theorem perm_eraseIdx_left {asked loads : List UInt64} {i : Nat} {guid : UInt64}
    (h : asked[i]? = some guid) : (guid :: (asked.eraseIdx i ++ loads)).Perm (asked ++ loads) := by
  obtain ⟨hi, rfl⟩ := List.getElem?_eq_some_iff.mp h
  exact (List.getElem_cons_eraseIdx_perm hi).append_right loads

/-- Taking the `i`-th element of the second list. -/
theorem perm_eraseIdx_right {asked loads : List UInt64} {i : Nat} {guid : UInt64}
    (h : loads[i]? = some guid) : (guid :: (asked ++ loads.eraseIdx i)).Perm (asked ++ loads) := by
  obtain ⟨hi, rfl⟩ := List.getElem?_eq_some_iff.mp h
  exact List.perm_middle.symm.trans ((List.getElem_cons_eraseIdx_perm hi).append_left asked)

/-! ## §6. Asking the cache instead. -/

namespace SceneRequestImp

/-- Changing the type of a request changes nothing a request is seen by. -/
theorem foldl_modifyType (guid : UInt64) (requests : List Nat) (s : SceneRequestImp)
    (hlive : ∀ a ∈ requests, s.pending a ≠ none) :
    ∃ objects,
      requests.foldl (fun s a => s.withObject a (·.modifyGuidRequestTypeFromCache guid)) s =
        { s with objects := objects } ∧
      ∀ a, (objects a).map DataRequestInfo.pending = s.pending a := by
  induction requests generalizing s with
  | nil => exact ⟨s.objects, rfl, fun a => rfl⟩
  | cons a rest ih =>
      obtain ⟨p, hp⟩ := Option.ne_none_iff_exists'.mp (hlive a (List.mem_cons_self ..))
      obtain ⟨d, hd, hdp⟩ := objects_of_pending hp
      have hround : s.withObject a (·.modifyGuidRequestTypeFromCache guid) =
          { s with objects :=
              Function.update s.objects a (some (d.modifyGuidRequestTypeFromCache guid)) } := by
        unfold withObject
        rw [hd]
      have hsame : ∀ b, (s.withObject a (·.modifyGuidRequestTypeFromCache guid)).pending b =
          s.pending b := by
        intro b
        rw [hround]
        unfold pending
        dsimp only
        by_cases hb : b = a
        · rw [hb, Function.update_self, hd, Option.map_some, Option.map_some,
            DataRequestInfo.modifyType_pending]
        · rw [Function.update_of_ne hb]
      obtain ⟨objects, heq, hobj⟩ := ih (s.withObject a (·.modifyGuidRequestTypeFromCache guid))
        (by
          intro b hb
          rw [hsame b]
          exact hlive b (List.mem_cons_of_mem _ hb))
      refine ⟨objects, ?_, fun b => (hobj b).trans (hsame b)⟩
      show rest.foldl _ (s.withObject a _) = _
      rw [heq, hround]

end SceneRequestImp

namespace Linked

variable {s : SceneRequestImp} {guid : UInt64}

/-- Asking the cache, in closed form. -/
theorem sceneFailed_eq (h : Linked s []) {sceneAsked loads : List UInt64}
    (hp : (guid :: (sceneAsked ++ loads)).Perm s.inFlight) :
    ∃ objects,
      SceneRequestImp.playerFightDataBackFromSceneFailed
        { s with sceneAsked := sceneAsked, loads := loads } guid =
        { s with
          sceneAsked := sceneAsked
          loads := loads ++ [guid]
          objects := objects } ∧
      (∀ a, (objects a).map DataRequestInfo.pending = s.pending a) ∧
      (sceneAsked ++ (loads ++ [guid])).Perm s.inFlight := by
  obtain ⟨-, -, requests, hreq, -, -, hw⟩ := h.taken hp
  have hlive : ∀ a ∈ requests, s.pending a ≠ none := by
    intro a ha
    obtain ⟨p, hp, -⟩ := hw a ha
    rw [hp]
    exact Option.some_ne_none p
  obtain ⟨objects, heq, hobj⟩ := SceneRequestImp.foldl_modifyType guid requests
    { s with sceneAsked := sceneAsked, loads := loads } hlive
  refine ⟨objects, ?_, hobj, ?_⟩
  · unfold SceneRequestImp.playerFightDataBackFromSceneFailed
    rw [show SceneRequestImp.guidRequestReferenceMap
      { s with sceneAsked := sceneAsked, loads := loads } guid = some requests from hreq]
    dsimp only
    rw [heq]
  · refine List.Perm.trans ?_ hp
    rw [← List.append_assoc]
    exact List.perm_append_singleton guid _

/-- **Asking the cache** after another scene failed keeps the links. -/
theorem sceneFailed (h : Linked s []) {sceneAsked loads : List UInt64}
    (hp : (guid :: (sceneAsked ++ loads)).Perm s.inFlight) :
    Linked (SceneRequestImp.playerFightDataBackFromSceneFailed
      { s with sceneAsked := sceneAsked, loads := loads } guid) [] := by
  obtain ⟨objects, heq, hobj, hperm⟩ := h.sceneFailed_eq hp
  rw [heq]
  have hwaits : ∀ a g, SceneRequestImp.Waits
      { s with sceneAsked := sceneAsked, loads := loads ++ [guid], objects := objects } a g ↔
        s.Waits a g :=
    fun a g => SceneRequestImp.Waits.of_pending (hobj a)
  refine ⟨List.nodup_nil, fun a ha => absurd ha (by simp), h.safe, ?_, ?_, ?_, ?_,
    hperm.nodup_iff.mpr h.flight, ?_, ?_, ?_, h.unused⟩
  · intro a p hp
    exact h.bounded a p ((hobj a).symm.trans hp)
  · intro a p hp
    exact h.registered a p ((hobj a).symm.trans hp)
  · intro a p hp
    exact h.guidsNodup a p ((hobj a).symm.trans hp)
  · intro a p hp
    exact h.unfinished a p ((hobj a).symm.trans hp)
  · intro g hg
    obtain ⟨requests', hreq', hnil', hn', hw'⟩ := h.asked g (hperm.mem_iff.mp hg)
    exact ⟨requests', hreq', hnil', hn', fun a ha => (hwaits a g).mpr (hw' a ha)⟩
  · intro a g hwa
    exact h.enlisted a g ((hwaits a g).mp hwa)
  · intro a p hp
    exact h.answered a p ((hobj a).symm.trans hp)

end Linked

/-! ## §7. The questions of a new request. -/

namespace SceneRequestImp

/-- A player whose question is new, and what the line scene knows of him. -/
def Asks (s : SceneRequestImp) (line : UInt64 → Located) (l : Located) (guid : UInt64) : Prop :=
  s.references.requestPlayerFightDataFromLocate guid = none ∧
    s.guidRequestReferenceMap guid = none ∧ line guid = l

instance (s : SceneRequestImp) (line : UInt64 → Located) (l : Located) (guid : UInt64) :
    Decidable (s.Asks line l guid) :=
  inferInstanceAs (Decidable (_ ∧ _ ∧ _))

/-- What a request notes of a player it asks for. -/
def infoOf (s : SceneRequestImp) (line : UInt64 → Located) (guid : UInt64) : GuidRequestInfo :=
  match s.references.requestPlayerFightDataFromLocate guid with
  | some guidVec =>
      { reqGuid := guid, reqBack := true, reqSuccess := true, guidVec := guidVec,
        counted := true }
  | none =>
      match s.guidRequestReferenceMap guid, line guid with
      | some _, _ => { reqGuid := guid }
      | none, .jumping guids =>
          { reqGuid := guid, reqType := .fromOtherScene, reqBack := true, reqSuccess := true,
            guidVec := guids }
      | none, .offline => { reqGuid := guid, reqType := .fromCachesys }
      | none, .scene true => { reqGuid := guid, reqType := .fromOtherScene }
      | none, .scene false =>
          { reqGuid := guid, reqType := .fromOtherScene, reqBack := true, reqSuccess := false }

/-- One guid is located without regard to the references. -/
theorem locate_addReferenceNo (r : References) (g g' : UInt64) (guidVec : List UInt64) :
    (r.addReferenceNo g guidVec).requestPlayerFightDataFromLocate g' =
      r.requestPlayerFightDataFromLocate g' := by
  unfold References.addReferenceNo
  split <;> rfl

/-- The references after a player that may be in the pool was asked for. -/
def located (r : References) (guid : UInt64) : References :=
  match r.requestPlayerFightDataFromLocate guid with
  | some guidVec => r.addReferenceNo guid guidVec
  | none => r

theorem locate_located (r : References) (g g' : UInt64) :
    (located r g).requestPlayerFightDataFromLocate g' =
      r.requestPlayerFightDataFromLocate g' := by
  unfold located
  split
  · exact locate_addReferenceNo r g g' _
  · rfl

variable (s : SceneRequestImp) (a : Nat) (line : UInt64 → Located)

/-- One round of the loop in closed form. -/
theorem requestOne_eq (guid : UInt64) :
    s.requestOne a line guid =
      ({ s with
          guidRequestReferenceMap :=
            if s.references.requestPlayerFightDataFromLocate guid = none then
              Function.update s.guidRequestReferenceMap guid
                (some ((s.guidRequestReferenceMap guid).getD [] ++ [a]))
            else s.guidRequestReferenceMap
          sceneAsked := s.sceneAsked ++ [guid].filter (s.Asks line (.scene true) ·)
          loads := s.loads ++ [guid].filter (s.Asks line .offline ·)
          answers :=
            match (s.infoOf line guid).entry.answer with
            | some success => (s.setAnswer a guid success).answers
            | none => s.answers
          references := located s.references guid },
        s.infoOf line guid) := by
  unfold requestOne infoOf located Asks
  match hl : s.references.requestPlayerFightDataFromLocate guid with
  | some guidVec => simp [GuidRequestInfo.entry, hl, setAnswer]
  | none =>
      match hr : s.guidRequestReferenceMap guid with
      | some requests => simp [GuidRequestInfo.entry, hl, hr]
      | none =>
          unfold doRequestOne
          match hq : line guid with
          | .jumping guids => simp [GuidRequestInfo.entry, hl, hr, hq, setAnswer]
          | .offline => simp [GuidRequestInfo.entry, hl, hr, hq]
          | .scene true => simp [GuidRequestInfo.entry, hl, hr, hq]
          | .scene false => simp [GuidRequestInfo.entry, hl, hr, hq, setAnswer]

/-- A round concerns no other player. -/
theorem requestOne_other {guid g : UInt64} (hg : g ≠ guid) :
    (s.requestOne a line guid).1.guidRequestReferenceMap g = s.guidRequestReferenceMap g ∧
    (s.requestOne a line guid).1.references.requestPlayerFightDataFromLocate g =
      s.references.requestPlayerFightDataFromLocate g := by
  rw [requestOne_eq]
  dsimp only
  refine ⟨?_, locate_located s.references guid g⟩
  split
  · rw [Function.update_of_ne hg]
  · rfl

theorem infoOf_congr {s s' : SceneRequestImp} {guid : UInt64}
    (hr : s'.guidRequestReferenceMap guid = s.guidRequestReferenceMap guid)
    (hl : s'.references.requestPlayerFightDataFromLocate guid =
      s.references.requestPlayerFightDataFromLocate guid) (line : UInt64 → Located) :
    s'.infoOf line guid = s.infoOf line guid := by
  unfold infoOf
  rw [hr, hl]

theorem asks_congr {s s' : SceneRequestImp} {guid : UInt64}
    (hr : s'.guidRequestReferenceMap guid = s.guidRequestReferenceMap guid)
    (hl : s'.references.requestPlayerFightDataFromLocate guid =
      s.references.requestPlayerFightDataFromLocate guid) (line : UInt64 → Located)
    (l : Located) : s'.Asks line l guid ↔ s.Asks line l guid := by
  unfold Asks
  rw [hr, hl]

/-- **The loop of a new request** in closed form: what it notes, whom it joins or
asks, and the references it counts. -/
theorem doRequest_eq (guids : List UInt64) (hn : guids.Nodup) :
    ∃ shared answers,
      doRequestPlayerFightData a line guids s =
        ({ s with
            guidRequestReferenceMap := shared
            sceneAsked := s.sceneAsked ++ guids.filter (s.Asks line (.scene true) ·)
            loads := s.loads ++ guids.filter (s.Asks line .offline ·)
            answers := answers
            references := guids.foldl located s.references },
          guids.map (s.infoOf line)) ∧
      (∀ g, shared g =
        if g ∈ guids ∧ s.references.requestPlayerFightDataFromLocate g = none then
          some ((s.guidRequestReferenceMap g).getD [] ++ [a])
        else s.guidRequestReferenceMap g) ∧
      (∀ b g, answers b g =
        if b = a ∧ g ∈ guids ∧ (s.infoOf line g).entry.answer ≠ none then
          (s.infoOf line g).entry.answer
        else s.answers b g) := by
  induction guids generalizing s with
  | nil => exact ⟨s.guidRequestReferenceMap, s.answers, by simp [doRequestPlayerFightData],
      by simp, by simp⟩
  | cons guid rest ih =>
      obtain ⟨hnot, hn'⟩ := List.nodup_cons.mp hn
      have hone := s.requestOne_eq a line guid
      have hother : ∀ g ∈ rest, g ≠ guid := fun g hg he => hnot (he ▸ hg)
      obtain ⟨shared, answers, heq, hshared, hans⟩ := ih (s.requestOne a line guid).1 hn'
      have hinfo : ∀ g ∈ rest, (s.requestOne a line guid).1.infoOf line g = s.infoOf line g := by
        intro g hg
        obtain ⟨hr, hl⟩ := s.requestOne_other a line (hother g hg)
        exact infoOf_congr hr hl line
      have hfilter : ∀ l, rest.filter ((s.requestOne a line guid).1.Asks line l ·) =
          rest.filter (s.Asks line l ·) := by
        intro l
        refine List.filter_congr ?_
        intro g hg
        obtain ⟨hr, hl⟩ := s.requestOne_other a line (hother g hg)
        exact decide_eq_decide.mpr (asks_congr hr hl line l)
      refine ⟨shared, answers, ?_, ?_, ?_⟩
      · rw [doRequestPlayerFightData]
        dsimp only
        rw [heq, hfilter, hfilter, List.map_congr_left hinfo, hone]
        simp only [List.append_assoc, List.foldl_cons, List.map_cons]
        rw [← List.filter_append, ← List.filter_append, List.singleton_append]
      · intro g
        rw [hshared g]
        by_cases hg : g = guid
        · -- the round that asks for the player
          subst hg
          rw [if_neg (fun hc => hnot hc.1), hone]
          dsimp only
          by_cases hl : s.references.requestPlayerFightDataFromLocate g = none
          · rw [if_pos hl, if_pos ⟨List.mem_cons_self .., hl⟩, Function.update_self]
          · rw [if_neg hl, if_neg (fun hc => hl hc.2)]
        · obtain ⟨hr, hl⟩ := s.requestOne_other a line hg
          rw [hr, hl]
          simp [hg]
      · intro b g
        rw [hans b g]
        by_cases hg : g = guid
        · subst hg
          rw [if_neg (fun hc => hnot hc.2.1), hone]
          dsimp only
          rcases hans' : (s.infoOf line g).entry.answer with _ | success
          · simp
          · unfold setAnswer
            dsimp only
            by_cases hb : b = a
            · subst hb
              simp
            · rw [Function.update_of_ne hb]
              simp [hb]
        · have hsame : (s.requestOne a line guid).1.answers b g = s.answers b g := by
            rw [hone]
            dsimp only
            rcases (s.infoOf line guid).entry.answer with _ | success
            · rfl
            · unfold setAnswer
              dsimp only
              by_cases hb : b = a
              · subst hb
                rw [Function.update_self, Function.update_of_ne hg]
              · rw [Function.update_of_ne hb]
          by_cases hmem : g ∈ rest
          · rw [hinfo g hmem, hsame]
            simp [hg, hmem]
          · rw [hsame]
            simp [hg, hmem]

@[simp] theorem infoOf_guid (guid : UInt64) : (s.infoOf line guid).entry.guid = guid := by
  unfold infoOf
  split
  · rfl
  · split <;> rfl

/-- Who is not answered at once was not in the pool. -/
theorem locate_of_unanswered {guid : UInt64} (h : (s.infoOf line guid).entry.answer = none) :
    s.references.requestPlayerFightDataFromLocate guid = none := by
  unfold infoOf at h
  match hl : s.references.requestPlayerFightDataFromLocate guid with
  | some guidVec =>
      rw [hl] at h
      exact absurd h (by simp [GuidRequestInfo.entry])
  | none => rfl

/-- A request that joins a question waits for the answer. -/
theorem unanswered_of_joined {guid : UInt64} {requests : List Nat}
    (hl : s.references.requestPlayerFightDataFromLocate guid = none)
    (hr : s.guidRequestReferenceMap guid = some requests) :
    (s.infoOf line guid).entry.answer = none := by
  unfold infoOf
  rw [hl, hr]
  rfl

/-- A request that sends a question waits for the answer. -/
theorem unanswered_of_asks {guid : UInt64}
    (h : s.Asks line (.scene true) guid ∨ s.Asks line .offline guid) :
    (s.infoOf line guid).entry.answer = none := by
  unfold infoOf
  match h with
  | Or.inl ⟨hl, hr, hq⟩ =>
      rw [hl, hr, hq]
      rfl
  | Or.inr ⟨hl, hr, hq⟩ =>
      rw [hl, hr, hq]
      rfl

/-- **A new request** whose id is free: its questions, then its completion. -/
theorem acceptRequest_eq (guids : List UInt64) (hn : guids.Nodup)
    (hfree : s.dataRequestIdInfoMap s.getRequestId = none) :
    ∃ shared answers s',
      s' = { s with
        requestIdIndex := s.requestIdIndex + 1
        nextObject := s.nextObject + 1
        accepted := s.accepted ++ [Accepted.mk s.nextObject s.getRequestId guids]
        guidRequestReferenceMap := shared
        sceneAsked := s.sceneAsked ++ guids.filter (s.Asks line (.scene true) ·)
        loads := s.loads ++ guids.filter (s.Asks line .offline ·)
        answers := answers
        references := guids.foldl located s.references
        objects := Function.update s.objects s.nextObject
          (some { reqId := s.getRequestId, guidReqInfoMap := guids.map (s.infoOf line) })
        dataRequestIdInfoMap :=
          Function.update s.dataRequestIdInfoMap s.getRequestId (some s.nextObject) } ∧
      s.acceptRequest guids line = s'.complateDataRequest s.nextObject ∧
      (∀ g, shared g =
        if g ∈ guids ∧ s.references.requestPlayerFightDataFromLocate g = none then
          some ((s.guidRequestReferenceMap g).getD [] ++ [s.nextObject])
        else s.guidRequestReferenceMap g) ∧
      (∀ b g, answers b g =
        if b = s.nextObject ∧ g ∈ guids ∧ (s.infoOf line g).entry.answer ≠ none then
          (s.infoOf line g).entry.answer
        else s.answers b g) := by
  obtain ⟨shared, answers, heq, hshared, hans⟩ := doRequest_eq
    { s with
      requestIdIndex := s.requestIdIndex + 1
      nextObject := s.nextObject + 1
      accepted := s.accepted ++ [Accepted.mk s.nextObject s.getRequestId guids] }
    s.nextObject line guids hn
  refine ⟨shared, answers, _, rfl, ?_, hshared, hans⟩
  unfold acceptRequest
  dsimp only
  rw [heq]
  unfold addRequestInfo
  dsimp only
  rw [hfree]
  rfl

/-- A new request is pending with its entries. -/
theorem pending_posted {s s' : SceneRequestImp} {line : UInt64 → Located} {guids : List UInt64}
    {b : Nat} {reqId : UInt32} (h : s'.objects = Function.update s.objects b
      (some { reqId, guidReqInfoMap := guids.map (s.infoOf line) })) :
    s'.pending b = some { reqId, entries := guids.map fun g => (s.infoOf line g).entry } := by
  unfold pending
  rw [h, Function.update_self]
  unfold DataRequestInfo.pending
  simp only [Option.map_some, List.map_map]
  rfl

/-- The other requests stay as they are. -/
theorem pending_of_ne {s s' : SceneRequestImp} {b c : Nat} {d : Option DataRequestInfo}
    (h : s'.objects = Function.update s.objects b d) (hc : c ≠ b) :
    s'.pending c = s.pending c := by
  unfold pending
  rw [h, Function.update_of_ne hc]

end SceneRequestImp

namespace Linked

variable {s s' : SceneRequestImp}

/-- **Posting a request** with a free id keeps the links. -/
theorem posted (h : Linked s []) {guids : List UInt64} {line : UInt64 → Located}
    (hn : guids.Nodup) (hfree : s.dataRequestIdInfoMap s.getRequestId = none)
    {shared : UInt64 → Option (List Nat)} {answers : Nat → UInt64 → Option Bool}
    (hs' : s' = { s with
      requestIdIndex := s.requestIdIndex + 1
      nextObject := s.nextObject + 1
      accepted := s.accepted ++ [Accepted.mk s.nextObject s.getRequestId guids]
      guidRequestReferenceMap := shared
      sceneAsked := s.sceneAsked ++ guids.filter (s.Asks line (.scene true) ·)
      loads := s.loads ++ guids.filter (s.Asks line .offline ·)
      answers := answers
      references := guids.foldl SceneRequestImp.located s.references
      objects := Function.update s.objects s.nextObject
        (some { reqId := s.getRequestId, guidReqInfoMap := guids.map (s.infoOf line) })
      dataRequestIdInfoMap :=
        Function.update s.dataRequestIdInfoMap s.getRequestId (some s.nextObject) })
    (hshared : ∀ g, shared g =
      if g ∈ guids ∧ s.references.requestPlayerFightDataFromLocate g = none then
        some ((s.guidRequestReferenceMap g).getD [] ++ [s.nextObject])
      else s.guidRequestReferenceMap g)
    (hans : ∀ b g, answers b g =
      if b = s.nextObject ∧ g ∈ guids ∧ (s.infoOf line g).entry.answer ≠ none then
        (s.infoOf line g).entry.answer
      else s.answers b g) :
    Linked s' [s.nextObject] := by
  have hnew : s'.pending s.nextObject =
      some { reqId := s.getRequestId
             entries := guids.map fun g => (s.infoOf line g).entry } := by
    exact SceneRequestImp.pending_posted (by rw [hs'])
  have hold : ∀ b, b ≠ s.nextObject → s'.pending b = s.pending b := by
    intro b hb
    exact SceneRequestImp.pending_of_ne (by rw [hs']) hb
  have hwaitsNew : ∀ g, s'.Waits s.nextObject g ↔
      g ∈ guids ∧ (s.infoOf line g).entry.answer = none := by
    intro g
    unfold SceneRequestImp.Waits
    rw [hnew]
    simp only [Option.some.injEq, exists_eq_left', List.mem_map]
    refine ⟨?_, ?_⟩
    · intro hw
      obtain ⟨e, ⟨g', hg', rfl⟩, hgg, hnone⟩ := hw
      rw [SceneRequestImp.infoOf_guid] at hgg
      exact ⟨hgg ▸ hg', hgg ▸ hnone⟩
    · intro hw
      exact ⟨_, ⟨g, hw.1, rfl⟩, SceneRequestImp.infoOf_guid .., hw.2⟩
  have hwaitsOld : ∀ b g, b ≠ s.nextObject → (s'.Waits b g ↔ s.Waits b g) :=
    fun b g hb => SceneRequestImp.Waits.of_pending (hold b hb)
  have hlt : ∀ b p, s.pending b = some p → b ≠ s.nextObject := by
    intro b p hb hba
    have := h.bounded b p hb
    omega
  have hwlt : ∀ b g, s.Waits b g → b ≠ s.nextObject := by
    intro b g hw
    obtain ⟨p, hp, -⟩ := hw
    exact hlt b p hp
  -- who is asked for now was not asked for before
  have hasks : ∀ l g, g ∈ guids.filter (s.Asks line l ·) → g ∉ s.inFlight := by
    intro l g hg hmem
    obtain ⟨-, hr, -⟩ := of_decide_eq_true (List.mem_filter.mp hg).2
    obtain ⟨requests, hreq, -⟩ := h.asked g hmem
    rw [hr] at hreq
    exact absurd hreq (by simp)
  have hperm : s'.inFlight.Perm
      (s.inFlight ++ (guids.filter (s.Asks line (.scene true) ·) ++
        guids.filter (s.Asks line .offline ·))) := by
    rw [hs']
    unfold SceneRequestImp.inFlight
    dsimp only
    rw [List.append_assoc, List.append_assoc]
    refine List.Perm.append_left _ ?_
    rw [← List.append_assoc, ← List.append_assoc]
    exact List.perm_append_comm.append_right _
  have hmemNew : ∀ g, g ∈ s'.inFlight ↔ g ∈ s.inFlight ∨
      (g ∈ guids ∧ (s.Asks line (.scene true) g ∨ s.Asks line .offline g)) := by
    intro g
    rw [hperm.mem_iff]
    simp only [List.mem_append, List.mem_filter, decide_eq_true_eq]
    tauto
  refine ⟨List.nodup_singleton _, ?_, ?_, ?_, ?_, ?_, ?_, ?_, ?_, ?_, ?_, ?_⟩
  · intro b hb
    rw [List.mem_singleton.mp hb, hnew]
    exact Option.some_ne_none _
  · rw [hs']
    exact h.safe
  · intro b p hp
    have hnext : s'.nextObject = s.nextObject + 1 := by rw [hs']
    rw [hnext]
    by_cases hb : b = s.nextObject
    · omega
    · rw [hold b hb] at hp
      have := h.bounded b p hp
      omega
  · intro b p hp
    rw [show s'.dataRequestIdInfoMap =
      Function.update s.dataRequestIdInfoMap s.getRequestId (some s.nextObject) by rw [hs']]
    by_cases hb : b = s.nextObject
    · rw [hb, hnew] at hp
      obtain rfl := Option.some.inj hp
      rw [Function.update_self, hb]
    · rw [hold b hb] at hp
      have hreg := h.registered b p hp
      have hid : p.reqId ≠ s.getRequestId := by
        intro hid
        rw [hid, hfree] at hreg
        exact absurd hreg (by simp)
      rw [Function.update_of_ne hid]
      exact hreg
  · intro b p hp
    by_cases hb : b = s.nextObject
    · rw [hb, hnew] at hp
      obtain rfl := Option.some.inj hp
      have hguids : guids.map (Entry.guid ∘ fun g => (s.infoOf line g).entry) = guids :=
        (List.map_congr_left fun g _ => s.infoOf_guid line g).trans (List.map_id guids)
      unfold Pending.guids
      rw [List.map_map, hguids]
      exact hn
    · rw [hold b hb] at hp
      exact h.guidsNodup b p hp
  · intro b p hp hb
    have hb' : b ≠ s.nextObject := by simpa using hb
    rw [hold b hb'] at hp
    exact h.unfinished b p hp (by simp)
  · rw [hperm.nodup_iff, List.nodup_append, List.nodup_append]
    refine ⟨h.flight, ⟨hn.filter _, hn.filter _, ?_⟩, ?_⟩
    · intro g hg g' hg' heq
      obtain ⟨-, -, hq⟩ := of_decide_eq_true (List.mem_filter.mp hg).2
      obtain ⟨-, -, hq'⟩ := of_decide_eq_true (List.mem_filter.mp hg').2
      rw [heq, hq'] at hq
      exact absurd hq (by simp)
    · intro g hg g' hg' heq
      match List.mem_append.mp hg' with
      | Or.inl hf => exact hasks _ g' hf (heq ▸ hg)
      | Or.inr hf => exact hasks _ g' hf (heq ▸ hg)
  · intro g hg
    have hshare : s'.guidRequestReferenceMap g = shared g := by rw [hs']
    rw [hshare, hshared g]
    match (hmemNew g).mp hg with
    | Or.inl hmem =>
        obtain ⟨requests, hreq, hnil, hnd, hw⟩ := h.asked g hmem
        have hw' : ∀ b ∈ requests, s'.Waits b g :=
          fun b hb => (hwaitsOld b g (hwlt b g (hw b hb))).mpr (hw b hb)
        by_cases hc : g ∈ guids ∧ s.references.requestPlayerFightDataFromLocate g = none
        · -- the request joins the others
          rw [if_pos hc, hreq]
          refine ⟨requests ++ [s.nextObject], rfl, by simp, ?_, ?_⟩
          · refine List.nodup_append.mpr ⟨hnd, List.nodup_singleton _, ?_⟩
            intro b hb b' hb'
            rw [List.mem_singleton.mp hb']
            exact hwlt b g (hw b hb)
          · intro b hb
            match List.mem_append.mp hb with
            | Or.inl hb' => exact hw' b hb'
            | Or.inr hb' =>
                rw [List.mem_singleton.mp hb']
                exact (hwaitsNew g).mpr ⟨hc.1, s.unanswered_of_joined line hc.2 hreq⟩
        · rw [if_neg hc]
          exact ⟨requests, hreq, hnil, hnd, hw'⟩
    | Or.inr ⟨hmem, hask⟩ =>
        have hlr : s.references.requestPlayerFightDataFromLocate g = none ∧
            s.guidRequestReferenceMap g = none := by
          match hask with
          | Or.inl hq => exact ⟨hq.1, hq.2.1⟩
          | Or.inr hq => exact ⟨hq.1, hq.2.1⟩
        rw [if_pos ⟨hmem, hlr.1⟩, hlr.2]
        refine ⟨[s.nextObject], rfl, by simp, List.nodup_singleton _, ?_⟩
        intro b hb
        rw [List.mem_singleton.mp hb]
        exact (hwaitsNew g).mpr ⟨hmem, s.unanswered_of_asks line hask⟩
  · intro b g hw
    have hshare : s'.guidRequestReferenceMap g = shared g := by rw [hs']
    rw [hshare, hshared g]
    by_cases hb : b = s.nextObject
    · rw [hb] at hw
      obtain ⟨hmem, hnone⟩ := (hwaitsNew g).mp hw
      rw [if_pos ⟨hmem, s.locate_of_unanswered line hnone⟩, hb]
      exact ⟨_, rfl, by simp⟩
    · obtain ⟨requests, hreq, hmem⟩ := h.enlisted b g ((hwaitsOld b g hb).mp hw)
      split
      · rw [hreq]
        exact ⟨_, rfl, List.mem_append.mpr (Or.inl hmem)⟩
      · exact ⟨requests, hreq, hmem⟩
  · intro b p hp e he
    rw [show s'.answers = answers by rw [hs'], hans b e.guid]
    by_cases hb : b = s.nextObject
    · rw [hb, hnew] at hp
      obtain rfl := Option.some.inj hp
      obtain ⟨g, hg, rfl⟩ := List.mem_map.mp he
      rw [SceneRequestImp.infoOf_guid]
      by_cases hnone : (s.infoOf line g).entry.answer = none
      · rw [if_neg (fun hc => hc.2.2 hnone), hnone]
        exact h.unused b g (by omega)
      · rw [if_pos ⟨hb, hg, hnone⟩]
    · rw [if_neg (fun hc => hb hc.1)]
      rw [hold b hb] at hp
      exact h.answered b p hp e he
  · intro b g hle
    have hnext : s'.nextObject = s.nextObject + 1 := by rw [hs']
    rw [hnext] at hle
    rw [show s'.answers = answers by rw [hs'], hans b g, if_neg (fun hc => by omega)]
    exact h.unused b g (by omega)

/-- **A new request** whose id is free keeps the links. -/
theorem accept (h : Linked s []) {guids : List UInt64} (line : UInt64 → Located)
    (hn : guids.Nodup) (hfree : s.dataRequestIdInfoMap s.getRequestId = none) :
    Linked (s.acceptRequest guids line) [] := by
  obtain ⟨shared, answers, s', hs', heq, hshared, hans⟩ := s.acceptRequest_eq line guids hn hfree
  rw [heq]
  exact (h.posted hn hfree hs' hshared hans).complate

end Linked

theorem validGuids_nodup {guids : List UInt64} (h : validGuids guids = true) : guids.Nodup := by
  unfold validGuids at h
  simp only [Bool.and_eq_true, decide_eq_true_eq] at h
  exact h.2

/-- What completing requests leaves of the questions and their entries. -/
theorem foldl_complate_frame {s : SceneRequestImp} {todo : List Nat} (h : Linked s todo) :
    (todo.foldl SceneRequestImp.complateDataRequest s).inFlight = s.inFlight ∧
    (todo.foldl SceneRequestImp.complateDataRequest s).guidRequestReferenceMap =
      s.guidRequestReferenceMap := by
  refine (h.complateAll
    (P := fun t => t.inFlight = s.inFlight ∧
      t.guidRequestReferenceMap = s.guidRequestReferenceMap) ?_ ⟨rfl, rfl⟩).2
  intro t a todo ht hP
  obtain ⟨hasked, hloads, hmap, -⟩ := ht.complate_frame
  refine ⟨?_, hmap.trans hP.2⟩
  rw [← hP.1]
  unfold SceneRequestImp.inFlight
  rw [hasked, hloads]

/-! ## §8. Every step. -/

/-- The id of a request that is accepted is not the id of an open one. -/
def FreshId (s : SceneRequestImp) : Act → Prop
  | .request guids _ => validGuids guids → s.dataRequestIdInfoMap s.getRequestId = none
  | _ => True

/-- The player a step answers, and with what. -/
def Act.answers (s : SceneRequestImp) : Act → Option (UInt64 × Option CollectMsgInfo)
  | .sceneBack i info => (s.sceneAsked[i]?).map fun guid => (guid, info)
  | .cacheBack i info => (s.loads[i]?).map fun guid => (guid, info)
  | _ => none

/-- **What a step does**: nothing, a new request, an answer, or the question goes
to the cache. -/
theorem step_cases {s s' : SceneRequestImp} {a : Act} (hid : FreshId s a)
    (hst : step s a = some s') :
    s' = s ∨
    (∃ guids line, a = .request guids line ∧ validGuids guids = true ∧
      s.dataRequestIdInfoMap s.getRequestId = none ∧ s' = s.acceptRequest guids line) ∨
    (∃ guid info sceneAsked loads, a.answers s = some (guid, info) ∧
      (guid :: (sceneAsked ++ loads)).Perm s.inFlight ∧
      s' = SceneRequestImp.playerFightDataBack
        { s with sceneAsked := sceneAsked, loads := loads } guid info) ∨
    (∃ guid sceneAsked loads, a.answers s = none ∧
      (guid :: (sceneAsked ++ loads)).Perm s.inFlight ∧
      s' = SceneRequestImp.playerFightDataBackFromSceneFailed
        { s with sceneAsked := sceneAsked, loads := loads } guid) := by
  match a with
  | .request guids line =>
      have hst' : (s.requestPlayerFightData guids line).1 = s' := Option.some.inj hst
      unfold SceneRequestImp.requestPlayerFightData at hst'
      by_cases hv : validGuids guids = true
      · rw [if_pos hv] at hst'
        exact Or.inr (Or.inl ⟨guids, line, rfl, hv, hid hv, hst'.symm⟩)
      · rw [if_neg hv] at hst'
        exact Or.inl hst'.symm
  | .sceneBack i info =>
      obtain ⟨guid, hg, heq⟩ := Option.map_eq_some_iff.mp (show (s.sceneAsked[i]?).map _ = _ from hst)
      refine Or.inr (Or.inr (Or.inl ⟨guid, info, s.sceneAsked.eraseIdx i, s.loads, ?_, ?_, ?_⟩))
      · show (s.sceneAsked[i]?).map _ = _
        rw [hg]
        rfl
      · exact perm_eraseIdx_left hg
      · exact heq.symm
  | .sceneBackFailed i =>
      obtain ⟨guid, hg, heq⟩ := Option.map_eq_some_iff.mp (show (s.sceneAsked[i]?).map _ = _ from hst)
      exact Or.inr (Or.inr (Or.inr ⟨guid, s.sceneAsked.eraseIdx i, s.loads, rfl,
        perm_eraseIdx_left hg, heq.symm⟩))
  | .cacheBack i info =>
      obtain ⟨guid, hg, heq⟩ := Option.map_eq_some_iff.mp (show (s.loads[i]?).map _ = _ from hst)
      refine Or.inr (Or.inr (Or.inl ⟨guid, info, s.sceneAsked, s.loads.eraseIdx i, ?_, ?_, ?_⟩))
      · show (s.loads[i]?).map _ = _
        rw [hg]
        rfl
      · exact perm_eraseIdx_right hg
      · exact heq.symm

/-- **Every step keeps the links**, as long as ids are fresh. -/
theorem Linked.step {s s' : SceneRequestImp} {a : Act} (h : Linked s []) (hid : FreshId s a)
    (hst : Fight.step s a = some s') : Linked s' [] := by
  match step_cases hid hst with
  | Or.inl heq =>
      rw [heq]
      exact h
  | Or.inr (Or.inl ⟨guids, line, _, hv, hfree, heq⟩) =>
      rw [heq]
      exact h.accept line (validGuids_nodup hv) hfree
  | Or.inr (Or.inr (Or.inl ⟨guid, info, sceneAsked, loads, _, hp, heq⟩)) =>
      rw [heq]
      obtain ⟨htaken, hnot, requests, hreq, -, hn, hw⟩ := h.taken hp
      exact htaken.answer info hreq hn hw hnot
  | Or.inr (Or.inr (Or.inr ⟨guid, sceneAsked, loads, _, hp, heq⟩)) =>
      rw [heq]
      exact h.sceneFailed hp

end Steppingstone.Fight
