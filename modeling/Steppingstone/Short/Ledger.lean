/-
  Steppingstone.Short.Ledger — what is granted, acknowledged and pending.

  A run is made of grants, item pick-ups, logins, logouts and answers to
  announcements that are still out, in any order.  Two ghost tallies record
  what was granted and what was acknowledged (answered with result 1); the
  ledger says that the stored record is their difference and that its three
  item lists describe the same grants.
-/
import Mathlib.Tactic.Ring
import Mathlib.Algebra.BigOperators.Group.List.Basic
import Steppingstone.Lib.TransSys
import Steppingstone.Short.Reward

namespace Steppingstone.Short

/-! ## §1. Amounts. -/

/-- What a reward has amounts of. -/
inductive Currency where
  | money | coin | seniority | prestige | reverence | energy
  deriving Repr, DecidableEq

/-- The values the currency's field can hold. -/
def Currency.Fits : Currency → Int → Prop
  | money, x | coin, x | seniority, x => -2 ^ 31 ≤ x ∧ x < 2 ^ 31
  | prestige, x | reverence, x | energy, x => 0 ≤ x ∧ x < 2 ^ 32

/-- The amounts of the cached reward. -/
def RewardInfo.amount (r : RewardInfo) : Currency → Int
  | .money => r.money.toInt
  | .coin => r.coin.toInt
  | .seniority => r.seniority.toInt
  | .prestige => r.prestige.toNat
  | .reverence => r.reverence.toNat
  | .energy => r.energy.toNat

/-- The amounts of a grant. -/
def LineUpdateReward.amount (g : LineUpdateReward) : Currency → Int
  | .money => g.money.toInt
  | .coin => g.coin.toInt
  | .seniority => g.seniority.toInt
  | .prestige => g.prestige.toNat
  | .reverence => g.reverence.toNat
  | .energy => g.energy.toNat

/-- The amounts of an acknowledgement. -/
def UpdateReward.amount (m : UpdateReward) : Currency → Int
  | .money => m.money.toInt
  | .coin => m.coin.toInt
  | .seniority => m.seniority.toInt
  | .prestige => m.prestige.toNat
  | .reverence => m.reverence.toNat
  | .energy => m.energy.toNat

/-- How much of the item a list of (id, number) pairs holds. -/
def itemAmount (items : List (UInt32 × UInt32)) (id : UInt32) : Int :=
  (items.map (fun e => if e.1 = id then (e.2.toNat : Int) else 0)).sum

/-! ## §2. The system. -/

/-- The line scene's record of one player, the announcements that are not
answered yet, and the ghost tallies. -/
structure World where
  reward : RewardInfo
  isOnline : Bool
  outstanding : List UpdateReward
  granted : Currency → Int
  acked : Currency → Int
  grantedItem : UInt32 → Int
  ackedItem : UInt32 → Int
  /-- Every item grant so far: id, number, source. -/
  itemGrants : List (UInt32 × UInt32 × UInt32)

/-- The entries of the three parallel lists. -/
def RewardInfo.entries (r : RewardInfo) : List (UInt32 × UInt32 × UInt32) :=
  r.itemId.zip (r.itemNum.zip r.sourceFrom)

/-- A stored record that counts as granted and not acknowledged. -/
def World.initial (r : RewardInfo) (isOnline : Bool) : World where
  reward := r
  isOnline := isOnline
  outstanding := []
  granted := r.amount
  acked := fun _ => 0
  grantedItem := itemAmount (r.itemId.zip r.itemNum)
  ackedItem := fun _ => 0
  itemGrants := r.entries

/-- What can happen.  `fuel` bounds the inner loop of a pick-up, `i` names the
announcement that is answered. -/
inductive Act where
  | grant (g : LineUpdateReward)
  | pickUp (m : PickUp) (fuel : Nat)
  | login
  | logout
  | answer (i : Nat) (result : UInt32)
  deriving Repr

/-- One message; a pick-up must return. -/
def step (w : World) : Act → Option World
  | .grant g =>
      let (r, sent) := plmsgLineUpdateReward w.reward w.isOnline g
      some { w with
        reward := r
        outstanding := w.outstanding ++ sent
        granted := if g.accepted then fun c => w.granted c + g.amount c else w.granted }
  | .pickUp m fuel =>
      (plmsgPickUp fuel w.reward m).map fun (r, sent) =>
        if m.itemId.length = m.itemNum.length then
          { w with
            reward := r
            outstanding := w.outstanding ++ sent
            grantedItem := fun id =>
              w.grantedItem id + itemAmount (m.itemId.zip m.itemNum) id
            itemGrants := w.itemGrants ++
              (m.itemId.zip m.itemNum).map (fun e => (e.1, e.2, m.sourceFrom)) }
        else { w with reward := r, outstanding := w.outstanding ++ sent }
  | .login =>
      some { w with
        isOnline := true
        outstanding := w.outstanding ++ nlmsgPlayerIsOnline w.reward }
  | .logout => some { w with isOnline := false }
  | .answer i result =>
      match w.outstanding[i]? with
      | none => none
      | some m =>
          some { w with
            reward := stolUpdateReward w.reward m result
            outstanding := w.outstanding.eraseIdx i
            acked := if result = 1 then fun c => w.acked c + m.amount c else w.acked
            ackedItem :=
              if result = 1 then fun id => w.ackedItem id + itemAmount (m.itemId.zip m.itemNum) id
              else w.ackedItem }

/-- The three item lists have one length. -/
def RewardInfo.Parallel (r : RewardInfo) : Prop :=
  r.itemId.length = r.itemNum.length ∧ r.itemNum.length = r.sourceFrom.length

/-- Runs start from a stored record with parallel lists. -/
def rewardSystem : TransSys World Act where
  init w := ∃ r isOnline, r.Parallel ∧ w = World.initial r isOnline
  step := step

/-! ## §3. The ledger. -/

/-- **The ledger**: pending is granted minus acknowledged, for every currency
and every item, and entry `i` of the three lists describes one grant. -/
structure Ledger (w : World) : Prop where
  currency : ∀ c, w.reward.amount c = w.granted c - w.acked c
  item : ∀ id, itemAmount (w.reward.itemId.zip w.reward.itemNum) id
    = w.grantedItem id - w.ackedItem id
  parallel : w.reward.Parallel
  described : ∀ e ∈ w.reward.entries, ∃ g ∈ w.itemGrants,
    e.1 = g.1 ∧ e.2.1 ≤ g.2.1 ∧ e.2.2 = g.2.2

/-- The item numbers of the pairs are all zero. -/
def NoItems (items : List (UInt32 × UInt32)) : Prop :=
  ∀ e ∈ items, e.2 = 0

/-- **When a step settles**: a condition on the state before it. -/
def Settles (w : World) : Act → Prop
  | .grant g => g.accepted = true → ∀ c : Currency, c.Fits (w.reward.amount c + g.amount c)
  | .pickUp m _ => m.itemId.length = m.itemNum.length → NoItems (m.itemId.zip m.itemNum)
  | .login => True
  | .logout => True
  | .answer i result => result = 1 → ∀ m, w.outstanding[i]? = some m →
      (∀ c, w.reward.amount c = m.amount c) ∧ w.reward.itemId = [] ∧
        NoItems (m.itemId.zip m.itemNum)

/-! ## §4. Sums of items. -/

theorem itemAmount_nonneg (items : List (UInt32 × UInt32)) (id : UInt32) :
    0 ≤ itemAmount items id := by
  induction items with
  | nil => simp [itemAmount]
  | cons e items ih =>
      unfold itemAmount at ih ⊢
      rw [List.map_cons, List.sum_cons]
      split <;> omega

theorem itemAmount_cons (e : UInt32 × UInt32) (items : List (UInt32 × UInt32)) (id : UInt32) :
    itemAmount (e :: items) id
      = (if e.1 = id then (e.2.toNat : Int) else 0) + itemAmount items id := by
  unfold itemAmount
  rw [List.map_cons, List.sum_cons]

/-- Numbers that are all zero are what sums to zero for every item. -/
theorem noItems_iff {items : List (UInt32 × UInt32)} :
    NoItems items ↔ ∀ id, itemAmount items id = 0 := by
  induction items with
  | nil => exact ⟨fun _ _ => rfl, fun _ e he => absurd he List.not_mem_nil⟩
  | cons e items ih =>
      have hsplit : NoItems (e :: items) ↔ e.2 = 0 ∧ NoItems items := by
        simp [NoItems]
      rw [hsplit, ih]
      constructor
      · rintro ⟨he, h⟩ id
        rw [itemAmount_cons, h id, he]
        simp
      · intro h
        have hzero : e.2.toNat = 0 := by
          have h1 := h e.1
          rw [itemAmount_cons, if_pos rfl] at h1
          have := itemAmount_nonneg items e.1
          omega
        refine ⟨UInt32.toNat_inj.mp hzero, fun id => ?_⟩
        have h1 := h id
        rw [itemAmount_cons, hzero] at h1
        simpa using h1

/-! ## §5. The handlers on the ledger's terms. -/

theorem saveReward_amount_iff (r : RewardInfo) (g : LineUpdateReward) (c : Currency) :
    (saveReward r g).amount c = r.amount c + g.amount c ↔ c.Fits (r.amount c + g.amount c) := by
  have signed : ∀ a b : Int32, (a + b).toInt = a.toInt + b.toInt ↔
      -2 ^ 31 ≤ a.toInt + b.toInt ∧ a.toInt + b.toInt < 2 ^ 31 := by
    intro a b
    rw [Int32.toInt_add, Int.bmod_def]
    split <;> omega
  have unsigned : ∀ a b : UInt32, ((a + b).toNat : Int) = a.toNat + b.toNat ↔
      0 ≤ (a.toNat : Int) + b.toNat ∧ (a.toNat : Int) + b.toNat < 2 ^ 32 := by
    intro a b
    rw [UInt32.toNat_add]
    omega
  cases c
  case money => exact signed r.money g.money
  case coin => exact signed r.coin g.coin
  case seniority => exact signed r.seniority g.seniority
  case prestige => exact unsigned r.prestige g.prestige
  case reverence => exact unsigned r.reverence g.reverence
  case energy => exact unsigned r.energy g.energy

/-- An answer with result 1 leaves nothing pending of any currency. -/
theorem stolUpdateReward_amount (r : RewardInfo) (m : UpdateReward) (c : Currency) :
    (stolUpdateReward r m 1).amount c = 0 := by
  cases c <;> simp [stolUpdateReward, rebuildItems, RewardInfo.amount]

/-- Once an entry lies ahead of `j`, every turn of the inner loop adds another. -/
theorem pickUpLoop_never_returns {id num source : UInt32} (fuel : Nat) {j : Nat}
    {r : RewardInfo} (hj : j < r.itemId.length) :
    pickUpLoop id num source fuel j r = none := by
  induction fuel generalizing j r with
  | zero => rfl
  | succ fuel ih =>
      rw [pickUpLoop, if_pos hj]
      refine ih ?_
      show j + 1 < (r.itemId ++ [id]).length
      rw [List.length_append, List.length_singleton]
      omega

/-- The inner loop returns over an empty list only, and then adds nothing. -/
theorem pickUpLoop_some {id num source : UInt32} {fuel : Nat} {r r' : RewardInfo}
    (h : pickUpLoop id num source fuel 0 r = some r') : r' = r ∧ r.itemId = [] := by
  by_cases hr : 0 < r.itemId.length
  · rw [pickUpLoop_never_returns fuel hr] at h
    cases h
  · cases fuel with
    | zero => cases h
    | succ fuel =>
        rw [pickUpLoop, if_neg hr, Option.some.injEq] at h
        exact ⟨h.symm, List.length_eq_zero_iff.mp (by omega)⟩

theorem pickUpItems_some {source : UInt32} {fuel : Nat} {items : List (UInt32 × UInt32)}
    {r r' : RewardInfo} (h : pickUpItems source fuel items r = some r') :
    r' = r ∧ (items = [] ∨ r.itemId = []) := by
  induction items generalizing r with
  | nil =>
      rw [pickUpItems, Option.some.injEq] at h
      exact ⟨h.symm, .inl rfl⟩
  | cons e items ih =>
      rw [pickUpItems, Option.bind_eq_some_iff] at h
      obtain ⟨m, hm, h⟩ := h
      obtain ⟨rfl, hr⟩ := pickUpLoop_some hm
      exact ⟨(ih h).1, .inr hr⟩

/-- **A pick-up records nothing**: when it returns at all, the stored record is
what it was. -/
theorem plmsgPickUp_some {fuel : Nat} {r r' : RewardInfo} {m : PickUp}
    {sent : List UpdateReward} (h : plmsgPickUp fuel r m = some (r', sent)) : r' = r := by
  unfold plmsgPickUp at h
  split at h
  next =>
      rw [Option.map_eq_some_iff] at h
      obtain ⟨r'', hr, he⟩ := h
      rw [← (pickUpItems_some hr).1, ← (Prod.mk.inj he).1]
  next =>
      rw [Option.some.injEq] at h
      exact (Prod.mk.inj h).1.symm

/-- It returns, with enough fuel, exactly when it has no item or none is pending. -/
theorem pickUpItems_returns_iff {source : UInt32} {items : List (UInt32 × UInt32)}
    {r : RewardInfo} :
    (∃ fuel r', pickUpItems source fuel items r = some r') ↔ items = [] ∨ r.itemId = [] := by
  constructor
  · rintro ⟨fuel, r', h⟩
    exact (pickUpItems_some h).2
  · intro h
    refine ⟨1, r, ?_⟩
    rcases h with rfl | hr
    · rfl
    · induction items with
      | nil => rfl
      | cons e items ih =>
          rw [pickUpItems, pickUpLoop, if_neg (by simp [hr])]
          exact ih

/-- After an answer with result 1 the lists are parallel only if nothing was
listed before: the old sources stay in front of the kept ones. -/
theorem stolUpdateReward_parallel_iff (r : RewardInfo) (m : UpdateReward) :
    (stolUpdateReward r m 1).Parallel ↔ r.sourceFrom = [] := by
  unfold RewardInfo.Parallel stolUpdateReward rebuildItems
  simp only [if_true, List.length_map, List.length_append, true_and]
  rw [← List.length_eq_zero_iff]
  omega

/-- Where nothing is listed, an answer lists nothing. -/
theorem stolUpdateReward_of_nil {r : RewardInfo} (m : UpdateReward) (h : r.itemId = []) :
    (stolUpdateReward r m 1).itemId = [] ∧ (stolUpdateReward r m 1).itemNum = [] := by
  simp [stolUpdateReward, rebuildItems, keptItems, h]

theorem stolUpdateReward_of_ne (r : RewardInfo) (m : UpdateReward) {result : UInt32}
    (h : result ≠ 1) : stolUpdateReward r m result = r := by
  simp [stolUpdateReward, h]

theorem RewardInfo.Parallel.sourceFrom_nil_iff {r : RewardInfo} (h : r.Parallel) :
    r.sourceFrom = [] ↔ r.itemId = [] := by
  rw [← List.length_eq_zero_iff, ← List.length_eq_zero_iff, h.1, h.2]

/-! ## §6. A step keeps the ledger exactly when it settles. -/

theorem grant_ledger_iff {w w' : World} {g : LineUpdateReward} (hl : Ledger w)
    (hst : step w (.grant g) = some w') : Ledger w' ↔ Settles w (.grant g) := by
  simp only [step, plmsgLineUpdateReward, Option.some.injEq] at hst
  by_cases ha : g.accepted = true
  · simp only [ha, if_true] at hst
    subst hst
    have hc : ∀ c, (saveReward w.reward g).amount c = w.granted c + g.amount c - w.acked c ↔
        c.Fits (w.reward.amount c + g.amount c) := by
      intro c
      rw [← saveReward_amount_iff, hl.currency c]
      constructor <;> intro h <;> omega
    constructor
    · intro hl' _ c
      exact (hc c).mp (hl'.currency c)
    · intro hs
      exact ⟨fun c => (hc c).mpr (hs ha c), hl.item, hl.parallel, hl.described⟩
  · simp only [ha] at hst
    subst hst
    constructor
    · intro _ ha'
      exact absurd ha' ha
    · intro _
      exact ⟨hl.currency, hl.item, hl.parallel, hl.described⟩

theorem pickUp_ledger_iff {w w' : World} {m : PickUp} {fuel : Nat} (hl : Ledger w)
    (hst : step w (.pickUp m fuel) = some w') : Ledger w' ↔ Settles w (.pickUp m fuel) := by
  simp only [step, Option.map_eq_some_iff] at hst
  obtain ⟨⟨r, sent⟩, hp, hst⟩ := hst
  obtain rfl := plmsgPickUp_some hp
  by_cases hm : m.itemId.length = m.itemNum.length
  · simp only [hm, if_true] at hst
    subst hst
    have hi : ∀ id, itemAmount (w.reward.itemId.zip w.reward.itemNum) id
        = w.grantedItem id + itemAmount (m.itemId.zip m.itemNum) id - w.ackedItem id ↔
          itemAmount (m.itemId.zip m.itemNum) id = 0 := by
      intro id
      rw [hl.item id]
      constructor <;> intro h <;> omega
    constructor
    · intro hl' _
      exact noItems_iff.mpr fun id => (hi id).mp (hl'.item id)
    · intro hs
      have hz := noItems_iff.mp (hs hm)
      refine ⟨hl.currency, fun id => (hi id).mpr (hz id), hl.parallel, ?_⟩
      intro e he
      obtain ⟨g, hg, hd⟩ := hl.described e he
      exact ⟨g, List.mem_append_left _ hg, hd⟩
  · simp only [hm, if_false] at hst
    subst hst
    constructor
    · intro _ hm'
      exact absurd hm' hm
    · intro _
      exact ⟨hl.currency, hl.item, hl.parallel, hl.described⟩

theorem answer_ledger_iff {w w' : World} {i : Nat} {result : UInt32} (hl : Ledger w)
    (hst : step w (.answer i result) = some w') :
    Ledger w' ↔ Settles w (.answer i result) := by
  simp only [step] at hst
  cases hm : w.outstanding[i]? with
  | none => simp [hm] at hst
  | some m =>
      simp only [hm, Option.some.injEq] at hst
      subst hst
      by_cases hr : result = 1
      · subst hr
        simp only [if_true]
        constructor
        · intro hl' _ m' hm'
          obtain rfl : m = m' := by simpa [hm] using hm'
          have hcur : ∀ c, w.reward.amount c = m.amount c := by
            intro c
            have h1 := hl'.currency c
            have h0 := hl.currency c
            rw [stolUpdateReward_amount] at h1
            dsimp only at h1
            omega
          have hnil : w.reward.itemId = [] := by
            have hp := (stolUpdateReward_parallel_iff _ _).mp hl'.parallel
            exact hl.parallel.sourceFrom_nil_iff.mp hp
          refine ⟨hcur, hnil, noItems_iff.mpr fun id => ?_⟩
          have h1 := hl'.item id
          have h0 := hl.item id
          rw [(stolUpdateReward_of_nil m hnil).1] at h1
          rw [hnil] at h0
          simp only [List.zip_nil_left, itemAmount, List.map_nil, List.sum_nil] at h0 h1
          unfold itemAmount
          omega
        · intro hs
          obtain ⟨hcur, hnil, hno⟩ := hs rfl m hm
          have hz := noItems_iff.mp hno
          obtain ⟨hid, hnum⟩ := stolUpdateReward_of_nil m hnil
          refine ⟨?_, ?_, ?_, ?_⟩
          · intro c
            have h0 := hl.currency c
            have h1 := hcur c
            rw [stolUpdateReward_amount]
            dsimp only
            omega
          · intro id
            have h0 := hl.item id
            have h1 := hz id
            rw [hid]
            rw [hnil] at h0
            simp only [List.zip_nil_left, itemAmount, List.map_nil, List.sum_nil] at h0 h1 ⊢
            omega
          · exact (stolUpdateReward_parallel_iff _ _).mpr
              (hl.parallel.sourceFrom_nil_iff.mpr hnil)
          · intro e he
            rw [RewardInfo.entries, hid, List.zip_nil_left] at he
            exact absurd he List.not_mem_nil
      · simp only [hr, if_false, stolUpdateReward_of_ne _ _ hr]
        constructor
        · intro _ hr'
          exact absurd hr' hr
        · intro _
          exact ⟨hl.currency, hl.item, hl.parallel, hl.described⟩

/-- **Exactness of the condition**: from a state in which the ledger holds, a
step keeps it if and only if it settles. -/
theorem step_ledger_iff {w w' : World} {a : Act} (hl : Ledger w) (hst : step w a = some w') :
    Ledger w' ↔ Settles w a := by
  cases a with
  | grant g => exact grant_ledger_iff hl hst
  | pickUp m fuel => exact pickUp_ledger_iff hl hst
  | answer i result => exact answer_ledger_iff hl hst
  | login =>
      obtain rfl := Option.some.inj hst
      exact ⟨fun _ => trivial, fun _ => ⟨hl.currency, hl.item, hl.parallel, hl.described⟩⟩
  | logout =>
      obtain rfl := Option.some.inj hst
      exact ⟨fun _ => trivial, fun _ => ⟨hl.currency, hl.item, hl.parallel, hl.described⟩⟩

/-! ## §7. Runs. -/

theorem initial_ledger {r : RewardInfo} (hr : r.Parallel) (isOnline : Bool) :
    Ledger (World.initial r isOnline) where
  currency _ := (Int.sub_zero _).symm
  item _ := (Int.sub_zero _).symm
  parallel := hr
  described e he := ⟨e, he, rfl, UInt32.le_refl _, rfl⟩

/-- **Rewards are neither lost nor duplicated while every step settles**: the
ledger holds in every state of every run whose steps all settle. -/
theorem run_ledger (w : World) (hw : rewardSystem.ReachableWhen Settles w) : Ledger w := by
  refine hw.invariant ?_ ?_
  · rintro w ⟨r, isOnline, hr, rfl⟩
    exact initial_ledger hr isOnline
  · intro w a w' hl hs hst
    exact (step_ledger_iff hl hst).mpr hs

/-- Two money grants while the player is offline, a login, one answer for both. -/
theorem run_ledger_offline_grants :
    ∃ w, rewardSystem.run (World.initial {} false)
        [.grant { money := 10 }, .grant { money := 20 }, .login, .answer 0 1] = some w ∧
      w.acked .money = 30 ∧ Ledger w := by
  obtain ⟨w, hw, hacked⟩ : ∃ w, rewardSystem.run (World.initial {} false)
      [.grant { money := 10 }, .grant { money := 20 }, .login, .answer 0 1] = some w ∧
        w.acked .money = 30 := ⟨_, rfl, rfl⟩
  refine ⟨w, hw, hacked, run_ledger w
    (TransSys.reachableWhen_of_run ⟨{}, false, ⟨rfl, rfl⟩, rfl⟩ ?_ hw)⟩
  refine ⟨?_, _, rfl, ?_, _, rfl, trivial, _, rfl, ?_, _, rfl, trivial⟩
  · intro _ c
    cases c <;> exact ⟨by decide, by decide⟩
  · intro _ c
    cases c <;> exact ⟨by decide, by decide⟩
  · intro _ m hm
    obtain rfl := Option.some.inj hm
    exact ⟨fun c => by cases c <;> rfl, rfl, fun e he => absurd he List.not_mem_nil⟩

/-- **Overlapping grants break the ledger**: of two money grants that are out
together, the answer to the first clears both. -/
theorem overlapping_grants_break_ledger : ¬ ∀ w, rewardSystem.Reachable w → Ledger w := by
  intro h
  have hrun : ∃ w, rewardSystem.run (World.initial {} true)
      [.grant { money := 10 }, .grant { money := 20 }, .answer 0 1] = some w ∧
        w.reward.amount .money = 0 ∧ w.granted .money - w.acked .money = 20 :=
    ⟨_, rfl, rfl, rfl⟩
  obtain ⟨w, hw, h0, h20⟩ := hrun
  have hl := h w (TransSys.reachable_of_run ⟨{}, true, ⟨rfl, rfl⟩, rfl⟩ hw)
  have := hl.currency .money
  omega

end Steppingstone.Short
