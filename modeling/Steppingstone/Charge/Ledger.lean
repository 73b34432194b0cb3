/-
  Steppingstone.Charge.Ledger — every recharge is credited once.

  A run is made of recharge notices, logins and logoffs, entities that enter
  and leave the scene's pool, and messages in flight that are handled in any
  order.  `value` gives the value of each request index, so repeated notices
  of one index carry one value.  The list of handled messages is a ghost.

  The pending list and the record `Vip.charge_info` are related through the
  messages in flight: a confirmation in flight names a recorded index.
-/
import Mathlib.Data.List.Dedup
import Mathlib.Tactic.Ring
import Mathlib.Algebra.BigOperators.Group.List.Basic
import Steppingstone.Lib.TransSys
import Steppingstone.Charge.Model

namespace Steppingstone.Charge

/-! ## §1. The system. -/

/-- Both scenes, the messages in flight between them and the ghost list of
messages `lmsg_player_charge` handled. -/
structure World where
  briefInfo : Option PlayerBriefInfo
  player : Player
  coin : Coin
  vip : Vip
  playerInPool : Bool
  coinInPool : Bool
  vipInPool : Bool
  charges : List PlayerCharge
  confirms : List PlayerChargeConfirm
  processed : List PlayerCharge
  deriving Repr

/-- What the member system, the player, the scene and the queues do. -/
inductive Act where
  | memberCharge (requestIndex : UInt32) (account : String) (currentTime : UInt64)
  | login (mapId : UInt32)
  | logoff
  /-- Entities of the player are loaded into the scene's pool or removed. -/
  | pool (player coin vip : Bool)
  /-- The scene handles the `i`-th `LMSG_PLAYER_CHARGE` in flight. -/
  | process (i : Nat) (currTime : UInt64)
  /-- The line scene handles the `i`-th `LMSG_PLAYER_CHARGE_CONFIRM` in flight. -/
  | confirm (i : Nat)
  deriving Repr

section

variable (value : UInt32 → UInt32) (vipexpResInfoMap : List (UInt32 × Int32))

/-- One step of the line's and the scene's side, where it can be taken. -/
def step (w : World) : Act → Option World
  | .memberCharge requestIndex account currentTime =>
      let (briefInfo, sent, _) :=
        mmsgMemberCharge currentTime ⟨requestIndex, account, value requestIndex⟩ w.briefInfo
      some { w with briefInfo := briefInfo, charges := w.charges ++ sent }
  | .login mapId =>
      let (briefInfo, sent) := lmsgPlayerIsOnline mapId w.briefInfo
      some { w with briefInfo := some briefInfo, charges := w.charges ++ sent }
  | .logoff => some { w with briefInfo := w.briefInfo.map lmsgPlayerIsOffline }
  | .pool player coin vip =>
      some { w with playerInPool := player, coinInPool := coin, vipInPool := vip }
  | .process i currTime =>
      match w.charges[i]? with
      | none => none
      | some m =>
          let w := { w with charges := w.charges.eraseIdx i }
          -- an entity that is not in the pool ends the handler with a log line
          if w.playerInPool && w.coinInPool && w.vipInPool then
            let ((player, coin, vip), confirm) :=
              lmsgPlayerCharge vipexpResInfoMap currTime m w.player w.coin w.vip
            some { w with
              player := player
              coin := coin
              vip := vip
              confirms := w.confirms ++ [confirm]
              processed := w.processed ++ [m] }
          else some w
  | .confirm i =>
      match w.confirms[i]? with
      | none => none
      | some m =>
          some { w with
            briefInfo := w.briefInfo.map (lmsgPlayerChargeConfirm m)
            confirms := w.confirms.eraseIdx i }

/-- Nothing was recharged before the run. -/
structure World.Initial (player : Player) (w : World) : Prop where
  player : w.player = player
  pending : ∀ playerBi, w.briefInfo = some playerBi → playerBi.chargeInfo = []
  recorded : w.vip.chargeInfo = []
  charges : w.charges = []
  confirms : w.confirms = []
  processed : w.processed = []

/-- The line, the scene and the messages between them, for one player. -/
def chargeSystem (player : Player) : TransSys World Act where
  init := World.Initial player
  step := step value vipexpResInfoMap

end

/-! ## §2. What is pending, recorded and handled. -/

/-- The charges that wait in the player's brief info. -/
def World.pendingIndexes (w : World) : List UInt32 :=
  match w.briefInfo with
  | some playerBi => playerBi.chargeInfo.map ShortChargeInfo.requestIndex
  | none => []

/-- The charges that the player's vip entity records. -/
def Vip.indexes (vip : Vip) : List UInt32 :=
  vip.chargeInfo.map VipChargeInfo.requestIndex

/-- The request index of a charge on its way, as the vip entity keeps it. -/
def PlayerCharge.index (m : PlayerCharge) : UInt32 :=
  m.requestIndex.toUInt32

/-- The distinct request indexes handled so far. -/
def World.processedIndexes (w : World) : List UInt32 :=
  (w.processed.map PlayerCharge.index).dedup

/-- The sum of the values of some indexes. -/
def valueSum (value : UInt32 → UInt32) (indexes : List UInt32) : Nat :=
  (indexes.map (fun i => (value i).toNat)).sum

/-- **Every recharge is credited once**, up to the width of the coin field. -/
structure ChargedOnce (value : UInt32 → UInt32) (vipexpResInfoMap : List (UInt32 × Int32))
    (player : Player) (w : World) : Prop where
  /-- The coins at the start and the values of the distinct handled indexes. -/
  credited : w.player.coin.toNat
    = (player.coin.toNat + valueSum value w.processedIndexes) % 2 ^ 32
  /-- Each of them is recorded once, with its value. -/
  recorded : (w.vip.chargeInfo.map (fun c => (c.requestIndex, c.chargeValue))).Perm
    (w.processedIndexes.map (fun i => (i, value i)))
  /-- An index leaves the pending list only after it was credited. -/
  leaves : ∀ a w', step value vipexpResInfoMap w a = some w' →
    ∀ i ∈ w.pendingIndexes, i ∉ w'.pendingIndexes → i ∈ w.vip.indexes

/-! ## §3. The invariant. -/

/-- A message that carries the value of its index. -/
def Carries (value : UInt32 → UInt32) (m : PlayerCharge) : Prop :=
  ∃ i : UInt32, m.requestIndex = i.toUInt64 ∧ m.chargeValue = (value i).toUInt64

/-- **The two lists and the messages between them.** -/
structure Ledger (value : UInt32 → UInt32) (player : Player) (w : World) : Prop where
  pending : ∀ playerBi, w.briefInfo = some playerBi →
    ∀ c ∈ playerBi.chargeInfo, c.chargeValue = value c.requestIndex
  charges : ∀ m ∈ w.charges, Carries value m
  confirms : ∀ m ∈ w.confirms, ∃ i ∈ w.vip.indexes, m.requestIndex = i.toUInt64
  values : ∀ c ∈ w.vip.chargeInfo, c.chargeValue = value c.requestIndex
  once : w.vip.indexes.Nodup
  handled : ∀ i, i ∈ w.vip.indexes ↔ i ∈ w.processed.map PlayerCharge.index
  credited : w.player.coin.toNat
    = (player.coin.toNat + valueSum value w.vip.indexes) % 2 ^ 32

section

variable {value : UInt32 → UInt32} {vipexpResInfoMap : List (UInt32 × Int32)}
  {player : Player} {w w' : World}

theorem Carries.index_eq {m : PlayerCharge} (h : Carries value m) :
    m.requestIndex = m.index.toUInt64 ∧ m.chargeValue.toUInt32 = value m.index := by
  obtain ⟨i, hi, hv⟩ := h
  have hindex : m.index = i := by
    unfold PlayerCharge.index
    rw [hi, UInt32.toUInt32_toUInt64]
  rw [hindex, hv, UInt32.toUInt32_toUInt64]
  exact ⟨hi, rfl⟩

/-- What is announced carries the pending values. -/
theorem playerCharge_carries {playerBi : PlayerBriefInfo}
    (h : ∀ c ∈ playerBi.chargeInfo, c.chargeValue = value c.requestIndex) :
    ∀ m ∈ playerCharge playerBi, Carries value m := by
  intro m hm
  unfold playerCharge at hm
  split at hm
  · obtain ⟨c, hc, rfl⟩ := List.mem_map.mp hm
    refine ⟨c.requestIndex, rfl, ?_⟩
    show c.chargeValue.toUInt64 = _
    rw [h c hc]
  · exact absurd hm List.not_mem_nil

theorem initial_ledger (h : w.Initial player) : Ledger value player w where
  pending playerBi hbi c hc := by
    rw [h.pending playerBi hbi] at hc
    exact absurd hc List.not_mem_nil
  charges m hm := by
    rw [h.charges] at hm
    exact absurd hm List.not_mem_nil
  confirms m hm := by
    rw [h.confirms] at hm
    exact absurd hm List.not_mem_nil
  values c hc := by
    rw [h.recorded] at hc
    exact absurd hc List.not_mem_nil
  once := by
    unfold Vip.indexes
    rw [h.recorded]
    exact List.nodup_nil
  handled i := by
    unfold Vip.indexes
    rw [h.recorded, h.processed]
    exact Iff.rfl
  credited := by
    have hlt := player.coin.toNat_lt
    unfold Vip.indexes
    rw [h.recorded, h.player]
    show _ = (player.coin.toNat + 0) % 2 ^ 32
    omega

/-! ## §4. One lemma for each side. -/

/-- The line scene's list changes and announces pending recharges. -/
theorem Ledger.announce (h : Ledger value player w) {briefInfo : Option PlayerBriefInfo}
    {sent : List PlayerCharge}
    (hpending : ∀ playerBi, briefInfo = some playerBi →
      ∀ c ∈ playerBi.chargeInfo, c.chargeValue = value c.requestIndex)
    (hsent : ∀ m ∈ sent, Carries value m) :
    Ledger value player { w with briefInfo := briefInfo, charges := w.charges ++ sent } where
  pending := hpending
  charges m hm := by
    rcases List.mem_append.mp hm with hold | hnew
    · exact h.charges m hold
    · exact hsent m hnew
  confirms := h.confirms
  values := h.values
  once := h.once
  handled := h.handled
  credited := h.credited

theorem memberCharge_pending (h : Ledger value player w) (requestIndex : UInt32)
    (account : String) (currentTime : UInt64) :
    (∀ playerBi, (mmsgMemberCharge currentTime ⟨requestIndex, account, value requestIndex⟩
        w.briefInfo).1 = some playerBi →
      ∀ c ∈ playerBi.chargeInfo, c.chargeValue = value c.requestIndex) ∧
    (∀ m ∈ (mmsgMemberCharge currentTime ⟨requestIndex, account, value requestIndex⟩
        w.briefInfo).2.1, Carries value m) := by
  match hb : w.briefInfo with
  | none =>
      refine ⟨?_, ?_⟩
      · intro playerBi hbi
        exact absurd hbi (by simp [mmsgMemberCharge])
      · intro m hm
        exact absurd hm List.not_mem_nil
  | some old =>
      have hnew : ∀ c ∈ old.chargeInfo ++
          [(⟨requestIndex, value requestIndex, currentTime⟩ : ShortChargeInfo)],
          c.chargeValue = value c.requestIndex := by
        intro c hc
        rcases List.mem_append.mp hc with hold | hone
        · exact h.pending old hb c hold
        · obtain rfl := List.mem_singleton.mp hone
          rfl
      refine ⟨?_, ?_⟩
      · intro playerBi hbi
        obtain rfl := Option.some.inj hbi
        exact hnew
      · exact playerCharge_carries hnew

theorem login_pending (h : Ledger value player w) (mapId : UInt32) :
    (∀ c ∈ (lmsgPlayerIsOnline mapId w.briefInfo).1.chargeInfo,
      c.chargeValue = value c.requestIndex) ∧
    (∀ m ∈ (lmsgPlayerIsOnline mapId w.briefInfo).2, Carries value m) := by
  have hpending : ∀ c ∈ (lmsgPlayerIsOnline mapId w.briefInfo).1.chargeInfo,
      c.chargeValue = value c.requestIndex := by
    unfold lmsgPlayerIsOnline
    match hb : w.briefInfo with
    | none =>
        intro c hc
        exact absurd hc List.not_mem_nil
    | some old => exact h.pending old hb
  exact ⟨hpending, playerCharge_carries hpending⟩

/-- A confirmation drops pending entries and keeps the values of the others. -/
theorem lmsgPlayerChargeConfirm_chargeInfo {m : PlayerChargeConfirm}
    {playerBi : PlayerBriefInfo} {c : ShortChargeInfo}
    (hc : c ∈ (lmsgPlayerChargeConfirm m playerBi).chargeInfo) :
    ∃ d ∈ playerBi.chargeInfo, c.requestIndex = d.requestIndex ∧ c.chargeValue = d.chargeValue := by
  obtain ⟨d, hd, rfl⟩ := List.mem_map.mp hc
  exact ⟨d, List.mem_of_mem_filter hd, rfl, rfl⟩

/-- An index is dropped only by the confirmation that names it. -/
theorem lmsgPlayerChargeConfirm_drops {m : PlayerChargeConfirm} {playerBi : PlayerBriefInfo}
    {i : UInt32} (hi : i ∈ playerBi.chargeInfo.map ShortChargeInfo.requestIndex)
    (hgone : i ∉ (lmsgPlayerChargeConfirm m playerBi).chargeInfo.map
      ShortChargeInfo.requestIndex) : m.requestIndex = i.toUInt64 := by
  obtain ⟨c, hc, rfl⟩ := List.mem_map.mp hi
  by_contra hne
  refine hgone (List.mem_map.mpr ⟨⟨c.requestIndex, c.chargeValue, 0⟩, ?_, rfl⟩)
  refine List.mem_map.mpr ⟨c, List.mem_filter.mpr ⟨hc, ?_⟩, rfl⟩
  simpa using fun heq : c.requestIndex.toUInt64 = m.requestIndex => hne heq.symm

/-- A request that is not recorded yet. -/
theorem isValidChargeRequest_iff {vip : Vip} {i : UInt32} :
    isValidChargeRequest vip i = true ↔ i ∉ vip.indexes := by
  unfold isValidChargeRequest Vip.indexes
  simp only [List.all_eq_true, List.mem_map, decide_eq_true_eq, ne_eq, not_exists, not_and]

theorem valueSum_append (l : List UInt32) (i : UInt32) :
    valueSum value (l ++ [i]) = valueSum value l + (value i).toNat := by
  unfold valueSum
  simp

/-- **The scene credits a request** that is not recorded. -/
theorem Ledger.credit (h : Ledger value player w) {m : PlayerCharge} (hm : Carries value m)
    (hvalid : m.index ∉ w.vip.indexes) (currTime : UInt64) {charges : List PlayerCharge}
    (hcharges : ∀ x ∈ charges, x ∈ w.charges) :
    Ledger value player { w with
      charges := charges
      player := (creditCharge vipexpResInfoMap currTime m w.player w.coin w.vip).1
      coin := (creditCharge vipexpResInfoMap currTime m w.player w.coin w.vip).2.1
      vip := (creditCharge vipexpResInfoMap currTime m w.player w.coin w.vip).2.2
      confirms := w.confirms ++ [⟨m.requestIndex, m.chargeValue, 1⟩]
      processed := w.processed ++ [m] } := by
  obtain ⟨hcoin, -, hvip⟩ := creditCharge_spec vipexpResInfoMap currTime m w.player w.coin w.vip
  obtain ⟨hindex, hvalue⟩ := hm.index_eq
  have hindexes : (creditCharge vipexpResInfoMap currTime m w.player w.coin w.vip).2.2.indexes
      = w.vip.indexes ++ [m.index] := by
    unfold Vip.indexes
    rw [hvip, List.map_append]
    rfl
  -- the new index joins the list once, and its value the coins
  refine ⟨h.pending, fun x hx => h.charges x (hcharges x hx), ?_, ?_, ?_, ?_, ?_⟩
  · intro c hc
    show ∃ i ∈ Vip.indexes _, _
    rw [hindexes]
    rcases List.mem_append.mp hc with hold | hnew
    · obtain ⟨i, hi, heq⟩ := h.confirms c hold
      exact ⟨i, List.mem_append_left _ hi, heq⟩
    · obtain rfl := List.mem_singleton.mp hnew
      exact ⟨m.index, List.mem_append_right _ (List.mem_singleton_self _), hindex⟩
  · show ∀ c ∈ Vip.chargeInfo _, _
    rw [hvip]
    intro c hc
    rcases List.mem_append.mp hc with hold | hnew
    · exact h.values c hold
    · obtain rfl := List.mem_singleton.mp hnew
      exact hvalue
  · show (Vip.indexes _).Nodup
    rw [hindexes]
    refine List.nodup_append.mpr ⟨h.once, List.nodup_singleton _, ?_⟩
    intro a ha b hb heq
    obtain rfl := List.mem_singleton.mp hb
    exact hvalid (heq ▸ ha)
  · intro i
    show i ∈ Vip.indexes _ ↔ _
    rw [hindexes, List.map_append, List.mem_append, List.mem_append, h.handled i]
    exact Iff.rfl
  · show (Player.coin _).toNat = (_ + valueSum value (Vip.indexes _)) % 2 ^ 32
    rw [hcoin, hvalue, hindexes, valueSum_append, UInt32.toNat_add, h.credited]
    omega

/-- **The scene refuses a request** that is recorded. -/
theorem Ledger.refuse (h : Ledger value player w) {m : PlayerCharge} (hm : Carries value m)
    (hknown : m.index ∈ w.vip.indexes) {charges : List PlayerCharge}
    (hcharges : ∀ x ∈ charges, x ∈ w.charges) :
    Ledger value player { w with
      charges := charges
      confirms := w.confirms ++ [⟨m.requestIndex, m.chargeValue, 2⟩]
      processed := w.processed ++ [m] } := by
  refine ⟨h.pending, fun x hx => h.charges x (hcharges x hx), ?_, h.values, h.once, ?_, h.credited⟩
  · intro c hc
    rcases List.mem_append.mp hc with hold | hnew
    · exact h.confirms c hold
    · obtain rfl := List.mem_singleton.mp hnew
      exact ⟨m.index, hknown, hm.index_eq.1⟩
  · intro i
    show i ∈ w.vip.indexes ↔ _
    rw [List.map_append, List.mem_append, ← h.handled i]
    refine ⟨Or.inl, ?_⟩
    intro hi
    rcases hi with hold | hnew
    · exact hold
    · obtain rfl := List.mem_singleton.mp hnew
      exact hknown

/-! ## §5. Runs. -/

/-- **Every step keeps the ledger.** -/
theorem Ledger.step (h : Ledger value player w) {a : Act}
    (hst : step value vipexpResInfoMap w a = some w') : Ledger value player w' := by
  cases a with
  | memberCharge requestIndex account currentTime =>
      obtain rfl := Option.some.inj hst
      obtain ⟨hpending, hsent⟩ := memberCharge_pending h requestIndex account currentTime
      exact h.announce hpending hsent
  | login mapId =>
      obtain rfl := Option.some.inj hst
      obtain ⟨hpending, hsent⟩ := login_pending h mapId
      refine h.announce ?_ hsent
      intro playerBi hbi
      obtain rfl := Option.some.inj hbi
      exact hpending
  | logoff =>
      obtain rfl := Option.some.inj hst
      refine { h with pending := ?_ }
      intro playerBi hbi
      obtain ⟨old, hold, rfl⟩ := Option.map_eq_some_iff.mp hbi
      exact h.pending old hold
  | pool player coin vip =>
      obtain rfl := Option.some.inj hst
      exact { h with }
  | process i currTime =>
      unfold Charge.step at hst
      dsimp only at hst
      match hi : w.charges[i]? with
      | none =>
          rw [hi] at hst
          cases hst
      | some m =>
          rw [hi] at hst
          have hm : Carries value m := h.charges m (List.mem_of_getElem? hi)
          have hrest : ∀ x ∈ w.charges.eraseIdx i, x ∈ w.charges :=
            fun x hx => List.mem_of_mem_eraseIdx hx
          dsimp only at hst
          split at hst
          · unfold lmsgPlayerCharge at hst
            -- an index that is in the list is refused, with a confirmation
            by_cases hvalid : isValidChargeRequest w.vip m.requestIndex.toUInt32 = true
            · rw [if_pos hvalid] at hst
              obtain rfl := Option.some.inj hst
              exact h.credit hm (isValidChargeRequest_iff.mp hvalid) currTime hrest
            · rw [if_neg hvalid] at hst
              obtain rfl := Option.some.inj hst
              have hknown : m.index ∈ w.vip.indexes := by
                by_contra hno
                exact hvalid (isValidChargeRequest_iff.mpr hno)
              exact h.refuse hm hknown hrest
          · -- dropped: an entity of the player is not in the pool
            obtain rfl := Option.some.inj hst
            exact { h with charges := fun x hx => h.charges x (hrest x hx) }
  | confirm i =>
      unfold Charge.step at hst
      dsimp only at hst
      match hi : w.confirms[i]? with
      | none =>
          rw [hi] at hst
          cases hst
      | some m =>
          rw [hi] at hst
          obtain rfl := Option.some.inj hst
          refine { h with
            pending := ?_
            confirms := fun x hx => h.confirms x (List.mem_of_mem_eraseIdx hx) }
          intro playerBi hbi c hc
          obtain ⟨old, hold, rfl⟩ := Option.map_eq_some_iff.mp hbi
          obtain ⟨d, hd, hindex, hvalue⟩ := lmsgPlayerChargeConfirm_chargeInfo hc
          rw [hindex, hvalue]
          exact h.pending old hold d hd

/-- A step that drops an index from the pending list handles a confirmation,
and a confirmation names a recorded index. -/
theorem Ledger.leaves (h : Ledger value player w) {a : Act}
    (hst : Charge.step value vipexpResInfoMap w a = some w') {i : UInt32}
    (hi : i ∈ w.pendingIndexes) (hgone : i ∉ w'.pendingIndexes) : i ∈ w.vip.indexes := by
  match hb : w.briefInfo with
  | none =>
      unfold World.pendingIndexes at hi
      rw [hb] at hi
      exact absurd hi List.not_mem_nil
  | some playerBi =>
      have hi' : i ∈ playerBi.chargeInfo.map ShortChargeInfo.requestIndex := by
        unfold World.pendingIndexes at hi
        rw [hb] at hi
        exact hi
      -- every step but a confirmation keeps the entries that are there
      cases a with
      | memberCharge requestIndex account currentTime =>
          obtain rfl := Option.some.inj hst
          refine absurd ?_ hgone
          unfold World.pendingIndexes
          rw [hb]
          show i ∈ (playerBi.chargeInfo ++ _).map ShortChargeInfo.requestIndex
          rw [List.map_append]
          exact List.mem_append_left _ hi'
      | login mapId =>
          obtain rfl := Option.some.inj hst
          refine absurd ?_ hgone
          unfold World.pendingIndexes
          rw [hb]
          exact hi'
      | logoff =>
          obtain rfl := Option.some.inj hst
          refine absurd ?_ hgone
          unfold World.pendingIndexes
          rw [hb]
          exact hi'
      | pool player coin vip =>
          obtain rfl := Option.some.inj hst
          exact absurd hi hgone
      | process j currTime =>
          refine absurd ?_ hgone
          have hsame : w'.briefInfo = w.briefInfo := by
            unfold Charge.step at hst
            dsimp only at hst
            match hj : w.charges[j]? with
            | none =>
                rw [hj] at hst
                cases hst
            | some m =>
                rw [hj] at hst
                dsimp only at hst
                split at hst <;> (obtain rfl := Option.some.inj hst; rfl)
          unfold World.pendingIndexes
          rw [hsame, hb]
          exact hi'
      | confirm j =>
          unfold Charge.step at hst
          dsimp only at hst
          match hj : w.confirms[j]? with
          | none =>
              rw [hj] at hst
              cases hst
          | some m =>
              rw [hj] at hst
              obtain rfl := Option.some.inj hst
              unfold World.pendingIndexes at hgone
              rw [hb] at hgone
              have hname := lmsgPlayerChargeConfirm_drops hi' hgone
              obtain ⟨k, hk, heq⟩ := h.confirms m (List.mem_of_getElem? hj)
              have hik : i = k := by
                rw [← UInt32.toUInt32_toUInt64 i, ← UInt32.toUInt32_toUInt64 k, ← hname, heq]
              rw [hik]
              exact hk

/-- The recorded indexes are the distinct handled ones, in some order. -/
theorem Ledger.indexes_perm (h : Ledger value player w) :
    w.vip.indexes.Perm w.processedIndexes := by
  refine (List.perm_ext_iff_of_nodup h.once (List.nodup_dedup _)).mpr ?_
  intro i
  rw [List.mem_dedup]
  exact h.handled i

theorem Ledger.chargedOnce (h : Ledger value player w) :
    ChargedOnce value vipexpResInfoMap player w where
  credited := by
    have hsum : valueSum value w.vip.indexes = valueSum value w.processedIndexes :=
      (h.indexes_perm.map _).sum_eq
    rw [h.credited, hsum]
  recorded := by
    have hpairs : w.vip.chargeInfo.map (fun c => (c.requestIndex, c.chargeValue))
        = w.vip.indexes.map (fun i => (i, value i)) := by
      unfold Vip.indexes
      rw [List.map_map]
      refine List.map_congr_left ?_
      intro c hc
      show (c.requestIndex, c.chargeValue) = (c.requestIndex, value c.requestIndex)
      rw [h.values c hc]
    rw [hpairs]
    exact h.indexes_perm.map _
  leaves _ _ hst _ hi hgone := h.leaves hst hi hgone

end

/-- **Each recharge is credited once.** -/
theorem reachable_chargedOnce {value : UInt32 → UInt32}
    {vipexpResInfoMap : List (UInt32 × Int32)} {player : Player} {w : World}
    (hw : (chargeSystem value vipexpResInfoMap player).Reachable w) :
    ChargedOnce value vipexpResInfoMap player w := by
  have hledger : Ledger value player w := by
    refine hw.invariant ?_ ?_
    · intro w hinit
      exact initial_ledger hinit
    · intro w a w' h _ hst
      exact h.step hst
  exact hledger.chargedOnce

/-- A recharge of 30 announced twice, by the recharge and by a login, then
handled and confirmed twice. -/
theorem reachable_chargedOnce_resent : ∃ w,
    (chargeSystem (fun _ => 30) [] ⟨5, 0, 0, 0, .normal⟩).run
      ⟨some ⟨true, 7, []⟩, ⟨5, 0, 0, 0, .normal⟩, ⟨5⟩, ⟨[], 0, 1, 0⟩, true, true, true, [], [], []⟩
      [.memberCharge 11 "a" 100, .login 7, .process 0 200, .process 0 201, .confirm 1,
        .confirm 0] = some w ∧
      w.player.coin = 35 ∧ w.processed.length = 2 ∧
      ChargedOnce (fun _ => 30) [] ⟨5, 0, 0, 0, .normal⟩ w := by
  obtain ⟨w, hw, hcoin, hlen⟩ : ∃ w,
      (chargeSystem (fun _ => 30) [] ⟨5, 0, 0, 0, .normal⟩).run
        ⟨some ⟨true, 7, []⟩, ⟨5, 0, 0, 0, .normal⟩, ⟨5⟩, ⟨[], 0, 1, 0⟩, true, true, true, [], [], []⟩
        [.memberCharge 11 "a" 100, .login 7, .process 0 200, .process 0 201, .confirm 1,
          .confirm 0] = some w ∧
        w.player.coin = 35 ∧ w.processed.length = 2 :=
    ⟨_, rfl, by decide +kernel, by decide +kernel⟩
  refine ⟨w, hw, hcoin, hlen, reachable_chargedOnce (TransSys.reachable_of_run ?_ hw)⟩
  exact ⟨rfl, fun _ h => by obtain rfl := Option.some.inj h; rfl, rfl, rfl, rfl, rfl⟩

/-- **The coins wrap**: a player who owns one coin recharges 2^32 - 1 and is
left with none. -/
theorem credit_wraps :
    ¬ ∀ (value : UInt32 → UInt32) (vipexpResInfoMap : List (UInt32 × Int32)) (player : Player)
      (w : World), (∀ i, 0 < value i) → (chargeSystem value vipexpResInfoMap player).Reachable w →
      w.player.coin.toNat = player.coin.toNat + valueSum value w.processedIndexes := by
  intro hall
  obtain ⟨w, hw, hcoin⟩ : ∃ w,
      (chargeSystem (fun _ => 0xFFFFFFFF) [] ⟨1, 0, 0, 0, .normal⟩).run
        ⟨some ⟨true, 7, []⟩, ⟨1, 0, 0, 0, .normal⟩, ⟨1⟩, ⟨[], 0, 1, 0⟩, true, true, true, [], [], []⟩
        [.memberCharge 11 "a" 100, .process 0 200] = some w ∧ w.player.coin = 0 :=
    ⟨_, rfl, by decide +kernel⟩
  have hreach := TransSys.reachable_of_run (M := chargeSystem (fun _ => 0xFFFFFFFF) [] ⟨1, 0, 0, 0, .normal⟩)
    ⟨rfl, fun _ h => by obtain rfl := Option.some.inj h; rfl, rfl, rfl, rfl, rfl⟩ hw
  have hsum := hall (fun _ => 0xFFFFFFFF) [] ⟨1, 0, 0, 0, .normal⟩ w (fun _ => by decide) hreach
  have hone : (⟨1, 0, 0, 0, .normal⟩ : Player).coin.toNat = 1 := rfl
  rw [hcoin, hone] at hsum
  have hzero : (0 : UInt32).toNat = 0 := rfl
  omega

end Steppingstone.Charge
