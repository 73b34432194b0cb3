/-
  Steppingstone.Coin.OneOwner — a player's coin entity and its owners.

  The line scene takes the coin from the database whenever its own pool has none, also while another
  map scene still has it; and a player that left before it was loaded sends back balances that are
  not those of its coin.
-/
import Steppingstone.Balance.Exact
import Steppingstone.Coin.Holdings

namespace Steppingstone.Coin

open Balance (guardedSum_eq effectiveValue)

variable {ι : Type}

/-! ## §1. One owner. -/

section

variable [Fintype ι]

/-- **One live owner**: at most one pool, load or message holds a coin, and its balances reflect
every increase and deduction. -/
def OneOwner (w : World ι) : Prop :=
  w.holdings.card ≤ 1 ∧ ∀ coin ∈ w.holdings, coin = w.ledger

instance instDecidableOneOwner (w : World ι) : Decidable (OneOwner w) :=
  inferInstanceAs (Decidable (_ ∧ _))

theorem oneOwner_iff_le {w : World ι} : OneOwner w ↔ w.holdings ≤ {w.ledger} :=
  Shares.le_singleton_iff.symm

namespace OneOwner

variable {w w' : World ι}

/-- Coins that are moved or dropped. -/
theorem of_le (h : OneOwner w) (hle : w'.holdings ≤ w.holdings) (hledger : w'.ledger = w.ledger) :
    OneOwner w' := by
  rw [oneOwner_iff_le, hledger]
  exact hle.trans (oneOwner_iff_le.mp h)

/-- A coin that takes new balances. -/
theorem changed_iff {c c' : Purse} {t : Multiset Purse} (h : OneOwner w)
    (hw : w.holdings = c ::ₘ t) (hw' : w'.holdings = c' ::ₘ t) :
    OneOwner w' ↔ c' = w'.ledger := by
  have ht : t = 0 := (Shares.cons_le_singleton.mp (hw ▸ oneOwner_iff_le.mp h)).2
  rw [oneOwner_iff_le, hw', Shares.cons_le_singleton]
  exact and_iff_left ht

/-- The coin that the owner holds. -/
theorem eq_ledger {c : Purse} {t : Multiset Purse} (h : OneOwner w)
    (hw : w.holdings = c ::ₘ t) : c = w.ledger :=
  (Shares.cons_le_singleton.mp (hw ▸ oneOwner_iff_le.mp h)).1

end OneOwner

/-- A coin that is made, or read from the database. -/
theorem made_iff {w w' : World ι} {c : Purse} (hw' : w'.holdings = c ::ₘ w.holdings)
    (hledger : w'.ledger = w.ledger) : OneOwner w' ↔ c = w.ledger ∧ w.holdings = 0 := by
  rw [oneOwner_iff_le, hw', hledger, Shares.cons_le_singleton]

end

/-! ## §2. Steps in order. -/

namespace World

/-- The coin that the cache reads for a request of the line scene. -/
def readBy (w : World ι) : LineRequest ι → Option Purse
  | .loadCoin _ => w.coinRow
  | .writeCoin _ => none

variable [Fintype ι]

/-- A coin that is new: no other is held, and it has the balances of the account. -/
def MayMake (w : World ι) (coin : Purse) : Prop :=
  coin = w.ledger ∧ w.holdings = 0

instance instDecidableMayMake (w : World ι) (coin : Purse) : Decidable (w.MayMake coin) :=
  inferInstanceAs (Decidable (_ ∧ _))

/-- `InOrder` for a change of the balances: the balance of the player is that of its coin. -/
def Agrees (w : World ι) (m : ι) (i : Currency) (increaseValue : Option Int32) : Prop :=
  increaseValue.isSome →
    ∀ p ∈ (w.maps m).getPlayer.bind (w.purses m), p.1.balance i = p.2.balance i

instance instDecidableAgrees (w : World ι) (m : ι) (i : Currency) (increaseValue : Option Int32) :
    Decidable (w.Agrees m i increaseValue) :=
  inferInstanceAs (Decidable (_ → _))

/-- `InOrder` for a reply of the cache: a player that has been flushed has the balances of its coin,
and a coin is made only where there is none. -/
def ReplyInOrder (w : World ι) (m : ι) (success isEmpty : Bool) : MapReply → Prop
  | .flushed => (w.maps m).playerState.isSome →
      ∀ player ∈ (w.maps m).player, ∀ p ∈ w.purses m player.player, p.1 = p.2
  | r => ∀ coin ∈ (w.maps m).repliedCoin success isEmpty r, w.MayMake coin

instance instDecidableReplyInOrder (w : World ι) (m : ι) (success isEmpty : Bool) (r : MapReply) :
    Decidable (w.ReplyInOrder m success isEmpty r) := by
  cases r <;> unfold ReplyInOrder <;> infer_instance

end World

variable [Fintype ι] [DecidableEq ι]

/-- **The steps that are in order.**  The database is read for the coin, and a coin is made, only
while no pool, load or message holds one and with the balances of the account; a player whose
balance changes, or that has been flushed, has the balances of its coin. -/
def InOrder (w : World ι) : Action ι → Prop
  | .updateMoney m status increaseValue => w.Agrees m .money (effectiveValue status increaseValue)
  | .updateCoin m status increaseValue isCharge =>
      w.Agrees m .coin (if isCharge then some increaseValue else effectiveValue status increaseValue)
  | .lineCache => ∀ r ∈ w.line.toCache.head?, ∀ coin ∈ w.readBy r, w.MayMake coin
  | .mapReply m success isEmpty _ =>
      ∀ r ∈ (w.maps m).fromCache.head?,
        (w.setMap m { w.maps m with fromCache := (w.maps m).fromCache.tail }).ReplyInOrder m
          success isEmpty r
  | _ => True

instance instDecidableInOrder (w : World ι) (a : Action ι) : Decidable (InOrder w a) := by
  cases a <;> unfold InOrder <;> infer_instance

/-! ## §3. One step. -/

@[simp] theorem Purse.balance_setBalance (p : Purse) (i : Currency) (v : UInt32) :
    (p.setBalance i v).balance i = v := by
  cases i <;> rfl

/-- The coin takes over a balance that has grown from that of the player: it has grown by the same
value if the two agreed before. -/
theorem Purse.takeOver_iff (p c : Purse) (i : Currency) (value : Int32) :
    c.setBalance i ((p.add i value).balance i) = c.add i value ↔ p.balance i = c.balance i := by
  have hbalance : (p.add i value).balance i = p.balance i + value.toUInt32 := by
    rw [Purse.add, balance_setBalance, guardedSum_eq]
  rw [hbalance, Purse.add, guardedSum_eq]
  constructor
  · intro h
    have h := congrArg (·.balance i) h
    simp only [balance_setBalance] at h
    exact (UInt32.add_left_inj _).mp h
  · intro h
    rw [h]

namespace World

omit [DecidableEq ι] in
/-- A reduction on the line scene changes the coin and the ledger alike. -/
theorem reduceOfflinePlayerCoin_oneOwner {w : World ι} {coin money : Int32} (h : OneOwner w) :
    OneOwner (w.reduceOfflinePlayerCoin coin money) := by
  unfold reduceOfflinePlayerCoin
  match hcoin : w.line.coin with
  | none => exact h
  | some c =>
      dsimp only
      split
      · have hw : w.holdings = c ::ₘ w.besidesLine := by
          rw [holdings_eq_line, hcoin]
          rfl
        refine (h.changed_iff hw ((holdings_eq_line _).trans rfl)).mpr ?_
        rw [h.eq_ledger hw]
      · exact h

theorem updateBalance_iff {w : World ι} {m : ι} {i : Currency} {increaseValue : Option Int32}
    (h : OneOwner w) : OneOwner (w.updateBalance m i increaseValue) ↔ w.Agrees m i increaseValue := by
  match increaseValue, hp : (w.maps m).getPlayer.bind (w.purses m) with
  | none, _ =>
      rw [updateBalance_eq (.inl rfl)]
      exact iff_of_true h (fun hsome => by cases hsome)
  | some value, none =>
      rw [updateBalance_eq (.inr hp)]
      refine iff_of_true h fun _ p hmem => ?_
      rw [hp] at hmem
      cases hmem
  | some value, some p =>
      obtain ⟨t, hw, hw', hledger⟩ := updateBalance_holdings i value hp
      rw [h.changed_iff hw hw', hledger, ← h.eq_ledger hw, Purse.takeOver_iff]
      constructor
      · intro hagree _ q hq
        obtain rfl := Option.some.inj (hp.symm.trans hq)
        exact hagree
      · intro hagree
        exact hagree rfl p hp

/-- `InOrder` for a flush that is completed: the player's balances are those of its coin. -/
theorem playerFlushDataFinish_iff {w : World ι} {m : ι} (playerEnteredWorld : Bool)
    (h : OneOwner w) :
    OneOwner (w.playerFlushDataFinish m playerEnteredWorld) ↔
      ((w.maps m).playerState.isSome → ∀ player ∈ (w.maps m).player,
        ∀ p ∈ w.purses m player.player, p.1 = p.2) := by
  have hledger := w.playerFlushDataFinish_ledger m playerEnteredWorld
  -- without a state entry nothing is taken out; else the coin leaves the pool with its player
  by_cases hstate : (w.maps m).playerState.isSome
  · have hholdings := playerFlushDataFinish_holdings playerEnteredWorld hstate
    by_cases hback : ∀ player ∈ (w.maps m).player, (w.maps m).getCoin player.player = none
    · rw [removeFlushed_holdings_eq hback] at hholdings
      refine iff_of_true (h.of_le hholdings.le hledger) fun _ player hplayer p hp => ?_
      rw [purses, hback player hplayer] at hp
      cases hp
    · simp only [not_forall] at hback
      obtain ⟨player, hplayer, hsome⟩ := hback
      obtain ⟨coin, hcoin⟩ := Option.ne_none_iff_exists'.mp hsome
      obtain ⟨t, hw, hw'⟩ := removeFlushed_holdings hplayer hcoin
      rw [h.changed_iff hw (hholdings.trans hw'), hledger, ← h.eq_ledger hw]
      constructor
      · intro hpurse _ q hq p hp
        obtain rfl := Option.some.inj (hplayer.symm.trans hq)
        obtain ⟨hcoin', hpurse'⟩ := purses_eq_some.mp hp
        rw [← hpurse', hpurse]
        exact Option.some.inj (hcoin.symm.trans hcoin')
      · intro hpurse
        exact hpurse hstate player hplayer (player.player.purse, coin)
          (purses_eq_some.mpr ⟨hcoin, rfl⟩)
  · have hsame : w.playerFlushDataFinish m playerEnteredWorld = w := by
      unfold playerFlushDataFinish
      rw [if_pos (by simpa using hstate)]
    rw [hsame]
    exact iff_of_true h fun hsome => absurd hsome hstate

omit [DecidableEq ι] in
/-- `InOrder` for a step that may make a coin, or read one. -/
theorem mayMake_iff {w w' : World ι} {made : Option Purse} (h : OneOwner w)
    (hnone : made = none → w'.holdings ≤ w.holdings)
    (hsome : ∀ coin, made = some coin → w'.holdings = coin ::ₘ w.holdings)
    (hledger : w'.ledger = w.ledger) : OneOwner w' ↔ ∀ coin ∈ made, w.MayMake coin := by
  cases made with
  | none => exact iff_of_true (h.of_le (hnone rfl) hledger) (fun coin hcoin => by cases hcoin)
  | some c =>
      rw [made_iff (hsome c rfl) hledger]
      constructor
      · rintro hc coin hcoin
        obtain rfl := Option.some.inj hcoin
        exact hc
      · intro hall
        exact hall c rfl

theorem mapReply_iff {w : World ι} {m : ι} {success isEmpty : Bool} (playerEnteredWorld : Bool)
    {r : MapReply} (h : OneOwner w) :
    OneOwner (w.mapReply m success isEmpty playerEnteredWorld r) ↔
      w.ReplyInOrder m success isEmpty r := by
  have hload : ∀ r, OneOwner (w.setMap m (((w.maps m).loadReply success isEmpty r).1.loadEnd
        ((w.maps m).loadReply success isEmpty r).2)) ↔
      ∀ coin ∈ (w.maps m).repliedCoin success isEmpty r, w.MayMake coin := by
    intro r
    refine mayMake_iff h ?_ ?_ rfl
    · intro hnone
      exact setMap_holdings_le (MapScene.loadEnd_holdings_le hnone)
    · intro coin hmade
      rw [setMap_holdings, MapScene.loadEnd_holdings_eq hmade, holdings_eq w m]
      exact Multiset.cons_add _ _ _
  -- the three stages of a load end alike, and a flush apart from them
  cases r with
  | player player => exact hload (.player player)
  | role => exact hload .role
  | equipment => exact hload .equipment
  | flushed => exact playerFlushDataFinish_iff playerEnteredWorld h

omit [DecidableEq ι] in
theorem serveLine_iff {w : World ι} {r : LineRequest ι} (h : OneOwner w) :
    OneOwner (w.serveLine r) ↔ ∀ coin ∈ w.readBy r, w.MayMake coin := by
  cases r with
  | loadCoin m =>
      refine mayMake_iff h ?_ ?_ rfl
      · intro hnone
        rw [serveLine_loadCoin_holdings, show w.coinRow = none from hnone]
        exact (zero_add w.holdings).le
      · intro coin hrow
        rw [serveLine_loadCoin_holdings, show w.coinRow = some coin from hrow]
        rfl
  | writeCoin coin => exact mayMake_iff h (fun _ => le_rfl) (fun _ hnone => by cases hnone) rfl

end World

/-- **From a state with one owner, a step leads to one exactly if it is in order.** -/
theorem step_iff {w w' : World ι} {a : Action ι} (h : OneOwner w) (hst : step w a = some w') :
    OneOwner w' ↔ InOrder w a := by
  -- most steps move or drop coins; five change the balances, or make a coin
  cases a with
  | enterWorld m playerEnteredWorld =>
      obtain rfl := Option.some.inj hst
      exact iff_of_true (h.of_le (w.cmsgEnterWorld_holdings m playerEnteredWorld).le
        (w.cmsgEnterWorld_ledger m playerEnteredWorld)) trivial
  | leaveWorld m =>
      obtain rfl := Option.some.inj hst
      exact iff_of_true (h.of_le
        (World.setMap_holdings_eq (w.maps m).cmsgLeaveWorld_holdings).le rfl) trivial
  | updateMoney m status increaseValue =>
      obtain rfl := Option.some.inj hst
      exact World.updateBalance_iff h
  | updateCoin m status increaseValue isCharge =>
      obtain rfl := Option.some.inj hst
      exact World.updateBalance_iff h
  | reduceOfflinePlayerCoin coin money =>
      obtain rfl := Option.some.inj hst
      exact iff_of_true (World.reduceOfflinePlayerCoin_oneOwner h) trivial
  | mapInput m =>
      match hinput : (w.maps m).input with
      | [] => simp [step, hinput] at hst
      | msg :: rest =>
          let popped := w.setMap m { w.maps m with input := rest }
          obtain rfl : popped.mapMsg m msg = w' := by simpa [step, hinput] using hst
          have hle : (popped.mapMsg m msg).holdings ≤ w.holdings := by
            rw [World.mapInput_holdings hinput]
            exact popped.mapMsg_holdings m msg
          exact iff_of_true (h.of_le hle (popped.mapMsg_ledger m msg)) trivial
  | lineInput =>
      match hinput : w.line.input with
      | [] => simp [step, hinput] at hst
      | msg :: rest =>
          let popped : World ι := { w with line := { w.line with input := rest } }
          obtain rfl : popped.lineMsg msg = w' := by simpa [step, hinput] using hst
          have hle : (popped.lineMsg msg).holdings ≤ w.holdings := by
            rw [World.lineInput_holdings hinput]
            exact popped.lineMsg_holdings msg
          exact iff_of_true (h.of_le hle (popped.lineMsg_ledger msg)) trivial
  | processNeedFlushPlayer m =>
      obtain rfl := Option.some.inj hst
      exact iff_of_true (h.of_le
        (World.setMap_holdings_eq (w.maps m).processNeedFlushPlayer_holdings).le rfl) trivial
  | updatePool m =>
      obtain rfl := Option.some.inj hst
      exact iff_of_true (h.of_le
        (World.setMap_holdings_eq (w.maps m).updatePool_holdings).le rfl) trivial
  | updatePlayer m =>
      obtain rfl := Option.some.inj hst
      exact iff_of_true (h.of_le
        (World.setMap_holdings_eq (w.maps m).updatePlayer_holdings).le rfl) trivial
  | lineUpdatePool =>
      obtain rfl := Option.some.inj hst
      exact iff_of_true (h.of_le le_rfl rfl) trivial
  | cache m =>
      match hrequest : (w.maps m).toCache with
      | [] => simp [step, hrequest] at hst
      | r :: rest =>
          let popped := w.setMap m { w.maps m with toCache := rest }
          obtain rfl : popped.serve m r = w' := by simpa [step, hrequest] using hst
          have hsame : MapScene.holdings { w.maps m with toCache := rest }
              = (w.maps m).holdings := rfl
          have heq : (popped.serve m r).holdings = w.holdings :=
            (popped.serve_holdings m r).trans (World.setMap_holdings_eq hsame)
          exact iff_of_true (h.of_le heq.le (popped.serve_ledger m r)) trivial
  | lineCache =>
      match hrequest : w.line.toCache with
      | [] => simp [step, hrequest] at hst
      | r :: rest =>
          let popped : World ι := { w with line := { w.line with toCache := rest } }
          obtain rfl : popped.serveLine r = w' := by simpa [step, hrequest] using hst
          have hiff : OneOwner (popped.serveLine r) ↔ ∀ coin ∈ w.readBy r, w.MayMake coin := by
            cases r <;> exact World.serveLine_iff (w := popped) h
          rw [hiff]
          simp [InOrder, hrequest]
  | mapReply m success isEmpty playerEnteredWorld =>
      match hreply : (w.maps m).fromCache with
      | [] => simp [step, hreply] at hst
      | r :: rest =>
          let popped := w.setMap m { w.maps m with fromCache := rest }
          obtain rfl : popped.mapReply m success isEmpty playerEnteredWorld r = w' := by
            simpa [step, hreply] using hst
          have hsame : MapScene.holdings { w.maps m with fromCache := rest }
              = (w.maps m).holdings := rfl
          have hpopped : OneOwner popped := h.of_le (World.setMap_holdings_eq hsame).le rfl
          rw [World.mapReply_iff playerEnteredWorld hpopped]
          simp [InOrder, hreply, popped]
  | lineReply success =>
      match hreply : w.line.fromCache with
      | [] => simp [step, hreply] at hst
      | (m, coin) :: rest =>
          let popped : World ι := { w with line := { w.line with fromCache := rest } }
          obtain rfl : popped.loadPlayerCoinFinish m coin success = w' := by
            simpa [step, hreply] using hst
          have hle : (popped.loadPlayerCoinFinish m coin success).holdings ≤ w.holdings := by
            rw [World.lineReply_holdings hreply]
            exact popped.loadPlayerCoinFinish_holdings m coin success
          exact iff_of_true (h.of_le hle (popped.loadPlayerCoinFinish_ledger m coin success)) trivial

/-! ## §4. Runs. -/

omit [DecidableEq ι] in
/-- At first nothing is held. -/
theorem initial_oneOwner {w : World ι} (h : w.Initial) : OneOwner w := by
  have hmaps : Shares.total MapScene.holdings w.maps = 0 := by
    refine Finset.sum_eq_zero fun m _ => ?_
    rw [h.2.1 m]
    rfl
  have hholdings : w.holdings = 0 := by
    unfold World.holdings
    rw [h.1, hmaps]
    rfl
  rw [oneOwner_iff_le, hholdings]
  exact Multiset.zero_le _

/-- The coin in the pool of a map scene reflects every change. -/
theorem OneOwner.coin_eq {w : World ι} {m : ι} {coin : Purse} (h : OneOwner w)
    (hcoin : (w.maps m).coin = some coin) : coin = w.ledger :=
  h.eq_ledger (World.coin_holdings hcoin)

/-- **A player's coin entity has one live owner all along a run, and reflects every increase and
deduction, exactly if every step of the run is in order.** -/
theorem one_owner_iff {w w' : World ι} {as : List (Action ι)} (h0 : coinSystem.init w)
    (hrun : coinSystem.run w as = some w') :
    (∀ bs t, bs <+: as → coinSystem.run w bs = some t → OneOwner t) ↔
      coinSystem.RunMeets InOrder w as :=
  TransSys.always_iff_runMeets (fun _ _ _ h hst => step_iff h hst) (initial_oneOwner h0) hrun

/-! ## §5. Two maps. -/

/-- The player is offline, with 100 coins and 50 money in the database. -/
def offlinePlayer : World (Fin 2) :=
  { coinRow := some ⟨100, 50⟩, playerRow := ⟨true, ⟨100, 50⟩⟩, ledger := ⟨100, 50⟩ }

/-- The player logs in on the first map, with the coin of the database. -/
def firstLogin : List (Action (Fin 2)) :=
  [.enterWorld 0 true, .lineInput, .mapInput 1, .mapInput 0, .lineCache, .lineReply true,
    .mapInput 0, .cache 0, .mapReply 0 true true false]

/-- It earns 20 money and spends 30 coins. -/
def earnAndSpend : List (Action (Fin 2)) :=
  [.updateMoney 0 .normal 20, .updateCoin 0 .normal (-30) false]

/-- It logs off, and its coin goes to the line scene. -/
def logoff : List (Action (Fin 2)) :=
  [.leaveWorld 0, .processNeedFlushPlayer 0, .cache 0, .mapReply 0 true false false, .lineInput]

/-- It logs in on the second map, with the coin of the line scene. -/
def secondLogin : List (Action (Fin 2)) :=
  [.enterWorld 1 true, .lineInput, .mapInput 1, .cache 1, .mapReply 1 true true false]

/-- The world after two logins, with a reduction between them. -/
def loggedInTwice : World (Fin 2) :=
  (coinSystem.run offlinePlayer
    (firstLogin ++ earnAndSpend ++ logoff ++ [.reduceOfflinePlayerCoin 10 5] ++ secondLogin)).getD
      offlinePlayer

theorem one_owner_of_two_logins :
    OneOwner loggedInTwice ∧ (loggedInTwice.maps 1).coin = some ⟨60, 65⟩ :=
  have hrun : coinSystem.run offlinePlayer
      (firstLogin ++ earnAndSpend ++ logoff ++ [.reduceOfflinePlayerCoin 10 5] ++ secondLogin)
        = some loggedInTwice := rfl
  have hinit : World.Initial offlinePlayer := ⟨rfl, fun _ => rfl, by decide⟩
  ⟨(one_owner_iff hinit hrun).mpr (by decide +kernel) _ _ (List.prefix_refl _) hrun,
    by decide +kernel⟩

/-- While the player is on the first map it logs in on the second one.  The line scene takes the
coin from the database, and the first map sends its own coin back. -/
def loginElsewhere : List (Action (Fin 2)) :=
  [.enterWorld 1 true, .lineInput, .lineCache, .lineReply true, .mapInput 0,
    .processNeedFlushPlayer 0, .cache 0, .mapReply 0 true false false, .lineInput, .mapInput 1,
    .mapInput 1, .cache 1, .mapReply 1 true true false]

/-- The player logs off while the second map loads it: the flush sends back the balances that the
database has of the player. -/
def logoffWhileLoading : List (Action (Fin 2)) :=
  [.enterWorld 1 true, .lineInput, .mapInput 1, .leaveWorld 1, .cache 1, .mapReply 1 true true false,
    .processNeedFlushPlayer 1, .cache 1, .mapReply 1 true false false, .lineInput]

/-- The world after a login on a second map. -/
def loggedInElsewhere : World (Fin 2) :=
  (coinSystem.run offlinePlayer (firstLogin ++ earnAndSpend ++ loginElsewhere)).getD offlinePlayer

/-- The world after a reduction and a login that was not completed. -/
def reducedInVain : World (Fin 2) :=
  (coinSystem.run offlinePlayer
    (firstLogin ++ logoff ++ [.reduceOfflinePlayerCoin 30 5] ++ logoffWhileLoading)).getD
      offlinePlayer

/-- **Two owners of one coin**, each with its own balances, after a login on a second map; and a
coin without the reduction that the line scene had made. -/
theorem two_owners :
    (coinSystem.run offlinePlayer (firstLogin ++ earnAndSpend ++ loginElsewhere)
        = some loggedInElsewhere ∧ ¬ OneOwner loggedInElsewhere ∧
      loggedInElsewhere.line.coin = some ⟨70, 70⟩ ∧
      (loggedInElsewhere.maps 1).coin = some ⟨100, 50⟩) ∧
    coinSystem.run offlinePlayer
        (firstLogin ++ logoff ++ [.reduceOfflinePlayerCoin 30 5] ++ logoffWhileLoading)
        = some reducedInVain ∧ ¬ OneOwner reducedInVain ∧
      reducedInVain.line.coin = some ⟨100, 50⟩ ∧ reducedInVain.ledger = ⟨70, 45⟩ :=
  ⟨⟨rfl, by decide +kernel, rfl, rfl⟩, rfl, by decide +kernel, rfl, rfl⟩

end Steppingstone.Coin
