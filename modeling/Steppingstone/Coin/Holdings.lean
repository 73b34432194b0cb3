/-
  Steppingstone.Coin.Holdings — where the coin of a player is.

  What the pools, the loads and the messages hold of the coin is a multiset of balances.  Messages
  move what is held or drop it; a flush that is completed and a change of the balances put another
  value in its place; reading the database, and the end of a load without a coin, add one.
-/
import Mathlib.Data.Option.Basic
import Mathlib.Tactic.Abel
import Steppingstone.Coin.Model
import Steppingstone.Lib.Shares

namespace Steppingstone.Coin

open Shares (ofOption)

variable {ι : Type}

/-! ## §1. What is held. -/

/-- The coin that a message delivers. -/
def MapMsg.coin? : MapMsg ι → Option Purse
  | .deliveryPlayerData coin => some coin
  | .innerRequestLogoff _ => none

/-- The coin that a message delivers. -/
def LineMsg.coin? : LineMsg ι → Option Purse
  | .requestPlayerData _ => none
  | .deliveryPlayerData coin => some coin

namespace MapScene

/-- The coins in the pool, in a load and in the messages to a map scene. -/
def holdings (s : MapScene ι) : Multiset Purse :=
  ofOption s.coin + ofOption (s.loadingData.bind (·.coin)) + ↑(s.input.filterMap MapMsg.coin?)

/-- What the handlers of a map scene see of the coins. -/
theorem holdings_congr {s s' : MapScene ι} (hcoin : s'.coin = s.coin)
    (hload : s'.loadingData.bind (·.coin) = s.loadingData.bind (·.coin))
    (hinput : s'.input = s.input) : s'.holdings = s.holdings := by
  unfold holdings
  rw [hcoin, hload, hinput]

end MapScene

/-- The coins in the pool of the line scene, in the messages to it and in the answers of the
cache. -/
def LineScene.holdings (l : LineScene ι) : Multiset Purse :=
  ofOption l.coin + ↑(l.input.filterMap LineMsg.coin?) + ↑(l.fromCache.filterMap (·.2))

/-- All coins of the player that can still be spent or delivered. -/
def World.holdings [Fintype ι] (w : World ι) : Multiset Purse :=
  w.line.holdings + Shares.total MapScene.holdings w.maps

/-! ## §2. One map scene. -/

namespace MapScene

/-- The coin in the pool, and everything else. -/
theorem coin_holdings {s : MapScene ι} {coin : Purse} (h : s.coin = some coin) :
    s.holdings = coin ::ₘ holdings { s with coin := none } := by
  unfold holdings
  rw [h, ofOption, Option.elim_some, ← Multiset.singleton_add]
  simp only [Shares.ofOption_none]
  abel

theorem coin_of_getCoin {s : MapScene ι} {player : Player} {coin : Purse}
    (h : s.getCoin player = some coin) : s.coin = some coin := by
  unfold getCoin at h
  split at h
  · exact h
  · cases h

theorem cmsgLeaveWorld_holdings (s : MapScene ι) : s.cmsgLeaveWorld.holdings = s.holdings := by
  unfold cmsgLeaveWorld
  split
  · rfl
  · split <;> rfl

/-- A log-off adds no holding. -/
theorem ltosInnerRequestLogoff_holdings (s : MapScene ι) (sameMap : Bool) :
    (s.ltosInnerRequestLogoff sameMap).holdings ≤ s.holdings := by
  unfold ltosInnerRequestLogoff
  split
  · exact le_rfl
  · split
    · split
      · -- the load is dropped with its coin
        show ofOption s.coin + ofOption none + _ ≤ _
        unfold holdings
        gcongr
        exact Multiset.zero_le _
      · exact le_rfl
    · exact s.cmsgLeaveWorld_holdings.le

/-- A delivery goes to the load, or is dropped. -/
theorem ltosDeliveryPlayerData_holdings (s : MapScene ι) (coin : Purse) :
    (s.ltosDeliveryPlayerData coin).holdings ≤ coin ::ₘ s.holdings := by
  unfold ltosDeliveryPlayerData
  match hload : s.loadingData with
  | none => exact Multiset.le_cons_self _ _
  | some pld =>
      show ofOption s.coin + ofOption (pld.coin <|> some coin) + _ ≤ _
      have hle := Shares.ofOption_orElse_le pld.coin (some coin)
      calc ofOption s.coin + ofOption (pld.coin <|> some coin) + ↑(s.input.filterMap MapMsg.coin?)
        _ ≤ ofOption s.coin + (ofOption pld.coin + {coin}) + ↑(s.input.filterMap MapMsg.coin?) := by
            gcongr
            exact hle
        _ = coin ::ₘ s.holdings := by
            unfold holdings
            rw [hload, ← Multiset.singleton_add]
            simp only [Option.bind_some]
            abel

theorem processNeedFlushPlayer_holdings (s : MapScene ι) :
    s.processNeedFlushPlayer.holdings = s.holdings := by
  unfold processNeedFlushPlayer
  split
  · split <;> rfl
  · rfl

theorem updatePool_holdings (s : MapScene ι) : s.updatePool.holdings = s.holdings := rfl

theorem updatePlayer_holdings (s : MapScene ι) : s.updatePlayer.holdings = s.holdings := rfl

/-- The coin that `playerDataLoadFinish` makes for a player without one. -/
def newCoin (s : MapScene ι) : Option Purse :=
  match s.getPlayer, s.coin with
  | some player, none =>
      if s.playerState = some .offline || player.coinGuid then none else some player.purse
  | _, _ => none

theorem playerDataLoadFinish_false_holdings (s : MapScene ι) :
    (s.playerDataLoadFinish false).holdings = s.holdings := by
  unfold playerDataLoadFinish
  split
  · rfl
  · rfl

/-- A load that succeeds adds the purse it made. -/
theorem playerDataLoadFinish_holdings (s : MapScene ι) :
    (s.playerDataLoadFinish true).holdings = ofOption s.newCoin + s.holdings := by
  by_cases hoff : s.playerState = some .offline
  · have hnew : s.newCoin = none := by
      unfold newCoin
      split
      · rw [if_pos (by simp [hoff])]
      · rfl
    unfold playerDataLoadFinish
    rw [if_pos hoff, hnew]
    exact (zero_add s.holdings).symm
  · unfold playerDataLoadFinish newCoin
    simp only [hoff, if_false, if_true, decide_false, Bool.false_or]
    match hp : s.getPlayer with
    | none => exact (zero_add s.holdings).symm
    | some player =>
        match hguid : player.coinGuid, hcoin : s.coin with
        | true, none => simp [hguid]
        | true, some coin => simp [hguid, holdings, hcoin]
        | false, none => simp [hguid, holdings, hcoin]
        | false, some coin => simp [hguid, holdings, hcoin]

/-- A coin is made for a pool that has none. -/
theorem coin_of_newCoin {s : MapScene ι} {c : Purse} (h : s.newCoin = some c) : s.coin = none := by
  unfold newCoin at h
  split at h
  · assumption
  · cases h

/-- Taking the loaded data into the pool adds none. -/
theorem addEntityToPool_holdings {s : MapScene ι} {pld : PlayerLoadingData}
    (hload : s.loadingData = some pld) : (s.addEntityToPool pld).holdings ≤ s.holdings := by
  have hle := Shares.ofOption_orElse_le s.coin pld.coin
  calc (s.addEntityToPool pld).holdings
    _ = ofOption (s.coin <|> pld.coin) + 0 + ↑(s.input.filterMap MapMsg.coin?) := rfl
    _ ≤ ofOption s.coin + ofOption pld.coin + ↑(s.input.filterMap MapMsg.coin?) := by
        rw [add_zero]
        gcongr
    _ = s.holdings := by
        unfold holdings
        rw [hload]
        rfl

/-- Where the pool stays without a coin, the load has not brought one. -/
theorem addEntityToPool_holdings_of_coin {s : MapScene ι} {pld : PlayerLoadingData}
    (hload : s.loadingData = some pld) (hcoin : (s.addEntityToPool pld).coin = none) :
    (s.addEntityToPool pld).holdings = s.holdings := by
  have hnone : s.coin = none ∧ pld.coin = none := (Option.orElse_eq_none _ _).mp hcoin
  unfold holdings
  rw [hcoin, hload, hnone.1]
  show _ = _ + ofOption pld.coin + _
  rw [hnone.2]
  rfl

/-- The coin that the end of a successful load makes. -/
def loadedCoin (s : MapScene ι) : Option Purse :=
  s.loadingData.bind fun pld => (s.addEntityToPool pld).newCoin

/-- The end of a successful load makes no coin. -/
theorem playerLoadSuccess_holdings_le {s : MapScene ι} (h : s.loadedCoin = none) :
    s.playerLoadSuccess.holdings ≤ s.holdings := by
  unfold playerLoadSuccess
  match hload : s.loadingData with
  | none => exact le_rfl
  | some pld =>
      have hnew : (s.addEntityToPool pld).newCoin = none := by
        rw [← h, loadedCoin, hload]
        rfl
      have heq : ((s.addEntityToPool pld).playerDataLoadFinish true).holdings
          = (s.addEntityToPool pld).holdings := by
        rw [playerDataLoadFinish_holdings, hnew]
        exact zero_add _
      exact heq.le.trans (addEntityToPool_holdings hload)

/-- The end of a successful load makes a coin. -/
theorem playerLoadSuccess_holdings_eq {s : MapScene ι} {c : Purse} (h : s.loadedCoin = some c) :
    s.playerLoadSuccess.holdings = c ::ₘ s.holdings := by
  obtain ⟨pld, hload, hnew⟩ := Option.bind_eq_some_iff.mp h
  unfold playerLoadSuccess
  rw [hload]
  calc ((s.addEntityToPool pld).playerDataLoadFinish true).holdings
    _ = {c} + (s.addEntityToPool pld).holdings := by
        rw [playerDataLoadFinish_holdings, hnew]
        rfl
    _ = c ::ₘ s.holdings := by
        rw [addEntityToPool_holdings_of_coin hload (coin_of_newCoin hnew)]
        rfl

theorem playerLoadFailed_holdings (s : MapScene ι) : s.playerLoadFailed.holdings ≤ s.holdings := by
  unfold playerLoadFailed
  rw [playerDataLoadFinish_false_holdings]
  show ofOption s.coin + ofOption none + _ ≤ _
  unfold holdings
  gcongr
  exact Multiset.zero_le _

/-- A reply only moves the load on. -/
theorem loadReply_holdings (s : MapScene ι) (success isEmpty : Bool) (r : MapReply) :
    (s.loadReply success isEmpty r).1.holdings = s.holdings := by
  cases success with
  | false => cases r <;> rfl
  | true =>
      cases r with
      | player player =>
          match hload : s.loadingData with
          | none => simp [loadReply, hload]
          | some pld => cases isEmpty <;> simp [loadReply, hload, holdings]
      | role =>
          match hload : s.loadingData.bind (·.player) with
          | none => simp [loadReply, hload]
          | some player => cases isEmpty <;> simp [loadReply, hload, holdings]
      | equipment => rfl
      | flushed => rfl

/-- The coin that a reply makes, which ends a load. -/
def repliedCoin (s : MapScene ι) (success isEmpty : Bool) (r : MapReply) : Option Purse :=
  if (s.loadReply success isEmpty r).2 = some true then
    (s.loadReply success isEmpty r).1.loadedCoin
  else none

/-- A load that brings no purse adds no holding. -/
theorem loadEnd_holdings_le {s : MapScene ι} {success isEmpty : Bool} {r : MapReply}
    (h : s.repliedCoin success isEmpty r = none) :
    ((s.loadReply success isEmpty r).1.loadEnd (s.loadReply success isEmpty r).2).holdings
      ≤ s.holdings := by
  rw [← s.loadReply_holdings success isEmpty r]
  unfold repliedCoin at h
  match hend : (s.loadReply success isEmpty r).2 with
  | none => exact le_rfl
  | some false => exact playerLoadFailed_holdings _
  | some true =>
      rw [if_pos hend] at h
      exact playerLoadSuccess_holdings_le h

/-- A load that brings a purse adds it to the holdings. -/
theorem loadEnd_holdings_eq {s : MapScene ι} {success isEmpty : Bool} {r : MapReply} {c : Purse}
    (h : s.repliedCoin success isEmpty r = some c) :
    ((s.loadReply success isEmpty r).1.loadEnd (s.loadReply success isEmpty r).2).holdings
      = c ::ₘ s.holdings := by
  rw [← s.loadReply_holdings success isEmpty r]
  unfold repliedCoin at h
  split at h
  · rename_i hend
    rw [hend]
    exact playerLoadSuccess_holdings_eq h
  · cases h

end MapScene

/-! ## §3. Between the scenes. -/

namespace World

section

variable [DecidableEq ι]

@[simp] theorem setMap_maps (w : World ι) (m : ι) (s : MapScene ι) : (w.setMap m s).maps m = s :=
  Function.update_self ..

@[simp] theorem setMap_ledger (w : World ι) (m : ι) (s : MapScene ι) :
    (w.setMap m s).ledger = w.ledger :=
  rfl

theorem requestLoadPlayer_ledger (w : World ι) (m : ι) (playerEnteredWorld : Bool) :
    (w.requestLoadPlayer m playerEnteredWorld).ledger = w.ledger := by
  unfold requestLoadPlayer
  dsimp only
  split
  · rfl
  · split <;> rfl

theorem cmsgEnterWorld_ledger (w : World ι) (m : ι) (playerEnteredWorld : Bool) :
    (w.cmsgEnterWorld m playerEnteredWorld).ledger = w.ledger := by
  unfold cmsgEnterWorld
  dsimp only
  split
  · rfl
  · split
    · rfl
    · rfl
    · rfl
    · exact w.requestLoadPlayer_ledger m playerEnteredWorld

theorem deliveryCoinToLS_ledger (w : World ι) (m : ι) (player : Player) :
    (w.deliveryCoinToLS m player).ledger = w.ledger := by
  unfold deliveryCoinToLS
  split <;> rfl

theorem removeFlushed_ledger (w : World ι) (m : ι) : (w.removeFlushed m).ledger = w.ledger := by
  unfold removeFlushed
  split
  · rfl
  · exact w.deliveryCoinToLS_ledger m _

theorem playerFlushDataFinish_ledger (w : World ι) (m : ι) (playerEnteredWorld : Bool) :
    (w.playerFlushDataFinish m playerEnteredWorld).ledger = w.ledger := by
  unfold playerFlushDataFinish
  split
  · rfl
  · dsimp only
    split
    · exact ((w.removeFlushed m).requestLoadPlayer_ledger m playerEnteredWorld).trans
        (w.removeFlushed_ledger m)
    · exact w.removeFlushed_ledger m

theorem stolRequestPlayerData_ledger (w : World ι) (m : ι) :
    (w.stolRequestPlayerData m).ledger = w.ledger := by
  unfold stolRequestPlayerData
  split <;> rfl

theorem loadPlayerCoinFinish_ledger (w : World ι) (m : ι) (coin : Option Purse) (success : Bool) :
    (w.loadPlayerCoinFinish m coin success).ledger = w.ledger := by
  unfold loadPlayerCoinFinish
  split
  · split <;> rfl
  · rfl

/-- A message between scenes changes no ledger. -/
theorem mapMsg_ledger (w : World ι) (m : ι) (msg : MapMsg ι) :
    (w.mapMsg m msg).ledger = w.ledger := by
  cases msg <;> rfl

/-- Nor does one to the line. -/
theorem lineMsg_ledger (w : World ι) (msg : LineMsg ι) : (w.lineMsg msg).ledger = w.ledger := by
  cases msg with
  | requestPlayerData m => exact w.stolRequestPlayerData_ledger m
  | deliveryPlayerData coin => rfl

theorem serve_ledger (w : World ι) (m : ι) (r : MapRequest) : (w.serve m r).ledger = w.ledger := by
  cases r <;> rfl

end

/-- A message that a map scene has got. -/
theorem pushed_holdings (s : MapScene ι) (msg : MapMsg ι) :
    MapScene.holdings { s with input := s.input ++ [msg] } = ofOption msg.coin? + s.holdings := by
  have hinput : ((s.input ++ [msg]).filterMap MapMsg.coin? : Multiset Purse)
      = ↑(s.input.filterMap MapMsg.coin?) + ofOption msg.coin? := by
    rw [List.filterMap_append, ← Multiset.coe_add]
    cases msg <;> rfl
  unfold MapScene.holdings
  rw [hinput]
  abel

/-- The next message that a map scene takes. -/
theorem popped_holdings {s : MapScene ι} {msg : MapMsg ι} {rest : List (MapMsg ι)}
    (h : s.input = msg :: rest) :
    s.holdings = ofOption msg.coin? + MapScene.holdings { s with input := rest } := by
  have hinput : (s.input.filterMap MapMsg.coin? : Multiset Purse)
      = ofOption msg.coin? + ↑(rest.filterMap MapMsg.coin?) := by
    rw [h]
    cases msg <;> rfl
  unfold MapScene.holdings
  rw [hinput]
  abel

section

variable [Fintype ι]

/-- What is held besides the pool of the line scene. -/
def besidesLine (w : World ι) : Multiset Purse :=
  ↑(w.line.input.filterMap LineMsg.coin?) + ↑(w.line.fromCache.filterMap (·.2))
    + Shares.total MapScene.holdings w.maps

theorem holdings_eq_line (w : World ι) : w.holdings = ofOption w.line.coin + w.besidesLine := by
  unfold holdings LineScene.holdings besidesLine
  abel

/-- A message to the line scene. -/
theorem scenePackInput_holdings (w : World ι) (msg : LineMsg ι) :
    (w.scenePackInput msg).holdings = ofOption msg.coin? + w.holdings := by
  have hinput : ((w.line.input ++ [msg]).filterMap LineMsg.coin? : Multiset Purse)
      = ↑(w.line.input.filterMap LineMsg.coin?) + ofOption msg.coin? := by
    rw [List.filterMap_append, ← Multiset.coe_add]
    cases msg <;> rfl
  show ofOption w.line.coin + ↑((w.line.input ++ [msg]).filterMap LineMsg.coin?)
      + ↑(w.line.fromCache.filterMap (·.2)) + Shares.total MapScene.holdings w.maps = _
  rw [hinput]
  unfold holdings LineScene.holdings
  abel

/-- The next message that the line scene takes. -/
theorem lineInput_holdings {w : World ι} {msg : LineMsg ι} {rest : List (LineMsg ι)}
    (h : w.line.input = msg :: rest) :
    w.holdings
      = ofOption msg.coin? + World.holdings { w with line := { w.line with input := rest } } := by
  have hinput : (w.line.input.filterMap LineMsg.coin? : Multiset Purse)
      = ofOption msg.coin? + ↑(rest.filterMap LineMsg.coin?) := by
    rw [h]
    cases msg <;> rfl
  unfold holdings LineScene.holdings
  rw [hinput]
  abel

/-- The next coin from the database that the line scene takes. -/
theorem lineReply_holdings {w : World ι} {m : ι} {coin : Option Purse}
    {rest : List (ι × Option Purse)} (h : w.line.fromCache = (m, coin) :: rest) :
    w.holdings
      = ofOption coin + World.holdings { w with line := { w.line with fromCache := rest } } := by
  have hreply : (w.line.fromCache.filterMap (·.2) : Multiset Purse)
      = ofOption coin + ↑(rest.filterMap (·.2)) := by
    rw [h]
    cases coin <;> rfl
  unfold holdings LineScene.holdings
  rw [hreply]
  abel

/-- The coin that is read is one more. -/
theorem serveLine_loadCoin_holdings (w : World ι) (m : ι) :
    (w.serveLine (.loadCoin m)).holdings = ofOption w.coinRow + w.holdings := by
  have hreply : ((w.line.fromCache ++ [(m, w.coinRow)]).filterMap (·.2) : Multiset Purse)
      = ↑(w.line.fromCache.filterMap (·.2)) + ofOption w.coinRow := by
    rw [List.filterMap_append, ← Multiset.coe_add]
    cases w.coinRow <;> rfl
  show ofOption w.line.coin + ↑(w.line.input.filterMap LineMsg.coin?)
      + ↑((w.line.fromCache ++ [(m, w.coinRow)]).filterMap (·.2))
      + Shares.total MapScene.holdings w.maps = _
  rw [hreply]
  unfold holdings LineScene.holdings
  abel

theorem broadCastSceneMsg_holdings (w : World ι) (m : ι) :
    (w.broadCastSceneMsg (.innerRequestLogoff m)).holdings = w.holdings := by
  have htotal : Shares.total MapScene.holdings (w.broadCastSceneMsg (.innerRequestLogoff m)).maps
      = Shares.total MapScene.holdings w.maps :=
    Shares.total_congr fun i => (pushed_holdings (w.maps i) _).trans (zero_add _)
  exact congrArg (w.line.holdings + ·) htotal

/-- A coin that comes back takes the place in the pool, or is dropped. -/
theorem stolDeliveryPlayerData_holdings (w : World ι) (coin : Purse) :
    (w.stolDeliveryPlayerData coin).holdings ≤ coin ::ₘ w.holdings := by
  have hle := Shares.ofOption_orElse_le w.line.coin (some coin)
  calc (w.stolDeliveryPlayerData coin).holdings
    _ = ofOption (w.line.coin <|> some coin) + w.besidesLine := holdings_eq_line _
    _ ≤ ofOption w.line.coin + {coin} + w.besidesLine := by
        gcongr
        exact hle
    _ = coin ::ₘ w.holdings := by
        rw [holdings_eq_line w, ← Multiset.singleton_add]
        abel

end

variable [Fintype ι] [DecidableEq ι]

/-- What is held outside of a map scene. -/
def elsewhere (w : World ι) (m : ι) : Multiset Purse :=
  w.line.holdings + Shares.others MapScene.holdings w.maps m

/-- What one scene holds, and the others. -/
theorem holdings_eq (w : World ι) (m : ι) :
    w.holdings = (w.maps m).holdings + w.elsewhere m := by
  unfold holdings elsewhere
  rw [Shares.total_eq w.maps m]
  exact add_left_comm _ _ _

/-- A map scene changes, and nothing else. -/
theorem setMap_holdings (w : World ι) (m : ι) (s : MapScene ι) :
    (w.setMap m s).holdings = s.holdings + w.elsewhere m := by
  have hothers : (w.setMap m s).elsewhere m = w.elsewhere m :=
    congrArg (w.line.holdings + ·) (Shares.others_update w.maps m s)
  rw [holdings_eq _ m, setMap_maps, hothers]

theorem setMap_holdings_eq {w : World ι} {m : ι} {s : MapScene ι}
    (h : s.holdings = (w.maps m).holdings) : (w.setMap m s).holdings = w.holdings := by
  rw [setMap_holdings, h, ← holdings_eq]

/-- A scene that holds no more adds none to the world. -/
theorem setMap_holdings_le {w : World ι} {m : ι} {s : MapScene ι}
    (h : s.holdings ≤ (w.maps m).holdings) : (w.setMap m s).holdings ≤ w.holdings := by
  rw [setMap_holdings, holdings_eq w m]
  gcongr

/-- A message to a map scene. -/
theorem sendSceneMsg_holdings (w : World ι) (m : ι) (msg : MapMsg ι) :
    (w.sendSceneMsg m msg).holdings = ofOption msg.coin? + w.holdings := by
  unfold sendSceneMsg
  rw [setMap_holdings, pushed_holdings, add_assoc, ← holdings_eq]

/-- The next message that a map scene takes. -/
theorem mapInput_holdings {w : World ι} {m : ι} {msg : MapMsg ι} {rest : List (MapMsg ι)}
    (h : (w.maps m).input = msg :: rest) :
    w.holdings
      = ofOption msg.coin? + (w.setMap m { w.maps m with input := rest }).holdings := by
  rw [setMap_holdings, ← add_assoc, ← popped_holdings h, ← holdings_eq]

theorem requestLoadPlayer_holdings (w : World ι) (m : ι) (playerEnteredWorld : Bool) :
    (w.requestLoadPlayer m playerEnteredWorld).holdings = w.holdings := by
  unfold requestLoadPlayer
  dsimp only
  match hload : (w.maps m).loadingData with
  | some pld => rfl
  | none =>
      have hcoin : (some {} : Option PlayerLoadingData).bind (·.coin)
          = (w.maps m).loadingData.bind (·.coin) := by
        rw [hload]
        rfl
      cases playerEnteredWorld with
      | true =>
          refine (scenePackInput_holdings _ _).trans ((zero_add _).trans (setMap_holdings_eq ?_))
          exact MapScene.holdings_congr rfl hcoin rfl
      | false => exact setMap_holdings_eq (MapScene.holdings_congr rfl hcoin rfl)

/-- The state of the player moves nothing. -/
theorem setState_holdings (w : World ι) (m : ι) (playerState : Option PlayerOnlineState) :
    (w.setMap m { w.maps m with playerState }).holdings = w.holdings :=
  setMap_holdings_eq rfl

theorem cmsgEnterWorld_holdings (w : World ι) (m : ι) (playerEnteredWorld : Bool) :
    (w.cmsgEnterWorld m playerEnteredWorld).holdings = w.holdings := by
  unfold cmsgEnterWorld
  dsimp only
  split
  · rfl
  · split
    · rfl
    · rfl
    · exact setMap_holdings_eq rfl
    · exact (setState_holdings (w.requestLoadPlayer m playerEnteredWorld) m _).trans
        (w.requestLoadPlayer_holdings m playerEnteredWorld)

/-- A request moves the coin of the line scene, or nothing. -/
theorem stolRequestPlayerData_holdings (w : World ι) (m : ι) :
    (w.stolRequestPlayerData m).holdings = w.holdings := by
  unfold stolRequestPlayerData
  match hcoin : w.line.coin with
  | none => exact w.broadCastSceneMsg_holdings m
  | some coin =>
      -- the line scene without its coin sends the message
      let taken : World ι := { w with line := { w.line with coin := none } }
      have hsent : (taken.sendSceneMsg m (.deliveryPlayerData coin)).holdings
          = {coin} + taken.holdings :=
        taken.sendSceneMsg_holdings m (.deliveryPlayerData coin)
      have htaken : taken.holdings = w.besidesLine := (holdings_eq_line taken).trans (zero_add _)
      refine hsent.trans ?_
      rw [htaken, holdings_eq_line w, hcoin]
      rfl

theorem loadPlayerCoinFinish_holdings (w : World ι) (m : ι) (coin : Option Purse)
    (success : Bool) :
    (w.loadPlayerCoinFinish m coin success).holdings ≤ ofOption coin + w.holdings := by
  cases coin with
  | none => exact (zero_add w.holdings).ge
  | some coin =>
      cases success with
      | false => exact Multiset.le_add_left _ _
      | true => exact (w.sendSceneMsg_holdings m (.deliveryPlayerData coin)).le

/-- The coin in the pool of a map scene, and everything else. -/
theorem coin_holdings {w : World ι} {m : ι} {coin : Purse} (h : (w.maps m).coin = some coin) :
    w.holdings = coin ::ₘ (w.setMap m { w.maps m with coin := none }).holdings := by
  rw [holdings_eq w m, MapScene.coin_holdings h, setMap_holdings]
  exact Multiset.cons_add _ _ _

/-- The coin of a player that goes back. -/
theorem deliveryCoinToLS_holdings {w : World ι} {m : ι} {player : Player} {coin : Purse}
    (h : (w.maps m).getCoin player = some coin) :
    ∃ t, w.holdings = coin ::ₘ t ∧ (w.deliveryCoinToLS m player).holdings = player.purse ::ₘ t := by
  have hcoin : (w.maps m).coin = some coin := MapScene.coin_of_getCoin h
  refine ⟨_, coin_holdings hcoin, ?_⟩
  unfold deliveryCoinToLS
  rw [h]
  exact scenePackInput_holdings _ _

/-- A flush that is completed changes the coin to the player's balances. -/
theorem removeFlushed_holdings {w : World ι} {m : ι} {player : PoolPlayer} {coin : Purse}
    (hplayer : (w.maps m).player = some player)
    (hcoin : (w.maps m).getCoin player.player = some coin) :
    ∃ t, w.holdings = coin ::ₘ t ∧ (w.removeFlushed m).holdings = player.player.purse ::ₘ t := by
  obtain ⟨t, hw, hdelivered⟩ := deliveryCoinToLS_holdings hcoin
  refine ⟨t, hw, ?_⟩
  rw [← hdelivered]
  unfold removeFlushed
  rw [hplayer]
  exact setMap_holdings_eq (w := w.deliveryCoinToLS m player.player) rfl

theorem removeFlushed_holdings_eq {w : World ι} {m : ι}
    (h : ∀ player ∈ (w.maps m).player, (w.maps m).getCoin player.player = none) :
    (w.removeFlushed m).holdings = w.holdings := by
  unfold removeFlushed
  match hplayer : (w.maps m).player with
  | none => rfl
  | some player =>
      have hsame : w.deliveryCoinToLS m player.player = w := by
        unfold deliveryCoinToLS
        rw [h player hplayer]
      dsimp only
      rw [hsame]
      exact setMap_holdings_eq rfl

/-- What follows the removal moves nothing. -/
theorem playerFlushDataFinish_holdings {w : World ι} {m : ι} (playerEnteredWorld : Bool)
    (h : (w.maps m).playerState.isSome) :
    (w.playerFlushDataFinish m playerEnteredWorld).holdings = (w.removeFlushed m).holdings := by
  have hstate : ∀ (w : World ι) (playerState : Option PlayerOnlineState) (b : Bool),
      (w.setMap m { w.maps m with
        playerState, playerOnlineBeforeFinishFlushing := b }).holdings = w.holdings :=
    fun _ _ _ => setMap_holdings_eq rfl
  unfold playerFlushDataFinish
  rw [if_neg (by rw [Option.isNone_iff_eq_none]; rintro hnone; rw [hnone] at h; cases h)]
  dsimp only
  split
  · exact (hstate _ _ _).trans (requestLoadPlayer_holdings _ m playerEnteredWorld)
  · exact setState_holdings _ m none

/-- A message that a map scene has taken is kept or dropped. -/
theorem mapMsg_holdings (w : World ι) (m : ι) (msg : MapMsg ι) :
    (w.mapMsg m msg).holdings ≤ ofOption msg.coin? + w.holdings := by
  cases msg with
  | deliveryPlayerData coin =>
      show (w.setMap m _).holdings ≤ {coin} + _
      rw [setMap_holdings, holdings_eq w m, ← add_assoc]
      gcongr
      exact (w.maps m).ltosDeliveryPlayerData_holdings coin
  | innerRequestLogoff mapId =>
      show (w.setMap m _).holdings ≤ 0 + _
      rw [zero_add]
      exact setMap_holdings_le ((w.maps m).ltosInnerRequestLogoff_holdings _)

/-- A message that the line scene has taken is kept or dropped. -/
theorem lineMsg_holdings (w : World ι) (msg : LineMsg ι) :
    (w.lineMsg msg).holdings ≤ ofOption msg.coin? + w.holdings := by
  cases msg with
  | requestPlayerData m =>
      exact (w.stolRequestPlayerData_holdings m).le.trans (zero_add w.holdings).ge
  | deliveryPlayerData coin => exact w.stolDeliveryPlayerData_holdings coin

theorem serve_holdings (w : World ι) (m : ι) (r : MapRequest) :
    (w.serve m r).holdings = w.holdings := by
  have hreply : ∀ r, (w.cacheReply m r).holdings = w.holdings := fun r => setMap_holdings_eq rfl
  cases r with
  | loadPlayer => exact hreply _
  | loadRole => exact hreply _
  | loadEquipment => exact hreply _
  | flushPlayer player => exact hreply _
  | writePlayer player => rfl
  | writeCoin coin => rfl

end World

/-! ## §4. The balances of a player. -/

namespace World

/-- The balances of a player and of its coin. -/
def purses (w : World ι) (m : ι) (player : Player) : Option (Purse × Purse) :=
  ((w.maps m).getCoin player).map fun coin => (player.purse, coin)

theorem purses_eq_some {w : World ι} {m : ι} {player : Player} {p : Purse × Purse} :
    w.purses m player = some p ↔ (w.maps m).getCoin player = some p.2 ∧ player.purse = p.1 := by
  unfold purses
  cases p
  simp [Prod.ext_iff, and_comm]

variable [DecidableEq ι]

/-- A change of the balances changes no coin. -/
theorem updateBalance_eq {w : World ι} {m : ι} {i : Currency} {increaseValue : Option Int32}
    (h : increaseValue = none ∨ (w.maps m).getPlayer.bind (w.purses m) = none) :
    w.updateBalance m i increaseValue = w := by
  unfold updateBalance
  match increaseValue, hplayer : (w.maps m).getPlayer with
  | none, _ => rfl
  | some value, none => simp [hplayer]
  | some value, some player =>
      have hcoin : (w.maps m).getCoin player = none := by
        obtain hnone | hnone := h
        · cases hnone
        · rw [hplayer] at hnone
          exact Option.map_eq_none_iff.mp hnone
      simp [hplayer, hcoin]

variable [Fintype ι]

/-- A change of the balances changes the coin and the ledger. -/
theorem updateBalance_holdings {w : World ι} {m : ι} (i : Currency) (value : Int32)
    {p : Purse × Purse} (h : (w.maps m).getPlayer.bind (w.purses m) = some p) :
    ∃ t, w.holdings = p.2 ::ₘ t ∧
      (w.updateBalance m i (some value)).holdings
        = p.2.setBalance i ((p.1.add i value).balance i) ::ₘ t ∧
      (w.updateBalance m i (some value)).ledger = w.ledger.add i value := by
  obtain ⟨player, hplayer, hp⟩ := Option.bind_eq_some_iff.mp h
  obtain ⟨hcoin, hpurse⟩ := purses_eq_some.mp hp
  refine ⟨_, coin_holdings (MapScene.coin_of_getCoin hcoin), ?_⟩
  unfold updateBalance
  simp only [hplayer, hcoin, hpurse, and_true]
  refine (setMap_holdings w m _).trans ?_
  rw [setMap_holdings, ← Multiset.cons_add]
  exact congrArg (· + w.elsewhere m) (MapScene.coin_holdings rfl)

end World

end Steppingstone.Coin
