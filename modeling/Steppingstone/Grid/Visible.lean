/-
  Steppingstone.Grid.Visible — what a client was last told of a player is what the scene supplied.

  A client learns a player's attributes from `SMSG_CREATE_OTHER` and from the messages of the
  attribute updates.  Some values are not told as they were supplied:

    * the level of a player that is shown already, which `processLevelup` only stores;
    * the guild icon a player is added with, which `fillPlayerGridInfo` does not copy;
    * the source position of a player that is shown anew, which `fillSmsgCreateOther` takes from
      the destination;
    * a role id of more than 32 bits, a level or a sex from `2 ^ 31` on, and a coordinate that is
      not a float.

  The grid takes an add of a player that it does not have and an update of one that it has; what it
  refuses supplies nothing.
-/
import Steppingstone.Grid.View
import Steppingstone.Lib.TransSys

namespace Steppingstone.Grid

open ManageGridOptimize

/-! ## §1. What a client knows of a player. -/

/-- The player a message is about. -/
def GridMessage.about : GridMessage → Option UInt64
  | .createOther other => some other.guid
  | .playerRemove guid => some guid
  | .playerMove guid .. => some guid
  | .updateFlowerRank guid _ => some guid
  | .updateOtherGuildName guid .. => some guid
  | .updateFollowRole guid _ => some guid
  | .updateCurrentTitle guid _ => some guid
  | .updateSpecialRight guid _ => some guid
  | .updateHorseId guid _ => some guid
  | .wifeUpdateFollow guid _ => some guid
  | .updateYellowVipLevel guid .. => some guid
  | .broadcast _ => none

/-- The last values sent, after a message about the player. -/
def CreateOther.tell (other : CreateOther) : GridMessage → CreateOther
  | .createOther other => other
  | .playerRemove _ => other
  | .playerMove _ srcX srcY dstX dstY =>
      { other with srcX := srcX, srcY := srcY, dstX := dstX, dstY := dstY }
  | .updateFlowerRank _ flowerRank => { other with flowerRank := flowerRank }
  | .updateOtherGuildName _ guildName guildIcon =>
      { other with guildName := guildName, guildIcon := guildIcon }
  | .updateFollowRole _ followRoleId => { other with followRoleId := followRoleId }
  | .updateCurrentTitle _ currentTitle => { other with currentTitle := currentTitle }
  | .updateSpecialRight _ specialRight => { other with specialRight := specialRight }
  | .updateHorseId _ horseId => { other with horseId := horseId }
  | .wifeUpdateFollow _ wifeFollow => { other with wifeFollow := wifeFollow }
  | .updateYellowVipLevel _ yellowVipLevel isYellowVip isYellowYearVip isYellowHighVip =>
      { other with
        yellowVipLevel := yellowVipLevel
        isYellowVip := isYellowVip
        isYellowYearVip := isYellowYearVip
        isYellowHighVip := isYellowHighVip }
  | .broadcast _ => other

/-- The last values that were sent about `q`, after one more message; a removed player is
    forgotten. -/
def know (q : UInt64) (known : Option CreateOther) (m : GridMessage) : Option CreateOther :=
  if m.about = some q then
    match m with
    | .createOther other => some other
    | .playerRemove _ => none
    | m => known.map (·.tell m)
  else known

/-- What the messages of a client's inbox say last about `q`. -/
def ClientWorld.known (w : ClientWorld) (p q : UInt64) : Option CreateOther :=
  (w.inbox p).foldl (know q) none

/-! ## §2. The attributes. -/

/-- What `SMSG_CREATE_OTHER` carries about a player. -/
inductive Attribute
  | roleId | name | level | sex | srcX | srcY | dstX | dstY | direction | firstRole | flowerRank
  | guildName | guildIcon | followRoleId | currentTitle | specialRight | horseId | wifeFollow
  | yellowVipLevel | isYellowVip | isYellowYearVip | isYellowHighVip
  deriving DecidableEq

/-- The value of an attribute; a number is the same number in every type. -/
inductive AttributeValue
  | number (value : ℚ)
  | text (value : String)
  | words (value : List UInt32)
  deriving DecidableEq

/-- The attribute in a message. -/
def Attribute.ofOther (other : CreateOther) : Attribute → AttributeValue
  | roleId => .number other.roleId.toNat
  | name => .text other.name
  | level => .number other.level.toInt
  | sex => .number other.sex.toInt
  | srcX => .number other.srcX
  | srcY => .number other.srcY
  | dstX => .number other.dstX
  | dstY => .number other.dstY
  | direction => .number other.direction.toInt
  | firstRole => .number other.firstRole.toNat
  | flowerRank => .number other.flowerRank.toNat
  | guildName => .text other.guildName
  | guildIcon => .number other.guildIcon.toNat
  | followRoleId => .number other.followRoleId.toNat
  | currentTitle => .words other.currentTitle
  | specialRight => .number other.specialRight.toNat
  | horseId => .number other.horseId.toNat
  | wifeFollow => .number other.wifeFollow.toNat
  | yellowVipLevel => .number other.yellowVipLevel.toNat
  | isYellowVip => .number other.isYellowVip.toNat
  | isYellowYearVip => .number other.isYellowYearVip.toNat
  | isYellowHighVip => .number other.isYellowHighVip.toNat

/-- The attribute in an entry of the grid. -/
def Attribute.ofInfo (info : PlayerGridInfo) : Attribute → AttributeValue
  | roleId => .number info.roleId.toNat
  | name => .text info.name
  | level => .number info.level.toInt
  | sex => .number info.sex.toInt
  | srcX => .number info.srcX.toInt
  | srcY => .number info.srcY.toInt
  | dstX => .number info.dstX.toInt
  | dstY => .number info.dstY.toInt
  | direction => .number info.direction.toInt
  | firstRole => .number info.firstRole.toNat
  | flowerRank => .number info.flowerRank.toNat
  | guildName => .text info.guildName
  | guildIcon => .number info.guildIcon.toNat
  | followRoleId => .number info.followRoleId.toNat
  | currentTitle => .words info.titleVec
  | specialRight => .number info.specialRight.toNat
  | horseId => .number info.horseId.toNat
  | wifeFollow => .number info.wifeFollow.toNat
  | yellowVipLevel => .number info.yellowVipLevel.toNat
  | isYellowVip => .number info.isYellowVip.toNat
  | isYellowYearVip => .number info.isYellowYearVip.toNat
  | isYellowHighVip => .number info.isYellowHighVip.toNat

/-- The attribute of a player. -/
def Attribute.ofPlayer (player : Player) : Attribute → AttributeValue
  | roleId => .number player.roleId.toNat
  | name => .text player.name
  | level => .number player.level.toNat
  | sex => .number player.sex.toNat
  | srcX => .number player.srcX.toInt
  | srcY => .number player.srcY.toInt
  | dstX => .number player.dstX.toInt
  | dstY => .number player.dstY.toInt
  | direction => .number player.direction.toInt
  | firstRole => .number player.firstRole.toNat
  | flowerRank => .number player.flowerRank.toNat
  | guildName => .text player.guildName
  | guildIcon => .number player.guildIcon.toNat
  | followRoleId => .number player.followRoleId.toNat
  | currentTitle => .words player.currentTitle
  | specialRight => .number player.specialRight.toNat
  | horseId => .number player.horseId.toNat
  | wifeFollow => .number player.wifeFollow.toNat
  | yellowVipLevel => .number player.yellowVipLevel.toNat
  | isYellowVip => .number player.isYellowVip.toNat
  | isYellowYearVip => .number player.isYellowYearVip.toNat
  | isYellowHighVip => .number player.isYellowHighVip.toNat

/-- `fillPlayerGridInfo` keeps the attribute: the fields of the grid are large enough, and the
    guild icon is the one it leaves there. -/
def Attribute.Copied (player : Player) : Attribute → Prop
  | roleId => player.roleId.toNat < 2 ^ 32
  | level => player.level.toNat < 2 ^ 31
  | sex => player.sex.toNat < 2 ^ 31
  | guildIcon => player.guildIcon = 0
  | _ => True

/-- `fillSmsgCreateOther` shows the attribute of the entry: it puts the destination, as floats, in
    the place of both positions. -/
def Attribute.Shows (info : PlayerGridInfo) : Attribute → Prop
  | srcX => floatOfInt32 info.dstX = info.srcX.toInt
  | srcY => floatOfInt32 info.dstY = info.srcY.toInt
  | dstX => floatOfInt32 info.dstX = info.dstX.toInt
  | dstY => floatOfInt32 info.dstY = info.dstY.toInt
  | _ => True

/-- `playerMove` shows the attribute of a player that moved: a coordinate is a float. -/
def Attribute.Moves (player : Player) : Attribute → Prop
  | srcX => floatOfInt32 player.srcX = player.srcX.toInt
  | srcY => floatOfInt32 player.srcY = player.srcY.toInt
  | dstX => floatOfInt32 player.dstX = player.dstX.toInt
  | dstY => floatOfInt32 player.dstY = player.dstY.toInt
  | _ => True

/-- The values the scene has supplied for a player, after a call about it that the grid takes; a
    call for an attribute supplies that attribute. -/
def GridCall.supply (known : Player) : GridCall → Player
  | add player => player
  | readd _ => known
  | move player =>
      { known with
        srcX := player.srcX, srcY := player.srcY, dstX := player.dstX, dstY := player.dstY }
  | remove _ => known
  | levelup player => { known with level := player.level }
  | flowerRank player => { known with flowerRank := player.flowerRank }
  | updateGuildName player =>
      { known with guildName := player.guildName, guildIcon := player.guildIcon }
  | updateFollowRoleId player => { known with followRoleId := player.followRoleId }
  | updateTitle player => { known with currentTitle := player.currentTitle }
  | updateSpecialRight player => { known with specialRight := player.specialRight }
  | updateHorse player => { known with horseId := player.horseId }
  | updateWifeFollow player => { known with wifeFollow := player.wifeFollow }
  | updateYellowVipLevel player =>
      { known with
        yellowVipLevel := player.yellowVipLevel
        isYellowVip := player.isYellowVip
        isYellowYearVip := player.isYellowYearVip
        isYellowHighVip := player.isYellowHighVip }
  | broadcastPacket _ => known

/-- The player a call is about. -/
def GridCall.guid : GridCall → UInt64
  | add p | readd p | move p | remove p | levelup p | flowerRank p | updateGuildName p
  | updateFollowRoleId p | updateTitle p | updateSpecialRight p | updateHorse p
  | updateWifeFollow p | updateYellowVipLevel p => p.guid
  | broadcastPacket packet => packet.guid

/-! ## §3. Runs. -/

/-- The grid with its clients, and the values the scene has supplied. -/
structure SuppliedWorld extends ClientWorld where
  supplied : UInt64 → Option Player

/-- What is supplied after a call: an add supplies everything, if the grid takes it; a remove takes
    it back. -/
def SuppliedWorld.supply (w : SuppliedWorld) (call : GridCall) (q : UInt64) : Option Player :=
  if call.guid = q then
    match call, w.grid.getPlayerGridInfo q with
    | .add player, none => some player
    | .add _, some _ => w.supplied q
    | .remove _, _ => none
    | call, _ => (w.supplied q).map call.supply
  else w.supplied q

/-- The calls in any order, under any screen limit. -/
def visibleSystem : TransSys SuppliedWorld GridCall where
  init w := ∃ n : Int, w = {
    grid := { selectedPlayerNum := n }, inbox := fun _ => [], supplied := fun _ => none }
  step w call := some { deliver w.toClientWorld call with supplied := w.supply call }

/-- Another client is in the scene, and is shown the player. -/
def Watched (grid : ManageGridOptimize) (guid : UInt64) : Prop :=
  guid ∈ grid.selectedPlayer ∧ ∃ p, p ≠ guid ∧ (grid.getPlayerGridInfo p).isSome = true

/-- The call tells the attribute as it was supplied.

    * An add that is taken copies it, the new client is shown those of the selected players, and
      the others that of the new player if there is a place for it.
    * A client that is added again is shown those of the selected players.
    * The first of the waiting players is shown to the others in the place of one that leaves.
    * A move and a level that others should hear of are told. -/
def Told (a : Attribute) (w : SuppliedWorld) : GridCall → Prop
  | .add player =>
      w.grid.getPlayerGridInfo player.guid = none →
        a.Copied player ∧
          (∀ q ∈ w.grid.selectedPlayer, ∀ info, w.grid.getPlayerGridInfo q = some info →
            a.Shows info) ∧
          (w.grid.selectedPlayer.length < w.grid.screenLimit →
            (∃ p, (w.grid.getPlayerGridInfo p).isSome = true) → a.Shows (fillPlayerGridInfo player))
  | .readd player =>
      (w.grid.getPlayerGridInfo player.guid).isSome = true →
        ∀ q ∈ w.grid.selectedPlayer, q ≠ player.guid →
          ∀ info, w.grid.getPlayerGridInfo q = some info → a.Shows info
  | .remove player =>
      player.guid ∈ w.grid.selectedPlayer →
        ∀ first ∈ w.grid.notSelectedPlayer.head?,
          (∃ p, p ≠ first ∧ p ≠ player.guid ∧ (w.grid.getPlayerGridInfo p).isSome = true) →
            ∀ info, w.grid.getPlayerGridInfo first = some info → a.Shows info
  | .move player => Watched w.grid player.guid → a.Moves player
  | .levelup player =>
      a = .level → ∀ info, w.grid.getPlayerGridInfo player.guid = some info →
        player.level.toNat < 2 ^ 31 ∧
          (Watched w.grid player.guid → info.level = player.level.toInt32)
  | _ => True

/-! ## §4. What a client knows after several messages. -/

theorem tell_tell (other : CreateOther) (m : GridMessage) :
    (other.tell m).tell m = other.tell m := by
  cases m <;> rfl

/-- A message told twice is told once. -/
theorem know_know (q : UInt64) (known : Option CreateOther) (m : GridMessage) :
    know q (know q known m) m = know q known m := by
  by_cases habout : m.about = some q
  · have htwice : ∀ m' : GridMessage, (known.map (·.tell m')).map (·.tell m')
        = known.map (·.tell m') := by
      intro m'
      cases known with
      | none => rfl
      | some other => exact congrArg some (tell_tell other m')
    unfold know
    rw [if_pos habout, if_pos habout]
    cases m <;> first | rfl | exact htwice _
  · unfold know
    rw [if_neg habout, if_neg habout]

theorem know_of_about_ne {q : UInt64} {m : GridMessage} (h : m.about ≠ some q)
    (known : Option CreateOther) : know q known m = known := if_neg h

/-- Messages about others. -/
theorem foldl_know_of_about_ne {q : UInt64} {msgs : List GridMessage}
    (h : ∀ m ∈ msgs, m.about ≠ some q) (known : Option CreateOther) :
    msgs.foldl (know q) known = known := by
  induction msgs generalizing known with
  | nil => rfl
  | cons m msgs ih =>
      rw [List.foldl_cons, know_of_about_ne (h m List.mem_cons_self)]
      exact ih (fun x hx => h x (List.mem_cons_of_mem m hx)) known

/-- One message, at least once. -/
theorem foldl_know_const {q : UInt64} {m : GridMessage} {msgs : List GridMessage}
    (hne : msgs ≠ []) (h : ∀ x ∈ msgs, x = m) (known : Option CreateOther) :
    msgs.foldl (know q) known = know q known m := by
  induction msgs generalizing known with
  | nil => exact absurd rfl hne
  | cons x msgs ih =>
      have hx : x = m := h x List.mem_cons_self
      rw [List.foldl_cons, hx]
      by_cases hnil : msgs = []
      · rw [hnil]
        rfl
      · rw [ih hnil (fun y hy => h y (List.mem_cons_of_mem x hy)), know_know]

/-- Creates, of which those about `q` all say the same. -/
theorem foldl_know_creates {q : UInt64} {other : CreateOther} (hguid : other.guid = q)
    {msgs : List GridMessage} (h : ∀ m ∈ msgs, m = .createOther other ∨ m.about ≠ some q)
    (known : Option CreateOther) (hsome : .createOther other ∈ msgs ∨ known = some other) :
    msgs.foldl (know q) known = some other := by
  induction msgs generalizing known with
  | nil => exact hsome.resolve_left List.not_mem_nil
  | cons m msgs ih =>
      rw [List.foldl_cons]
      apply ih (fun x hx => h x (List.mem_cons_of_mem m hx))
      have htold : know q known (.createOther other) = some other := if_pos (congrArg some hguid)
      obtain rfl | hm := h m List.mem_cons_self
      · exact Or.inr htold
      · obtain hin | hknown := hsome
        · obtain rfl | hin := List.mem_cons.mp hin
          · exact absurd (congrArg some hguid) hm
          · exact Or.inl hin
        · exact Or.inr ((know_of_about_ne hm known).trans hknown)

theorem heard_doBroadcastPacket_ne {st : ManageGridOptimize} {p : UInt64} (m : GridMessage)
    (hp : p ∈ st.everyone) : heard p (st.doBroadcastPacket m) ≠ [] := by
  have hm : m ∈ heard p (st.doBroadcastPacket m) :=
    mem_heard.mpr (List.mem_map.mpr ⟨p, hp, rfl⟩)
  intro hnil
  rw [hnil] at hm
  cases hm

/-- Everyone is told. -/
theorem know_doBroadcastPacket {st : ManageGridOptimize} {p : UInt64} (hp : p ∈ st.everyone)
    (q : UInt64) (m : GridMessage) (known : Option CreateOther) :
    (heard p (st.doBroadcastPacket m)).foldl (know q) known = know q known m :=
  foldl_know_const (heard_doBroadcastPacket_ne m hp) (fun _ hx => heard_doBroadcastPacket hx) known

/-- Everyone else is told. -/
theorem know_broadcastExcept {st : ManageGridOptimize} {p guid : UInt64} (hp : p ∈ st.everyone)
    (hne : p ≠ guid) (q : UInt64) (m : GridMessage) (known : Option CreateOther) :
    (heard p (st.broadcastExcept guid m)).foldl (know q) known = know q known m := by
  have hm : m ∈ heard p (st.broadcastExcept guid m) :=
    heard_broadcastExcept.mpr ⟨rfl, hp, hne⟩
  refine foldl_know_const (fun hnil => ?_) (fun x hx => (heard_broadcastExcept.mp hx).1) known
  rw [hnil] at hm
  cases hm

/-- Everyone is shown a player that is selected. -/
theorem know_addSelectedPlayer {st : ManageGridOptimize} (info : PlayerGridInfo) {p : UInt64}
    (hp : p ∈ (st.addSelectedPlayer info).1.everyone) (hne : p ≠ info.guid)
    (known : Option CreateOther) :
    (heard p (st.addSelectedPlayer info).2).foldl (know info.guid) known
      = some (fillSmsgCreateOther { info with isSelected := true }) := by
  have hout : (st.addSelectedPlayer info).2 = (st.addSelectedPlayer info).1.broadcastExcept
      info.guid (.createOther (fillSmsgCreateOther { info with isSelected := true })) := rfl
  rw [hout, know_broadcastExcept hp hne]
  exact if_pos rfl

/-- Nothing is said of the others. -/
theorem know_addSelectedPlayer_ne {st : ManageGridOptimize} {info : PlayerGridInfo}
    {p q : UInt64} (hne : q ≠ info.guid) (known : Option CreateOther) :
    (heard p (st.addSelectedPlayer info).2).foldl (know q) known = known := by
  apply foldl_know_of_about_ne
  intro m hm he
  obtain ⟨rfl, -⟩ := heard_broadcastExcept.mp hm
  exact hne (Option.some.inj he).symm

/-! ## §5. Updates. -/

/-- What an update stores in the entry and, unless it is a level, tells everyone. -/
def GridCall.infoUpdate :
    GridCall → Option ((PlayerGridInfo → PlayerGridInfo) × Option (PlayerGridInfo → GridMessage))
  | move p => some
      (fun info => { info with srcX := p.srcX, srcY := p.srcY, dstX := p.dstX, dstY := p.dstY },
        some fun info => .playerMove info.guid (floatOfInt32 info.srcX) (floatOfInt32 info.srcY)
          (floatOfInt32 info.dstX) (floatOfInt32 info.dstY))
  | levelup p => some (fun info => { info with level := p.level.toInt32 }, none)
  | flowerRank p => some (fun info => { info with flowerRank := p.flowerRank },
      some fun info => .updateFlowerRank info.guid p.flowerRank)
  | updateGuildName p => some
      (fun info => { info with guildName := p.guildName, guildIcon := p.guildIcon },
        some fun info => .updateOtherGuildName info.guid info.guildName info.guildIcon)
  | updateFollowRoleId p => some (fun info => { info with followRoleId := p.followRoleId },
      some fun info => .updateFollowRole info.guid info.followRoleId)
  | updateTitle p => some (fun info => { info with titleVec := p.currentTitle },
      some fun info => .updateCurrentTitle info.guid p.currentTitle)
  | updateSpecialRight p => some (fun info => { info with specialRight := p.specialRight },
      some fun info => .updateSpecialRight info.guid p.specialRight)
  | updateHorse p => some (fun info => { info with horseId := p.horseId },
      some fun info => .updateHorseId info.guid p.horseId)
  | updateWifeFollow p => some (fun info => { info with wifeFollow := p.wifeFollow },
      some fun info => .wifeUpdateFollow info.guid p.wifeFollow)
  | updateYellowVipLevel p => some
      (fun info => { info with
        yellowVipLevel := p.yellowVipLevel
        isYellowVip := p.isYellowVip
        isYellowYearVip := p.isYellowYearVip
        isYellowHighVip := p.isYellowHighVip },
        some fun info => .updateYellowVipLevel info.guid p.yellowVipLevel p.isYellowVip
          p.isYellowYearVip p.isYellowHighVip)
  | _ => none

variable {set : PlayerGridInfo → PlayerGridInfo} {message : Option (PlayerGridInfo → GridMessage)}

/-- What the client is told of the entry as it is after the update. -/
def updateOutput (st : ManageGridOptimize) (message : Option (PlayerGridInfo → GridMessage))
    (info : PlayerGridInfo) : Output :=
  match message with
  | some message => if info.isSelected then st.doBroadcastPacket (message info) else []
  | none => []

theorem infoUpdate_keeps {call : GridCall} (hu : call.infoUpdate = some (set, message))
    (info : PlayerGridInfo) :
    (set info).guid = info.guid ∧ (set info).isSelected = info.isSelected := by
  cases call with
  | add | readd | remove | broadcastPacket => cases hu
  | _ =>
      obtain ⟨rfl, rfl⟩ := Prod.mk.inj (Option.some.inj hu)
      exact ⟨rfl, rfl⟩

/-- The updates are alike. -/
theorem process_infoUpdate {st : ManageGridOptimize} (h : Consistent st) {call : GridCall}
    (hu : call.infoUpdate = some (set, message)) :
    st.process call.operation =
      match st.getPlayerGridInfo call.guid with
      | none => (st, [])
      | some info =>
          (st.setInfo call.guid (some (set info)), updateOutput st message (set info)) := by
  cases call with
  | add | readd | remove | broadcastPacket => cases hu
  | flowerRank p =>
      obtain ⟨rfl, rfl⟩ := Prod.mk.inj (Option.some.inj hu)
      have hguid : (GridCall.flowerRank p).guid = p.guid := rfl
      show st.processFlowerRank p.guid p.flowerRank = _
      rw [hguid]
      cases hg : st.getPlayerGridInfo p.guid with
      | none => simp only [processFlowerRank, hg]
      | some info =>
          rw [processFlowerRank_eq h hg]
          rfl
  | _ =>
      obtain ⟨rfl, rfl⟩ := Prod.mk.inj (Option.some.inj hu)
      rfl

/-! ## §6. What is stored is what was supplied. -/

variable {a : Attribute} {w : SuppliedWorld}

/-- The entries have the supplied values. -/
def Stored (a : Attribute) (w : SuppliedWorld) : Prop :=
  ∀ q info, w.grid.getPlayerGridInfo q = some info →
    ∃ player, w.supplied q = some player ∧ a.ofInfo info = a.ofPlayer player

/-- A word below `2 ^ 31` is the same number with a sign. -/
theorem toInt_toInt32 {x : UInt32} (h : x.toNat < 2 ^ 31) : (x.toInt32.toInt : ℚ) = x.toNat := by
  have hint : x.toInt32.toInt = x.toNat := by
    show x.toBitVec.toInt = _
    rw [BitVec.toInt_eq_toNat_of_lt]
    · rfl
    · show 2 * x.toNat < 2 ^ 32
      omega
  rw [hint]
  rfl

/-- An update stores what it supplies. -/
theorem ofInfo_infoUpdate {call : GridCall} (hu : call.infoUpdate = some (set, message))
    (hlevel : ∀ p, call = .levelup p → a = .level → p.level.toNat < 2 ^ 31)
    {info : PlayerGridInfo} {player : Player} (h : a.ofInfo info = a.ofPlayer player) :
    a.ofInfo (set info) = a.ofPlayer (call.supply player) := by
  cases call with
  | add | readd | remove | broadcastPacket => cases hu
  | levelup p =>
      obtain ⟨rfl, rfl⟩ := Prod.mk.inj (Option.some.inj hu)
      cases a with
      | level => exact congrArg AttributeValue.number (toInt_toInt32 (hlevel p rfl rfl))
      | _ => exact h
  | _ =>
      obtain ⟨rfl, rfl⟩ := Prod.mk.inj (Option.some.inj hu)
      cases a <;> first | exact h | rfl

/-- An add stores what it supplies, where it copies it. -/
theorem ofInfo_fillPlayerGridInfo (player : Player) (hcopied : a.Copied player) :
    a.ofInfo (fillPlayerGridInfo player) = a.ofPlayer player := by
  cases a with
  | guildIcon =>
      have hzero : player.guildIcon = 0 := hcopied
      show AttributeValue.number (0 : Nat) = .number player.guildIcon.toNat
      rw [hzero]
      rfl
  | roleId =>
      have hlt : player.roleId.toNat < 2 ^ 32 := hcopied
      show AttributeValue.number (player.roleId.toUInt32.toNat : Nat) = _
      rw [UInt64.toNat_toUInt32, Nat.mod_eq_of_lt hlt]
      rfl
  | level => exact congrArg AttributeValue.number (toInt_toInt32 hcopied)
  | sex => exact congrArg AttributeValue.number (toInt_toInt32 hcopied)
  | _ => rfl

/-- A message that creates a player tells its entry, where it shows it. -/
theorem ofOther_fillSmsgCreateOther {info : PlayerGridInfo} (hshows : a.Shows info) :
    a.ofOther (fillSmsgCreateOther info) = a.ofInfo info := by
  cases a with
  | srcX | srcY | dstX | dstY => exact congrArg AttributeValue.number hshows
  | _ => rfl

theorem ofInfo_isSelected (a : Attribute) (info : PlayerGridInfo) (b : Bool) :
    a.ofInfo { info with isSelected := b } = a.ofInfo info := by
  cases a <;> rfl

theorem shows_isSelected {info : PlayerGridInfo} (h : a.Shows info) (b : Bool) :
    a.Shows { info with isSelected := b } := by
  cases a <;> exact h

/-- **An update tells what it stores**, if it tells anything. -/
theorem told_infoUpdate {call : GridCall} {m : PlayerGridInfo → GridMessage}
    (hu : call.infoUpdate = some (set, some m)) (hmove : ∀ p, call = .move p → a.Moves p)
    (info : PlayerGridInfo) {other : CreateOther} (h : a.ofOther other = a.ofInfo info) :
    (m (set info)).about = some info.guid ∧
      know info.guid (some other) (m (set info)) = some (other.tell (m (set info))) ∧
      a.ofOther (other.tell (m (set info))) = a.ofInfo (set info) := by
  cases call with
  | add | readd | remove | broadcastPacket => cases hu
  | levelup => cases (Prod.mk.inj (Option.some.inj hu)).2
  | move p =>
      obtain ⟨rfl, hm⟩ := Prod.mk.inj (Option.some.inj hu)
      obtain rfl := Option.some.inj hm
      refine ⟨rfl, if_pos rfl, ?_⟩
      have hfloat : a.Moves p := hmove p rfl
      cases a with
      | srcX | srcY | dstX | dstY => exact congrArg AttributeValue.number hfloat
      | _ => exact h
  | _ =>
      obtain ⟨rfl, hm⟩ := Prod.mk.inj (Option.some.inj hu)
      obtain rfl := Option.some.inj hm
      refine ⟨rfl, if_pos rfl, ?_⟩
      cases a <;> first | exact h | rfl

theorem about_infoUpdate {call : GridCall} {m : PlayerGridInfo → GridMessage}
    (hu : call.infoUpdate = some (set, some m)) (info : PlayerGridInfo) :
    (m (set info)).about = some info.guid := by
  cases call with
  | add | readd | remove | broadcastPacket => cases hu
  | levelup => cases (Prod.mk.inj (Option.some.inj hu)).2
  | _ =>
      obtain ⟨rfl, hm⟩ := Prod.mk.inj (Option.some.inj hu)
      obtain rfl := Option.some.inj hm
      rfl

/-! ## §7. What a client knows after a call. -/

/-- What `p` knows of `q` when a call begins: nothing, unless `p` is in the scene. -/
def SuppliedWorld.knownBefore (w : SuppliedWorld) (p q : UInt64) : Option CreateOther :=
  if (w.grid.getPlayerGridInfo p).isSome then w.known p q else none

/-- Every client of the scene knows the entries of the selected players but its own. -/
def Shown (a : Attribute) (grid : ManageGridOptimize)
    (known : UInt64 → UInt64 → Option CreateOther) : Prop :=
  ∀ p q, (grid.getPlayerGridInfo p).isSome = true → q ∈ grid.selectedPlayer → q ≠ p →
    ∃ other info, known p q = some other ∧ grid.getPlayerGridInfo q = some info ∧
      a.ofOther other = a.ofInfo info

/-- The invariant of a run. -/
structure Agrees (a : Attribute) (w : SuppliedWorld) : Prop where
  consistent : Consistent w.grid
  stored : Stored a w
  shown : Shown a w.grid w.known

theorem supply_of_ne {call : GridCall} {q : UInt64} (h : call.guid ≠ q) :
    w.supply call q = w.supplied q := if_neg h

theorem knownBefore_present {p : UInt64} (hp : (w.grid.getPlayerGridInfo p).isSome = true)
    (q : UInt64) : w.knownBefore p q = w.known p q := if_pos hp

/-- One call, read client by client. -/
theorem agrees_of (h : Agrees a w) {call : GridCall} {grid : ManageGridOptimize} {out : Output}
    (hop : w.grid.process call.operation = (grid, out))
    (hstored : ∀ q info, grid.getPlayerGridInfo q = some info →
      ∃ player, w.supply call q = some player ∧ a.ofInfo info = a.ofPlayer player)
    (hshown : ∀ p q, (grid.getPlayerGridInfo p).isSome = true → q ∈ grid.selectedPlayer → q ≠ p →
      ∃ other info, (heard p out).foldl (know q) (w.knownBefore p q) = some other ∧
        grid.getPlayerGridInfo q = some info ∧ a.ofOther other = a.ofInfo info) :
    Agrees a { deliver w.toClientWorld call with supplied := w.supply call } := by
  have hgrid : (deliver w.toClientWorld call).grid = grid := congrArg Prod.fst hop
  refine ⟨process_consistent h.consistent call, ?_, ?_⟩
  · intro q info hq
    change (deliver w.toClientWorld call).grid.getPlayerGridInfo q = some info at hq
    rw [hgrid] at hq
    exact hstored q info hq
  · intro p q hp hq hne
    change ((deliver w.toClientWorld call).grid.getPlayerGridInfo p).isSome = true at hp
    change q ∈ (deliver w.toClientWorld call).grid.selectedPlayer at hq
    show ∃ other info, (deliver w.toClientWorld call).known p q = some other ∧
      (deliver w.toClientWorld call).grid.getPlayerGridInfo q = some info ∧ _
    rw [hgrid] at hp hq ⊢
    have hknown : (deliver w.toClientWorld call).known p q
        = (heard p out).foldl (know q) (w.knownBefore p q) := by
      show ((if _ then w.inbox p else []) ++ heard p _).foldl (know q) none = _
      rw [List.foldl_append, hop, SuppliedWorld.knownBefore]
      split <;> rfl
    rw [hknown]
    exact hshown p q hp hq hne

/-- A call that answers nothing and changes nothing. -/
theorem agrees_ignored (h : Agrees a w) {call : GridCall}
    (hop : w.grid.process call.operation = (w.grid, []))
    (hsupply : ∀ q info, w.grid.getPlayerGridInfo q = some info → w.supply call q = w.supplied q) :
    Agrees a { deliver w.toClientWorld call with supplied := w.supply call } := by
  apply agrees_of h hop
  · intro q info hq
    rw [hsupply q info hq]
    exact h.stored q info hq
  · intro p q hp hq hne
    rw [knownBefore_present hp]
    exact h.shown p q hp hq hne

/-! ## §8. Each call. -/

/-- What a level or an update of `guid` leaves as it is. -/
theorem setInfo_present {st : ManageGridOptimize} {guid p : UInt64} {info info' : PlayerGridInfo}
    (hg : st.getPlayerGridInfo guid = some info)
    (hp : ((st.setInfo guid (some info')).getPlayerGridInfo p).isSome = true) :
    (st.getPlayerGridInfo p).isSome = true := by
  rw [getPlayerGridInfo_setInfo] at hp
  by_cases hpg : p = guid
  · rw [hpg, hg]
    rfl
  · rw [if_neg hpg] at hp
    exact hp

/-- A level changes no other attribute. -/
theorem ofInfo_level (ha : a ≠ .level) (info : PlayerGridInfo) (level : Int32) :
    a.ofInfo { info with level := level } = a.ofInfo info := by
  cases a <;> first | rfl | exact absurd rfl ha

/-- A player that someone else is shown is watched. -/
theorem watched_of {grid : ManageGridOptimize} {p q : UInt64} (hq : q ∈ grid.selectedPlayer)
    (hp : (grid.getPlayerGridInfo p).isSome = true) (hne : q ≠ p) : Watched grid q :=
  ⟨hq, p, Ne.symm hne, hp⟩

theorem agrees_infoUpdate (h : Agrees a w) {call : GridCall} (ht : Told a w call)
    (hu : call.infoUpdate = some (set, message)) :
    Agrees a { deliver w.toClientWorld call with supplied := w.supply call } := by
  have hop := process_infoUpdate h.consistent hu
  have hsupply : w.supply call call.guid = (w.supplied call.guid).map call.supply := by
    show (if call.guid = call.guid then _ else _) = _
    rw [if_pos rfl]
    cases call with
    | add | readd | remove | broadcastPacket => cases hu
    | _ => rfl
  cases hg : w.grid.getPlayerGridInfo call.guid with
  | none =>
      rw [hg] at hop
      apply agrees_ignored h hop
      intro q info hq
      have hne : call.guid ≠ q := by
        intro he
        rw [← he, hg] at hq
        cases hq
      exact supply_of_ne hne
  | some info =>
      rw [hg] at hop
      have hkey : info.guid = call.guid := h.consistent.key _ _ hg
      obtain ⟨-, hselected⟩ := infoUpdate_keeps hu info
      apply agrees_of h hop
      · intro q info' hq
        rw [getPlayerGridInfo_setInfo] at hq
        by_cases hqg : q = call.guid
        · rw [if_pos hqg] at hq
          obtain rfl := Option.some.inj hq
          obtain ⟨player, hplayer, hstored⟩ := h.stored _ _ hg
          have hlevel : ∀ x, call = .levelup x → a = .level → x.level.toNat < 2 ^ 31 := by
            rintro x rfl ha
            exact (ht ha info hg).1
          refine ⟨call.supply player, ?_, ofInfo_infoUpdate hu hlevel hstored⟩
          rw [hqg, hsupply, hplayer]
          rfl
        · rw [if_neg hqg] at hq
          rw [supply_of_ne (Ne.symm hqg)]
          exact h.stored q info' hq
      · intro p q hp hq hne
        have hold : (w.grid.getPlayerGridInfo p).isSome = true := setInfo_present hg hp
        obtain ⟨other, i, hother, hi, heq⟩ := h.shown p q hold hq hne
        rw [getPlayerGridInfo_setInfo]
        rw [knownBefore_present hold, hother]
        by_cases hqg : q = call.guid
        · -- the updated player, which is selected
          rw [if_pos hqg]
          obtain rfl : info = i := by
            rw [hqg, hg] at hi
            exact Option.some.inj hi
          cases message with
          | some m =>
              have hsel : info.isSelected = true := by
                obtain ⟨j, hj, hjs⟩ := (h.consistent.selected q).mp hq
                obtain rfl : info = j := Option.some.inj (hi.symm.trans hj)
                exact hjs
              have hmove : ∀ x, call = .move x → a.Moves x := by
                rintro x rfl
                have hguid : q = x.guid := hqg
                exact ht (watched_of (hguid ▸ hq) hold (hguid ▸ hne))
              obtain ⟨-, hknow, htell⟩ := told_infoUpdate hu hmove info heq
              refine ⟨other.tell (m (set info)), set info, ?_, rfl, htell⟩
              show (heard p (if (set info).isSelected then _ else [])).foldl _ _ = _
              rw [hselected, if_pos hsel,
                know_doBroadcastPacket (h.consistent.mem_everyone.mpr hold), hqg, ← hkey]
              exact hknow
          | none =>
              refine ⟨other, set info, rfl, rfl, heq.trans ?_⟩
              cases call with
              | levelup player =>
                  obtain ⟨rfl, -⟩ := Prod.mk.inj (Option.some.inj hu)
                  by_cases ha : a = .level
                  · -- the level is the one that is stored already
                    have hguid : q = player.guid := hqg
                    have hsame : info.level = player.level.toInt32 :=
                      (ht ha info hg).2 (watched_of (hguid ▸ hq) hold (hguid ▸ hne))
                    show a.ofInfo info = a.ofInfo { info with level := player.level.toInt32 }
                    rw [← hsame]
                  · exact (ofInfo_level ha info player.level.toInt32).symm
              | add | readd | remove | broadcastPacket => cases hu
              | _ => cases (Prod.mk.inj (Option.some.inj hu)).2
        · rw [if_neg hqg]
          refine ⟨other, i, ?_, hi, heq⟩
          apply foldl_know_of_about_ne
          intro x hx
          cases message with
          | none => exact absurd hx List.not_mem_nil
          | some m =>
              change x ∈ heard p (if (set info).isSelected then _ else []) at hx
              split at hx
              · rw [heard_doBroadcastPacket hx, about_infoUpdate hu info, hkey]
                exact fun he => hqg (Option.some.inj he).symm
              · exact absurd hx List.not_mem_nil

/-- The selected players are shown to `guid`, and nobody else hears of it. -/
theorem know_createOther {st : ManageGridOptimize} (guid : UInt64) {p q : UInt64}
    {info : PlayerGridInfo}
    (hkey : ∀ g ∈ st.selectedPlayer, ∃ info, st.getPlayerGridInfo g = some info ∧ info.guid = g)
    (hq : q ∈ st.selectedPlayer) (hg : st.getPlayerGridInfo q = some info) (hne : q ≠ p)
    (known : Option CreateOther) :
    (heard p (st.createOther guid)).foldl (know q) known
      = if p = guid then some (fillSmsgCreateOther info) else known := by
  have hguid : info.guid = q := by
    obtain ⟨i, hi, hik⟩ := hkey q hq
    obtain rfl : info = i := Option.some.inj (hg.symm.trans hi)
    exact hik
  by_cases hp : p = guid
  · rw [if_pos hp]
    apply foldl_know_creates hguid
    · intro m hm
      obtain ⟨-, x, hx, i, hi, -, rfl⟩ := mem_createOther.mp hm
      by_cases hxq : x = q
      · obtain rfl : i = info := by
          rw [hxq, hg] at hi
          exact (Option.some.inj hi).symm
        exact Or.inl rfl
      · obtain ⟨j, hj, hjk⟩ := hkey x hx
        obtain rfl : i = j := Option.some.inj (hi.symm.trans hj)
        exact Or.inr fun he => hxq (hjk.symm.trans (Option.some.inj he))
    · refine Or.inl (mem_createOther.mpr ⟨hp, q, hq, info, hg, ?_, rfl⟩)
      rw [hguid, ← hp]
      exact Ne.symm hne
  · rw [if_neg hp]
    apply foldl_know_of_about_ne
    intro m hm
    exact absurd (mem_createOther.mp hm).1 hp

theorem agrees_readd (h : Agrees a w) (player : Player) (ht : Told a w (.readd player)) :
    Agrees a { deliver w.toClientWorld (.readd player) with
      supplied := w.supply (.readd player) } := by
  have hop : w.grid.process (GridCall.readd player).operation
      = w.grid.processReadd player.guid := rfl
  have hsupply : ∀ q, w.supply (.readd player) q = w.supplied q := by
    intro q
    show (if player.guid = q then (w.supplied q).map id else w.supplied q) = _
    rw [Option.map_id]
    exact ite_self _
  rw [processReadd] at hop
  cases hg : w.grid.getPlayerGridInfo player.guid with
  | none => exact agrees_ignored h (by rw [hop, hg]) fun q _ _ => hsupply q
  | some info =>
      rw [hg] at hop
      apply agrees_of h hop
      · intro q i hq
        rw [hsupply]
        exact h.stored q i hq
      · intro p q hp hq hne
        obtain ⟨other, i, hother, hi, heq⟩ := h.shown p q hp hq hne
        rw [know_createOther player.guid h.consistent.selected_key hq hi hne,
          knownBefore_present hp, hother]
        by_cases hpg : p = player.guid
        · have hpresent : (w.grid.getPlayerGridInfo player.guid).isSome = true := hpg ▸ hp
          have hshows : a.Shows i := ht hpresent q hq (hpg ▸ hne) i hi
          exact ⟨fillSmsgCreateOther i, i, if_pos hpg, hi, ofOther_fillSmsgCreateOther hshows⟩
        · exact ⟨other, i, if_neg hpg, hi, heq⟩

theorem agrees_broadcastPacket (h : Agrees a w) (packet : BroadcastPacket) :
    Agrees a { deliver w.toClientWorld (.broadcastPacket packet) with
      supplied := w.supply (.broadcastPacket packet) } := by
  have hsupply : ∀ q, w.supply (.broadcastPacket packet) q = w.supplied q := by
    intro q
    show (if packet.guid = q then (w.supplied q).map id else w.supplied q) = _
    rw [Option.map_id]
    exact ite_self _
  have hgrid : (w.grid.processBroadcast packet).1 = w.grid := by
    unfold processBroadcast
    cases w.grid.getPlayerGridInfo packet.guid <;> rfl
  have hout : ∀ p, ∀ m ∈ heard p (w.grid.processBroadcast packet).2, m.about = none := by
    intro p m hm
    unfold processBroadcast at hm
    cases hg : w.grid.getPlayerGridInfo packet.guid with
    | none =>
        rw [hg] at hm
        rw [heard_doBroadcastPacket hm]
        rfl
    | some info =>
        rw [hg] at hm
        change m ∈ heard p (if info.isSelected then _ else []) at hm
        split at hm
        · rw [heard_doBroadcastPacket hm]
          rfl
        · exact absurd hm List.not_mem_nil
  have hop : w.grid.process (GridCall.broadcastPacket packet).operation
      = (w.grid, (w.grid.processBroadcast packet).2) := Prod.ext hgrid rfl
  apply agrees_of h hop
  · intro q i hq
    rw [hsupply]
    exact h.stored q i hq
  · intro p q hp hq hne
    have hknown : (heard p (w.grid.processBroadcast packet).2).foldl (know q) (w.knownBefore p q)
        = w.known p q := by
      rw [foldl_know_of_about_ne, knownBefore_present hp]
      intro m hm he
      rw [hout p m hm] at he
      cases he
    rw [hknown]
    exact h.shown p q hp hq hne

theorem supply_add (player : Player) :
    w.supply (.add player) player.guid =
      match w.grid.getPlayerGridInfo player.guid with
      | none => some player
      | some _ => w.supplied player.guid := by
  show (if player.guid = player.guid then _ else _) = _
  rw [if_pos rfl]
  cases w.grid.getPlayerGridInfo player.guid <;> rfl

/-- The entries and the supplied values, after an add that is taken. -/
theorem stored_add (h : Agrees a w) {player : Player} (ht : Told a w (.add player))
    (hg : w.grid.getPlayerGridInfo player.guid = none) {b : Bool} {q : UInt64}
    {info : PlayerGridInfo}
    (hq : (if q = player.guid then some { fillPlayerGridInfo player with isSelected := b }
      else w.grid.getPlayerGridInfo q) = some info) :
    ∃ known, w.supply (.add player) q = some known ∧ a.ofInfo info = a.ofPlayer known := by
  by_cases hqg : q = player.guid
  · rw [if_pos hqg] at hq
    obtain rfl := Option.some.inj hq
    refine ⟨player, ?_, ?_⟩
    · rw [hqg, supply_add, hg]
    · rw [ofInfo_isSelected]
      exact ofInfo_fillPlayerGridInfo player (ht hg).1
  · rw [if_neg hqg] at hq
    rw [supply_of_ne (Ne.symm hqg)]
    exact h.stored q info hq

/-- What the client `p` knows of a player that was selected before an add. -/
theorem shown_add (h : Agrees a w) {player : Player} (ht : Told a w (.add player))
    (hg : w.grid.getPlayerGridInfo player.guid = none) {info : PlayerGridInfo} {p q : UInt64}
    (hp : p = player.guid ∨ (w.grid.getPlayerGridInfo p).isSome = true)
    (hq : q ∈ w.grid.selectedPlayer) (hne : q ≠ p) :
    ∃ other i, (heard p ((w.grid.setInfo player.guid (some info)).createOther player.guid)).foldl
        (know q) (w.knownBefore p q) = some other ∧
      w.grid.getPlayerGridInfo q = some i ∧ a.ofOther other = a.ofInfo i := by
  have hlook : ∀ g ∈ w.grid.selectedPlayer,
      (w.grid.setInfo player.guid (some info)).getPlayerGridInfo g =
        w.grid.getPlayerGridInfo g := by
    intro g hgs
    obtain ⟨i, hi, -⟩ := h.consistent.selected_key g hgs
    rw [getPlayerGridInfo_setInfo, if_neg]
    intro he
    rw [he, hg] at hi
    cases hi
  have hkey : ∀ g ∈ (w.grid.setInfo player.guid (some info)).selectedPlayer,
      ∃ i, (w.grid.setInfo player.guid (some info)).getPlayerGridInfo g = some i ∧ i.guid = g := by
    intro g hgs
    rw [hlook g hgs]
    exact h.consistent.selected_key g hgs
  obtain ⟨i, hi, -⟩ := h.consistent.selected_key q hq
  rw [know_createOther player.guid hkey hq ((hlook q hq).trans hi) hne]
  by_cases hpg : p = player.guid
  · have hshows : a.Shows i := (ht hg).2.1 q hq i hi
    exact ⟨fillSmsgCreateOther i, i, if_pos hpg, hi, ofOther_fillSmsgCreateOther hshows⟩
  · have hold := hp.resolve_left hpg
    rw [if_neg hpg, knownBefore_present hold]
    exact h.shown p q hold hq hne

/-- A client that is in the scene after an add is the new one or was there. -/
theorem present_add {st : ManageGridOptimize} {guid p : UInt64} {info : PlayerGridInfo}
    (hp : (if p = guid then some info else st.getPlayerGridInfo p).isSome = true) :
    p = guid ∨ (st.getPlayerGridInfo p).isSome = true := by
  by_cases hpg : p = guid
  · exact Or.inl hpg
  · rw [if_neg hpg] at hp
    exact Or.inr hp

theorem agrees_add (h : Agrees a w) (player : Player) (ht : Told a w (.add player)) :
    Agrees a { deliver w.toClientWorld (.add player) with supplied := w.supply (.add player) } := by
  have hop : w.grid.process (GridCall.add player).operation
      = w.grid.processAdd player.guid (fillPlayerGridInfo player) := rfl
  cases hg : w.grid.getPlayerGridInfo player.guid with
  | some i =>
      apply agrees_ignored h (by rw [hop, processAdd, hg])
      intro q info hq
      by_cases hqg : player.guid = q
      · rw [← hqg, supply_add, hg]
      · exact supply_of_ne hqg
  | none =>
      by_cases hroom : w.grid.selectedPlayer.length < w.grid.screenLimit
      · have hcons := add_selected_consistent h.consistent (fillPlayerGridInfo player) hg hroom
        rw [processAdd_room hg hroom] at hop
        have hlook : ∀ g, ((w.grid.setInfo player.guid
              (some (fillPlayerGridInfo player))).addSelectedPlayer
                (fillPlayerGridInfo player)).1.getPlayerGridInfo g
            = if g = player.guid then some { fillPlayerGridInfo player with isSelected := true }
              else w.grid.getPlayerGridInfo g := by
          intro g
          rw [getPlayerGridInfo_addSelectedPlayer, getPlayerGridInfo_setInfo]
          show (if g = player.guid then _ else if g = player.guid then _ else _) = _
          by_cases hgg : g = player.guid
          · rw [if_pos hgg, if_pos hgg]
          · rw [if_neg hgg, if_neg hgg, if_neg hgg]
        apply agrees_of h hop
        · intro q info hq
          rw [hlook] at hq
          exact stored_add h ht hg hq
        · intro p q hp hq hne
          have hmem := hcons.mem_everyone.mpr hp
          rw [hlook] at hp ⊢
          rw [selectedPlayer_addSelectedPlayer, mem_insertGuid] at hq
          rw [heard_append, List.foldl_append]
          by_cases hqg : q = player.guid
          · -- everyone else is shown the new player
            have hpg : p ≠ player.guid := fun he => hne (hqg.trans he.symm)
            have hshow := know_addSelectedPlayer (fillPlayerGridInfo player) hmem hpg
            have hold := (present_add hp).resolve_left hpg
            have hshows : a.Shows (fillPlayerGridInfo player) := (ht hg).2.2 hroom ⟨p, hold⟩
            rw [hqg, if_pos rfl]
            exact ⟨_, _, hshow _, rfl, ofOther_fillSmsgCreateOther (shows_isSelected hshows true)⟩
          · have hother : q ≠ (fillPlayerGridInfo player).guid := hqg
            rw [know_addSelectedPlayer_ne hother, if_neg hqg]
            exact shown_add h ht hg (present_add hp) (hq.resolve_left hqg) hne
      · rw [processAdd_full hg hroom] at hop
        have hlook : ∀ g, (w.grid.setInfo player.guid
              (some (fillPlayerGridInfo player))).getPlayerGridInfo g
            = if g = player.guid then some { fillPlayerGridInfo player with isSelected := false }
              else w.grid.getPlayerGridInfo g := fun g => getPlayerGridInfo_setInfo _ _ g _
        apply agrees_of h hop
        · intro q info hq
          exact stored_add h ht hg ((hlook q).symm.trans hq)
        · intro p q hp hq hne
          have hp' := (congrArg Option.isSome (hlook p)).symm.trans hp
          obtain ⟨other, i, hother, hi, heq⟩ := shown_add h ht hg (present_add hp') hq hne
          refine ⟨other, i, hother, ?_, heq⟩
          refine (hlook q).trans ?_
          rw [if_neg, hi]
          intro he
          rw [he, hg] at hi
          cases hi

/-- What is stored of the others stays. -/
theorem stored_remove (h : Agrees a w) {player : Player} {q : UInt64} {info : PlayerGridInfo}
    (hne : q ≠ player.guid) (hq : w.grid.getPlayerGridInfo q = some info) (b : Bool) :
    ∃ known, w.supply (.remove player) q = some known ∧
      a.ofInfo { info with isSelected := b } = a.ofPlayer known := by
  rw [supply_of_ne (Ne.symm hne), ofInfo_isSelected]
  exact h.stored q info hq

/-- That `guid` leaves says nothing of the others. -/
theorem know_playerRemove {st : ManageGridOptimize} {guid p q : UInt64} (hne : q ≠ guid)
    (known : Option CreateOther) :
    (heard p (st.broadcastExcept guid (.playerRemove guid))).foldl (know q) known = known := by
  apply foldl_know_of_about_ne
  intro m hm he
  obtain ⟨rfl, -⟩ := heard_broadcastExcept.mp hm
  exact hne (Option.some.inj he).symm

/-- A client leaves and nobody takes its place; `out` says nothing of the selected players. -/
theorem agrees_leave (h : Agrees a w) {player : Player} {st : ManageGridOptimize} {out : Output}
    (hop : w.grid.process (GridCall.remove player).operation
      = (st.setInfo player.guid none, out))
    (hlook : ∀ q, st.getPlayerGridInfo q = w.grid.getPlayerGridInfo q)
    (hsel : ∀ q ∈ st.selectedPlayer, q ≠ player.guid ∧ q ∈ w.grid.selectedPlayer)
    (hout : ∀ p q known, q ≠ player.guid → (heard p out).foldl (know q) known = known) :
    Agrees a { deliver w.toClientWorld (.remove player) with
      supplied := w.supply (.remove player) } := by
  apply agrees_of h hop
  · intro q i hq
    rw [getPlayerGridInfo_setInfo] at hq
    by_cases hqg : q = player.guid
    · rw [if_pos hqg] at hq
      cases hq
    · rw [if_neg hqg, hlook] at hq
      exact stored_remove h hqg hq i.isSelected
  · intro p q hp hq hne
    obtain ⟨hqg, hq⟩ := hsel q hq
    rw [getPlayerGridInfo_setInfo] at hp ⊢
    by_cases hpg : p = player.guid
    · rw [if_pos hpg] at hp
      cases hp
    · rw [if_neg hpg, hlook] at hp
      rw [if_neg hqg, hlook, hout p q _ hqg, knownBefore_present hp]
      exact h.shown p q hp hq hne

/-- A selected client leaves, and the first of the waiting players is shown in its place. -/
theorem agrees_promotion (h : Agrees a w) {player : Player} {first : UInt64} {rest : List UInt64}
    {i : PlayerGridInfo} (ht : Told a w (.remove player))
    (hsel : player.guid ∈ w.grid.selectedPlayer)
    (hw : w.grid.notSelectedPlayer = first :: rest)
    (hf : w.grid.getPlayerGridInfo first = some i)
    (hop : w.grid.process (GridCall.remove player).operation
      = (({ w.grid with
            selectedPlayer := w.grid.selectedPlayer.erase player.guid
            notSelectedPlayer := rest }.addSelectedPlayer i).1.setInfo player.guid none,
          w.grid.broadcastExcept player.guid (.playerRemove player.guid) ++
            ({ w.grid with
                selectedPlayer := w.grid.selectedPlayer.erase player.guid
                notSelectedPlayer := rest }.addSelectedPlayer i).2)) :
    Agrees a { deliver w.toClientWorld (.remove player) with
      supplied := w.supply (.remove player) } := by
  have hkey : i.guid = first := h.consistent.key first i hf
  have hcons := remove_replaced_consistent h.consistent hsel hw hf
  have hfg : first ≠ player.guid := by
    intro he
    have hwait : first ∈ w.grid.notSelectedPlayer := by
      rw [hw]
      exact List.mem_cons_self
    obtain ⟨j, hj, hjs⟩ := (h.consistent.waiting first).mp hwait
    exact h.consistent.not_selected hj hjs (he ▸ hsel)
  apply agrees_of h hop
  · intro q j hq
    rw [getPlayerGridInfo_setInfo, getPlayerGridInfo_addSelectedPlayer, hkey] at hq
    by_cases hqg : q = player.guid
    · rw [if_pos hqg] at hq
      cases hq
    · rw [if_neg hqg] at hq
      by_cases hqf : q = first
      · rw [if_pos hqf] at hq
        obtain rfl := Option.some.inj hq
        exact stored_remove h hqg (hqf ▸ hf) true
      · rw [if_neg hqf] at hq
        exact stored_remove h hqg hq j.isSelected
  · intro p q hp hq hne
    have hin := hcons.mem_everyone.mpr hp
    rw [selectedPlayer_setInfo, selectedPlayer_addSelectedPlayer, mem_insertGuid, hkey] at hq
    rw [getPlayerGridInfo_setInfo, getPlayerGridInfo_addSelectedPlayer, hkey] at hp ⊢
    rw [heard_append, List.foldl_append]
    have hpg : p ≠ player.guid := by
      intro he
      rw [if_pos he] at hp
      cases hp
    have hold : (w.grid.getPlayerGridInfo p).isSome = true := by
      rw [if_neg hpg] at hp
      by_cases hpf : p = first
      · rw [hpf, hf]
        rfl
      · rw [if_neg hpf] at hp
        exact hp
    by_cases hqf : q = first
    · have hpf : p ≠ first := fun he => hne (hqf.trans he.symm)
      have hshows : a.Shows i := ht hsel first (hw ▸ rfl) ⟨p, hpf, hpg, hold⟩ i hf
      rw [if_neg (hqf ▸ hfg), if_pos hqf, hqf, ← hkey]
      exact ⟨_, _, know_addSelectedPlayer i hin (hkey ▸ hpf) _, rfl,
        ofOther_fillSmsgCreateOther (shows_isSelected hshows true)⟩
    · obtain ⟨hqg, hq⟩ := h.consistent.nodupSelected.mem_erase_iff.mp (hq.resolve_left hqf)
      rw [know_addSelectedPlayer_ne (hkey ▸ hqf), know_playerRemove hqg,
        knownBefore_present hold, if_neg hqg, if_neg hqf]
      exact h.shown p q hold hq hne

theorem agrees_remove (h : Agrees a w) (player : Player) (ht : Told a w (.remove player)) :
    Agrees a { deliver w.toClientWorld (.remove player) with
      supplied := w.supply (.remove player) } := by
  have hop : w.grid.process (GridCall.remove player).operation
      = w.grid.processRemove player.guid := rfl
  rw [processRemove] at hop
  cases hg : w.grid.getPlayerGridInfo player.guid with
  | none =>
      apply agrees_ignored h (by rw [hop, hg])
      intro q info hq
      have hne : player.guid ≠ q := by
        intro he
        rw [← he, hg] at hq
        cases hq
      exact supply_of_ne hne
  | some info =>
      rw [hg] at hop
      cases hs : info.isSelected with
      | false =>
          simp only [hs, Bool.false_eq_true, if_false] at hop
          refine agrees_leave h hop (fun _ => rfl) ?_ (fun _ _ _ _ => rfl)
          intro q hq
          refine ⟨?_, hq⟩
          intro he
          exact h.consistent.not_selected hg hs (he ▸ hq)
      | true =>
          simp only [hs, if_true] at hop
          have hsel : player.guid ∈ w.grid.selectedPlayer :=
            (h.consistent.selected _).mpr ⟨info, hg, hs⟩
          obtain ⟨-, he⟩ | ⟨first, rest, i, hw, hf, he⟩ :=
            removeSelected_cases h.consistent player.guid
          · rw [he] at hop
            refine agrees_leave h hop (fun _ => rfl) ?_ ?_
            · intro q hq
              exact h.consistent.nodupSelected.mem_erase_iff.mp hq
            · intro p q known hne
              exact know_playerRemove hne known
          · rw [he] at hop
            exact agrees_promotion h ht hsel hw hf hop

/-! ## §9. Every run. -/

theorem agrees_start {w : SuppliedWorld} (h : visibleSystem.init w) : Agrees a w := by
  obtain ⟨n, rfl⟩ := h
  refine ⟨initial_consistent n, ?_, ?_⟩
  · intro q info hq
    cases hq
  · intro p q hp
    cases hp

/-- One call keeps the invariant. -/
theorem agrees_step (h : Agrees a w) {call : GridCall} (ht : Told a w call) :
    Agrees a { deliver w.toClientWorld call with supplied := w.supply call } := by
  cases call with
  | add player => exact agrees_add h player ht
  | readd player => exact agrees_readd h player ht
  | remove player => exact agrees_remove h player ht
  | broadcastPacket packet => exact agrees_broadcastPacket h packet
  | _ => exact agrees_infoUpdate h ht rfl

/-- **Every change of a visible attribute reaches every observer**, in a run whose calls all tell
    the attribute as it was supplied: what a client of the scene was told last of a selected player
    is what the scene supplied last. -/
theorem reachable_attribute (a : Attribute) {w : SuppliedWorld}
    (h : visibleSystem.ReachableWhen (Told a) w) {p q : UInt64}
    (hp : (w.grid.getPlayerGridInfo p).isSome = true) (hq : q ∈ w.grid.selectedPlayer)
    (hne : q ≠ p) :
    ∃ other player, w.known p q = some other ∧ w.supplied q = some player ∧
      a.ofOther other = a.ofPlayer player := by
  have hagrees : Agrees a w := by
    apply h.invariant
    · intro w hw
      exact agrees_start hw
    · intro w call w' hw ht hst
      obtain rfl := Option.some.inj hst
      exact agrees_step hw ht
  obtain ⟨other, info, hother, hinfo, htold⟩ := hagrees.shown p q hp hq hne
  obtain ⟨player, hplayer, hstored⟩ := hagrees.stored q info hinfo
  exact ⟨other, player, hother, hplayer, htold.trans hstored⟩

/-- An empty scene with the screen limit of the source. -/
def emptyScene : SuppliedWorld where
  grid := {}
  inbox := fun _ => []
  supplied := fun _ => none

/-- Player 1 walks to its destination and mounts a horse while player 2 looks on. -/
def mountCalls : List GridCall :=
  [.add { guid := 1, horseId := 4 }, .add { guid := 2 },
    .move { guid := 1, srcX := 3, dstX := 3 }, .updateHorse { guid := 1, horseId := 9 }]

/-- The scene after the calls. -/
def mounted : SuppliedWorld := (visibleSystem.run emptyScene mountCalls).getD emptyScene

theorem reachable_attribute_mounted :
    ∃ other player, mounted.known 2 1 = some other ∧ mounted.supplied 1 = some player ∧
      Attribute.srcX.ofOther other = Attribute.srcX.ofPlayer player := by
  have hzero : floatOfInt32 0 = (0 : Int32).toInt := floatOfInt32_of_lt (by decide)
  have hthree : floatOfInt32 3 = (3 : Int32).toInt := floatOfInt32_of_lt (by decide)
  have htold : visibleSystem.RunMeets (Told .srcX) emptyScene mountCalls := by
    refine ⟨fun _ => ⟨trivial, fun q hq => absurd hq List.not_mem_nil, fun _ _ => hzero⟩, _, rfl,
      fun _ => ⟨trivial, ?_, fun _ _ => hzero⟩, _, rfl, fun _ => hthree, _, rfl, trivial, _, rfl,
      trivial⟩
    -- the second player is shown the first
    intro q hq info hi
    obtain rfl : q = 1 := List.mem_singleton.mp hq
    obtain rfl := Option.some.inj hi
    exact hzero
  have hreach : visibleSystem.ReachableWhen (Told .srcX) mounted :=
    visibleSystem.reachableWhen_of_run ⟨100, rfl⟩ htold rfl
  exact reachable_attribute .srcX hreach (by decide) (by decide) (by decide)

/-- **Values that are not told**: player 1 is added with icon 7, a role id of 33 bits and a way to
    go, player 2 looks on, and player 1 reaches level 2. -/
theorem level_untold :
    ∃ w, visibleSystem.run emptyScene
        [.add { guid := 1, roleId := 4294967301, level := 1, guildIcon := 7, srcX := 3, dstX := 9 },
          .add { guid := 2 }, .levelup { guid := 1, level := 2, guildIcon := 7 }] = some w ∧
      (w.grid.getPlayerGridInfo 2).isSome = true ∧ 1 ∈ w.grid.selectedPlayer ∧
      (w.known 2 1).map (fun other => (other.level, other.guildIcon, other.roleId, other.srcX)) =
        some (1, 0, 5, 9) ∧
      (w.supplied 1).map (fun player =>
        (player.level, player.guildIcon, player.roleId, player.srcX)) =
        some (2, 7, 4294967301, 3) := by
  refine ⟨_, rfl, ?_, ?_, ?_, ?_⟩
  · decide
  · decide
  · decide +kernel
  · decide

end Steppingstone.Grid
