/-
  Steppingstone.Grid.View — what every client sees is what is selected.

  The view of a client is read off the messages it was sent since its player
  was added: `SMSG_CREATE_OTHER` puts a guid into the view, `SMSG_PLAYER_REMOVE`
  takes it out.  A step can only create or only remove from a client's view,
  except a remove that promotes a waiting player, which does first one and
  then the other.
-/
import Mathlib.Data.List.Induction
import Mathlib.Data.Set.Basic
import Steppingstone.Grid.Invariant

namespace Steppingstone.Grid

open ManageGridOptimize

/-! ## §1. Views. -/

/-- The message puts `q` into the view. -/
def creates (q : UInt64) : GridMessage → Bool
  | .createOther other => other.guid = q
  | _ => false

/-- The message takes `q` out of the view. -/
def removes (q : UInt64) : GridMessage → Bool
  | .playerRemove guid => guid = q
  | _ => false

/-- Whether `q` is in the view after one more message. -/
def see (q : UInt64) (seen : Bool) (m : GridMessage) : Bool :=
  if creates q m then true else if removes q m then false else seen

/-- The guids a client sees after the messages. -/
def view (msgs : List GridMessage) : Set UInt64 :=
  { q | msgs.foldl (see q) false = true }

/-- Packets without a removal only show. -/
theorem see_creates {q : UInt64} {seen : Bool} {msgs : List GridMessage}
    (h : ∀ m ∈ msgs, removes q m = false) :
    msgs.foldl (see q) seen = (seen || msgs.any (creates q)) := by
  induction msgs generalizing seen with
  | nil => simp
  | cons m msgs ih =>
      rw [List.foldl_cons, ih (fun x hx => h x (List.mem_cons_of_mem m hx)), see,
        h m List.mem_cons_self]
      cases hc : creates q m <;> simp [hc]

/-- Packets without a creation only hide. -/
theorem see_removes {q : UInt64} {seen : Bool} {msgs : List GridMessage}
    (h : ∀ m ∈ msgs, creates q m = false) :
    msgs.foldl (see q) seen = (seen && !msgs.any (removes q)) := by
  induction msgs generalizing seen with
  | nil => simp
  | cons m msgs ih =>
      rw [List.foldl_cons, ih (fun x hx => h x (List.mem_cons_of_mem m hx)), see,
        h m List.mem_cons_self]
      cases hr : removes q m <;> simp [hr]

/-- The messages of an output that go to `p`. -/
def heard (p : UInt64) (out : Output) : List GridMessage :=
  out.filterMap fun pm => if pm.1 = p then some pm.2 else none

@[simp] theorem heard_append (p : UInt64) (out out' : Output) :
    heard p (out ++ out') = heard p out ++ heard p out' :=
  List.filterMap_append

theorem mem_heard {p : UInt64} {out : Output} {m : GridMessage} :
    m ∈ heard p out ↔ (p, m) ∈ out := by
  simp only [heard, List.mem_filterMap, Option.ite_none_right_eq_some, Option.some.injEq]
  constructor
  · rintro ⟨⟨p', m'⟩, hmem, rfl, rfl⟩
    exact hmem
  · intro hmem
    exact ⟨(p, m), hmem, rfl, rfl⟩

/-! ## §2. What the helpers say to whom. -/

/-- A packet for everyone but one. -/
theorem heard_broadcastExcept {st : ManageGridOptimize} {guid p : UInt64} {m m' : GridMessage} :
    m' ∈ heard p (st.broadcastExcept guid m) ↔ m' = m ∧ p ∈ st.everyone ∧ p ≠ guid := by
  rw [mem_heard, broadcastExcept]
  simp only [List.mem_map, List.mem_filter, decide_eq_true_eq, Prod.mk.injEq]
  constructor
  · rintro ⟨x, ⟨hx, hne⟩, rfl, rfl⟩
    exact ⟨rfl, hx, hne⟩
  · rintro ⟨rfl, hx, hne⟩
    exact ⟨p, ⟨hx, hne⟩, rfl, rfl⟩

theorem heard_doBroadcastPacket {st : ManageGridOptimize} {p : UInt64} {m m' : GridMessage}
    (h : m' ∈ heard p (st.doBroadcastPacket m)) : m' = m := by
  rw [mem_heard, doBroadcastPacket] at h
  simp only [List.mem_map, Prod.mk.injEq] at h
  obtain ⟨x, -, -, rfl⟩ := h
  rfl

/-- A broadcast of "player `guid` appears", read at `q`. -/
theorem see_create_broadcast (st : ManageGridOptimize) (guid p q : UInt64) (other : CreateOther)
    (seen : Bool) :
    (heard p (st.broadcastExcept guid (.createOther other))).foldl (see q) seen = true ↔
      seen = true ∨ (other.guid = q ∧ p ∈ st.everyone ∧ p ≠ guid) := by
  rw [see_creates, Bool.or_eq_true, List.any_eq_true]
  · refine or_congr_right ?_
    constructor
    · rintro ⟨m, hm, hc⟩
      obtain ⟨rfl, hp⟩ := heard_broadcastExcept.mp hm
      exact ⟨of_decide_eq_true hc, hp⟩
    · rintro ⟨hq, hp⟩
      exact ⟨_, heard_broadcastExcept.mpr ⟨rfl, hp⟩, decide_eq_true hq⟩
  · intro m hm
    obtain ⟨rfl, -⟩ := heard_broadcastExcept.mp hm
    rfl

/-- A broadcast of "player `guid` leaves", read at `q`. -/
theorem see_remove_broadcast (st : ManageGridOptimize) (guid p q : UInt64) (seen : Bool) :
    (heard p (st.broadcastExcept guid (.playerRemove guid))).foldl (see q) seen = true ↔
      seen = true ∧ ¬ (guid = q ∧ p ∈ st.everyone ∧ p ≠ guid) := by
  rw [see_removes, Bool.and_eq_true, Bool.not_eq_true', List.any_eq_false]
  · refine and_congr_right fun _ => ?_
    constructor
    · rintro h ⟨hq, hp⟩
      exact h _ (heard_broadcastExcept.mpr ⟨rfl, hp⟩) (decide_eq_true hq)
    · intro h m hm hr
      obtain ⟨rfl, hp⟩ := heard_broadcastExcept.mp hm
      exact h ⟨of_decide_eq_true hr, hp⟩
  · intro m hm
    obtain ⟨rfl, -⟩ := heard_broadcastExcept.mp hm
    rfl

/-- A new player is told of the selected ones. -/
theorem mem_createOther {st : ManageGridOptimize} {guid p : UInt64} {m : GridMessage} :
    m ∈ heard p (st.createOther guid) ↔ p = guid ∧ ∃ q ∈ st.selectedPlayer, ∃ info,
      st.getPlayerGridInfo q = some info ∧ guid ≠ info.guid ∧
        m = .createOther (fillSmsgCreateOther info) := by
  rw [mem_heard, createOther, List.mem_filterMap]
  constructor
  · rintro ⟨q, hq, hm⟩
    cases hg : st.getPlayerGridInfo q with
    | none => simp [hg] at hm
    | some info =>
        simp only [hg, Option.ite_none_left_eq_some, Option.some.injEq, Prod.mk.injEq] at hm
        obtain ⟨hne, rfl, rfl⟩ := hm
        exact ⟨rfl, q, hq, info, hg, hne, rfl⟩
  · rintro ⟨rfl, q, hq, info, hg, hne, rfl⟩
    exact ⟨q, hq, by simp [hg, hne]⟩

/-- The selected players are shown to `guid`, read at `q`. -/
theorem see_createOther (st : ManageGridOptimize)
    (hkey : ∀ g ∈ st.selectedPlayer, ∃ info, st.getPlayerGridInfo g = some info ∧ info.guid = g)
    (guid p q : UInt64) (seen : Bool) :
    (heard p (st.createOther guid)).foldl (see q) seen = true ↔
      seen = true ∨ (p = guid ∧ q ∈ st.selectedPlayer ∧ q ≠ guid) := by
  rw [see_creates, Bool.or_eq_true, List.any_eq_true]
  · refine or_congr_right ?_
    constructor
    · rintro ⟨m, hm, hc⟩
      obtain ⟨rfl, x, hx, info, hg, hne, rfl⟩ := mem_createOther.mp hm
      obtain ⟨info', hg', hk⟩ := hkey x hx
      obtain rfl : info = info' := by rw [hg] at hg'; simpa using hg'
      have hq : info.guid = q := of_decide_eq_true hc
      exact ⟨rfl, by rw [← hq, hk]; exact hx, by rw [← hq]; exact Ne.symm hne⟩
    · rintro ⟨rfl, hq, hne⟩
      obtain ⟨info, hg, hk⟩ := hkey q hq
      exact ⟨_, mem_createOther.mpr ⟨rfl, q, hq, info, hg, by rw [hk]; exact Ne.symm hne, rfl⟩,
        decide_eq_true hk⟩
  · intro m hm
    obtain ⟨-, -, -, -, -, -, rfl⟩ := mem_createOther.mp hm
    rfl

theorem Consistent.selected_key {st : ManageGridOptimize} (h : Consistent st) :
    ∀ g ∈ st.selectedPlayer, ∃ info, st.getPlayerGridInfo g = some info ∧ info.guid = g := by
  intro g hg
  obtain ⟨info, hi, -⟩ := (h.selected g).mp hg
  exact ⟨info, hi, h.key g info hi⟩

/-! ## §3. Clients and their inboxes. -/

/-- The grid and, for each guid, the messages sent to it since its add. -/
structure ClientWorld where
  grid : ManageGridOptimize
  inbox : UInt64 → List GridMessage

/-- One call: the inbox of a player that was not in the scene starts empty. -/
def deliver (w : ClientWorld) (call : GridCall) : ClientWorld where
  grid := (w.grid.process call.operation).1
  inbox p :=
    (if (w.grid.getPlayerGridInfo p).isSome then w.inbox p else []) ++
      heard p (w.grid.process call.operation).2

/-- The calls in order, on an empty scene with screen limit `n`. -/
def runCalls (n : Int) (calls : List GridCall) : ClientWorld :=
  calls.foldl deliver { grid := { selectedPlayerNum := n }, inbox := fun _ => [] }

/-- Whether the client of `p` has `q` in its view. -/
def ClientWorld.seen (w : ClientWorld) (p q : UInt64) : Bool :=
  (w.inbox p).foldl (see q) false

/-- Every client of the scene sees the selected players but its own. -/
def ViewsAgree (w : ClientWorld) : Prop :=
  ∀ p, (w.grid.getPlayerGridInfo p).isSome = true → ∀ q,
    w.seen p q = true ↔ q ∈ w.grid.selectedPlayer ∧ q ≠ p

/-- What `p` has seen when a call begins: nothing, unless it is in the scene. -/
def ClientWorld.seenBefore (w : ClientWorld) (p q : UInt64) : Bool :=
  if (w.grid.getPlayerGridInfo p).isSome then w.seen p q else false

/-- A player of the grid sees the selected ones. -/
theorem seenBefore_present {w : ClientWorld} (hv : ViewsAgree w) {p : UInt64}
    (hp : (w.grid.getPlayerGridInfo p).isSome = true) (q : UInt64) :
    w.seenBefore p q = true ↔ q ∈ w.grid.selectedPlayer ∧ q ≠ p := by
  rw [ClientWorld.seenBefore, if_pos hp]
  exact hv p hp q

theorem seenBefore_absent {w : ClientWorld} {p : UInt64}
    (hp : w.grid.getPlayerGridInfo p = none) (q : UInt64) : w.seenBefore p q = false := by
  simp [ClientWorld.seenBefore, hp]

/-- One call, read client by client. -/
theorem deliver_agrees_of {w : ClientWorld} {call : GridCall} {grid : ManageGridOptimize}
    {out : Output} (hop : w.grid.process call.operation = (grid, out))
    (h : ∀ p, (grid.getPlayerGridInfo p).isSome = true → ∀ q,
      (heard p out).foldl (see q) (w.seenBefore p q) = true ↔
        q ∈ grid.selectedPlayer ∧ q ≠ p) :
    ViewsAgree (deliver w call) := by
  intro p hp q
  have hgrid : (deliver w call).grid = grid := congrArg Prod.fst hop
  have hseen : (deliver w call).seen p q
      = (heard p out).foldl (see q) (w.seenBefore p q) := by
    show ((if _ then w.inbox p else []) ++ heard p _).foldl (see q) false = _
    rw [List.foldl_append, hop, ClientWorld.seenBefore]
    split <;> rfl
  rw [hgrid] at hp ⊢
  rw [hseen]
  exact h p hp q

/-- A call whose messages touch no view and which keeps players and selected set. -/
theorem deliver_neutral {w : ClientWorld} (hv : ViewsAgree w) {call : GridCall}
    {grid : ManageGridOptimize} {out : Output}
    (hop : w.grid.process call.operation = (grid, out))
    (hsel : grid.selectedPlayer = w.grid.selectedPlayer)
    (hdom : ∀ p, (grid.getPlayerGridInfo p).isSome = true →
      (w.grid.getPlayerGridInfo p).isSome = true)
    (hout : ∀ p, ∀ m ∈ heard p out, ∀ q, creates q m = false ∧ removes q m = false) :
    ViewsAgree (deliver w call) := by
  refine deliver_agrees_of hop fun p hp q => ?_
  have hmsgs : (heard p out).any (creates q) = false := by
    rw [List.any_eq_false]
    intro m hm
    simp [(hout p m hm q).1]
  rw [see_creates (fun m hm => (hout p m hm q).2), hmsgs, Bool.or_false, hsel]
  exact seenBefore_present hv (hdom p hp) q

/-- A call whose operation answers nothing and changes nothing. -/
theorem deliver_ignored {w : ClientWorld} (hv : ViewsAgree w) {call : GridCall}
    (h : w.grid.process call.operation = (w.grid, [])) : ViewsAgree (deliver w call) :=
  deliver_neutral hv h rfl (fun _ hp => hp) fun _ _ hm => absurd hm List.not_mem_nil

/-- A broadcast of a message that is neither a create nor a remove. -/
theorem neutral_broadcast {st : ManageGridOptimize} {m : GridMessage} {b : Bool}
    (hm : ∀ q, creates q m = false ∧ removes q m = false) :
    ∀ p, ∀ m' ∈ heard p (if b then st.doBroadcastPacket m else []), ∀ q,
      creates q m' = false ∧ removes q m' = false := by
  intro p m' hm' q
  split at hm'
  next => rw [heard_doBroadcastPacket hm']; exact hm q
  next => exact absurd hm' List.not_mem_nil

/-! ## §4. Each call. -/

/-- New values in the object of a player of the scene, and a neutral message. -/
theorem deliver_setInfo (st : ManageGridOptimize) {w : ClientWorld} (hv : ViewsAgree w) {call : GridCall}
    {guid : UInt64} {info info' : PlayerGridInfo} {m : GridMessage} {b : Bool}
    (hg : w.grid.getPlayerGridInfo guid = some info)
    (hop : w.grid.process call.operation
      = (w.grid.setInfo guid (some info'), if b then st.doBroadcastPacket m else []))
    (hm : ∀ q, creates q m = false ∧ removes q m = false) : ViewsAgree (deliver w call) := by
  refine deliver_neutral hv hop rfl ?_ (neutral_broadcast hm)
  intro p hp
  rw [getPlayerGridInfo_setInfo] at hp
  split at hp
  next he => rw [he, hg]; rfl
  next => exact hp

/-- A change of a player's data keeps every view. -/
theorem deliver_updateInfo {w : ClientWorld} (hv : ViewsAgree w) {call : GridCall}
    {guid : UInt64} {set : PlayerGridInfo → PlayerGridInfo}
    {message : PlayerGridInfo → GridMessage}
    (hop : w.grid.updateInfo guid set message = w.grid.process call.operation)
    (hm : ∀ i q, creates q (message i) = false ∧ removes q (message i) = false) :
    ViewsAgree (deliver w call) := by
  rw [updateInfo] at hop
  cases hg : w.grid.getPlayerGridInfo guid with
  | none => exact deliver_ignored hv (by rw [← hop, hg])
  | some info =>
      rw [hg] at hop
      exact deliver_setInfo _ hv hg hop.symm (hm (set info))

theorem deliver_levelup {w : ClientWorld} (hv : ViewsAgree w) (player : Player) :
    ViewsAgree (deliver w (.levelup player)) := by
  have hop : w.grid.process (GridCall.levelup player).operation
      = w.grid.processLevelup player.guid player.level.toInt32 := rfl
  rw [processLevelup] at hop
  cases hg : w.grid.getPlayerGridInfo player.guid with
  | none => exact deliver_ignored hv (by rw [hop, hg])
  | some info =>
      rw [hg] at hop
      exact deliver_setInfo w.grid (b := false) (m := .playerMove 0 0 0 0 0) hv hg hop
        fun _ => ⟨rfl, rfl⟩

theorem deliver_flowerRank {w : ClientWorld} (hc : Consistent w.grid) (hv : ViewsAgree w)
    (player : Player) : ViewsAgree (deliver w (.flowerRank player)) := by
  have hop : w.grid.process (GridCall.flowerRank player).operation
      = w.grid.processFlowerRank player.guid player.flowerRank := rfl
  cases hg : w.grid.getPlayerGridInfo player.guid with
  | none => exact deliver_ignored hv (by rw [hop, processFlowerRank, hg])
  | some info =>
      rw [processFlowerRank_eq hc hg] at hop
      exact deliver_setInfo _ hv hg hop fun _ => ⟨rfl, rfl⟩

theorem deliver_broadcastPacket {w : ClientWorld} (hv : ViewsAgree w) (packet : BroadcastPacket) :
    ViewsAgree (deliver w (.broadcastPacket packet)) := by
  have hop : w.grid.process (GridCall.broadcastPacket packet).operation
      = w.grid.processBroadcast packet := rfl
  have hm : ∀ q, creates q (.broadcast packet) = false ∧ removes q (.broadcast packet) = false :=
    fun _ => ⟨rfl, rfl⟩
  rw [processBroadcast] at hop
  cases hg : w.grid.getPlayerGridInfo packet.guid with
  | none =>
      rw [hg] at hop
      exact deliver_neutral hv hop rfl (fun _ hp => hp) (neutral_broadcast (b := true) hm)
  | some info =>
      rw [hg] at hop
      exact deliver_neutral hv hop rfl (fun _ hp => hp) (neutral_broadcast hm)

theorem deliver_readd {w : ClientWorld} (hc : Consistent w.grid) (hv : ViewsAgree w)
    (player : Player) : ViewsAgree (deliver w (.readd player)) := by
  have hop : w.grid.process (GridCall.readd player).operation
      = w.grid.processReadd player.guid := rfl
  rw [processReadd] at hop
  cases hg : w.grid.getPlayerGridInfo player.guid with
  | none => exact deliver_ignored hv (by rw [hop, hg])
  | some info =>
      rw [hg] at hop
      refine deliver_agrees_of hop fun p hp q => ?_
      rw [see_createOther w.grid hc.selected_key, seenBefore_present hv hp]
      constructor
      · rintro (h | ⟨rfl, h⟩) <;> exact h
      · exact .inl

/-- The selected players, shown to a player that is being added. -/
theorem see_createOther_new {st : ManageGridOptimize} (hc : Consistent st) {guid : UInt64}
    (hg : st.getPlayerGridInfo guid = none) (info : PlayerGridInfo) (p q : UInt64)
    (seen : Bool) :
    (heard p ((st.setInfo guid (some info)).createOther guid)).foldl (see q) seen = true ↔
      seen = true ∨ (p = guid ∧ q ∈ st.selectedPlayer ∧ q ≠ guid) := by
  refine see_createOther (st.setInfo guid (some info)) ?_ guid p q seen
  intro x hx
  obtain ⟨i, hi, hk⟩ := hc.selected_key x hx
  have hne : x ≠ guid := by
    intro he
    rw [he, hg] at hi
    cases hi
  exact ⟨i, by rw [getPlayerGridInfo_setInfo, if_neg hne, hi], hk⟩

/-- So does adding a player. -/
theorem deliver_add {w : ClientWorld} (hc : Consistent w.grid) (hv : ViewsAgree w)
    (player : Player) : ViewsAgree (deliver w (.add player)) := by
  have hop : w.grid.process (GridCall.add player).operation
      = w.grid.processAdd player.guid (fillPlayerGridInfo player) := rfl
  cases hg : w.grid.getPlayerGridInfo player.guid with
  | some i => exact deliver_ignored hv (by rw [hop, processAdd, hg])
  | none =>
      -- before the promotion everybody sees the old selected set, the new client included
      have hshown : ∀ p q, (p = player.guid ∨ (w.grid.getPlayerGridInfo p).isSome = true) →
          (w.seenBefore p q = true ∨
              (p = player.guid ∧ q ∈ w.grid.selectedPlayer ∧ q ≠ player.guid) ↔
            q ∈ w.grid.selectedPlayer ∧ q ≠ p) := by
        intro p q hp
        by_cases hpg : p = player.guid
        · rw [hpg, seenBefore_absent hg]
          simp
        · rw [seenBefore_present hv (hp.resolve_left hpg)]
          simp [hpg]
      by_cases hroom : w.grid.selectedPlayer.length < w.grid.screenLimit
      · have hcons := add_selected_consistent hc (fillPlayerGridInfo player) hg hroom
        rw [processAdd_room hg hroom] at hop
        refine deliver_agrees_of hop fun p hp q => ?_
        have hmem := hcons.mem_everyone.mpr hp
        rw [getPlayerGridInfo_addSelectedPlayer, getPlayerGridInfo_setInfo] at hp
        have hold : p = player.guid ∨ (w.grid.getPlayerGridInfo p).isSome = true := by
          by_cases hpg : p = player.guid
          · exact .inl hpg
          · rw [if_neg (show p ≠ (fillPlayerGridInfo player).guid from hpg), if_neg hpg] at hp
            exact .inr hp
        rw [heard_append, List.foldl_append]
        refine (see_create_broadcast _ _ p q _ _).trans ?_
        rw [see_createOther_new hc hg, hshown p q hold, selectedPlayer_addSelectedPlayer,
          mem_insertGuid]
        constructor
        · rintro (⟨hq, hqp⟩ | ⟨hq, -, hpq⟩)
          · exact ⟨.inr hq, hqp⟩
          · exact ⟨.inl hq.symm, fun he => hpq (by rw [← he, ← hq]; rfl)⟩
        · rintro ⟨hq | hq, hqp⟩
          · exact .inr ⟨hq.symm, hmem, fun he => hqp (hq.trans he.symm)⟩
          · exact .inl ⟨hq, hqp⟩
      · rw [processAdd_full hg hroom] at hop
        refine deliver_agrees_of hop fun p hp q => ?_
        rw [see_createOther_new hc hg]
        refine hshown p q ?_
        change ((w.grid.setInfo _ _).getPlayerGridInfo p).isSome = true at hp
        rw [getPlayerGridInfo_setInfo] at hp
        by_cases hpg : p = player.guid
        · exact .inl hpg
        · rw [if_neg hpg] at hp
          exact .inr hp

/-- Everyone hears that a selected player leaves. -/
theorem see_leave {w : ClientWorld} (hc : Consistent w.grid) (hv : ViewsAgree w)
    {guid p : UInt64} (hp : (w.grid.getPlayerGridInfo p).isSome = true) (hne : p ≠ guid)
    (q : UInt64) :
    (heard p (w.grid.broadcastExcept guid (.playerRemove guid))).foldl (see q)
        (w.seenBefore p q) = true ↔
      q ∈ w.grid.selectedPlayer.erase guid ∧ q ≠ p := by
  rw [see_remove_broadcast, seenBefore_present hv hp, hc.nodupSelected.mem_erase_iff]
  have hmem := hc.mem_everyone.mpr hp
  constructor
  · rintro ⟨⟨hq, hqp⟩, hno⟩
    exact ⟨⟨fun he => hno ⟨he.symm, hmem, hne⟩, hq⟩, hqp⟩
  · rintro ⟨⟨hqg, hq⟩, hqp⟩
    exact ⟨⟨hq, hqp⟩, fun h => hqg h.1.symm⟩

/-- So does removing one. -/
theorem deliver_remove {w : ClientWorld} (hc : Consistent w.grid) (hv : ViewsAgree w)
    (player : Player) : ViewsAgree (deliver w (.remove player)) := by
  have hop : w.grid.process (GridCall.remove player).operation
      = w.grid.processRemove player.guid := rfl
  rw [processRemove] at hop
  cases hg : w.grid.getPlayerGridInfo player.guid with
  | none => exact deliver_ignored hv (by rw [hop, hg])
  | some info =>
      rw [hg] at hop
      cases hs : info.isSelected with
      | false =>
          simp only [hs, Bool.false_eq_true, if_false] at hop
          refine deliver_neutral hv hop rfl ?_ fun _ _ hm => absurd hm List.not_mem_nil
          intro p hp
          rw [getPlayerGridInfo_setInfo] at hp
          split at hp
          next => cases hp
          next => exact hp
      | true =>
          simp only [hs, if_true] at hop
          have hsel : player.guid ∈ w.grid.selectedPlayer := (hc.selected _).mpr ⟨info, hg, hs⟩
          rcases removeSelected_cases hc player.guid with
            ⟨hw, he⟩ | ⟨first, rest, i, hw, hf, he⟩
          · rw [he] at hop
            refine deliver_agrees_of hop fun p hp q => ?_
            rw [getPlayerGridInfo_setInfo] at hp
            split at hp
            next => cases hp
            next hpg => exact see_leave hc hv hp hpg q
          · rw [he] at hop
            have hcons := remove_replaced_consistent hc hsel hw hf
            refine deliver_agrees_of hop fun p hp q => ?_
            have hmem := hcons.mem_everyone.mpr hp
            have hkey : i.guid = first := hc.key first i hf
            rw [getPlayerGridInfo_setInfo, getPlayerGridInfo_addSelectedPlayer, hkey] at hp
            have hpg : p ≠ player.guid := by
              intro he
              rw [if_pos he] at hp
              cases hp
            have hold : (w.grid.getPlayerGridInfo p).isSome = true := by
              rw [if_neg hpg] at hp
              split at hp
              next he => rw [he, hf]; rfl
              next => exact hp
            rw [heard_append, List.foldl_append]
            refine (see_create_broadcast _ _ p q _ _).trans ?_
            rw [see_leave hc hv hold hpg, selectedPlayer_setInfo,
              selectedPlayer_addSelectedPlayer, mem_insertGuid]
            constructor
            · rintro (⟨hq, hqp⟩ | ⟨hq, -, hpi⟩)
              · exact ⟨.inr hq, hqp⟩
              · exact ⟨.inl hq.symm, fun he => hpi (by rw [← he, ← hq]; rfl)⟩
            · rintro ⟨hq | hq, hqp⟩
              · exact .inr ⟨hq.symm, hmem, fun he => hqp (hq.trans he.symm)⟩
              · exact .inl ⟨hq, hqp⟩

/-! ## §5. Every run. -/

/-- One call keeps every view equal to the selected set without the client's own player. -/
theorem deliver_agrees {w : ClientWorld} (hc : Consistent w.grid) (hv : ViewsAgree w)
    (call : GridCall) : ViewsAgree (deliver w call) := by
  cases call with
  | add p => exact deliver_add hc hv p
  | readd p => exact deliver_readd hc hv p
  | remove p => exact deliver_remove hc hv p
  | levelup p => exact deliver_levelup hv p
  | flowerRank p => exact deliver_flowerRank hc hv p
  | broadcastPacket packet => exact deliver_broadcastPacket hv packet
  | move p => exact deliver_updateInfo hv (processMove.eq_1 ..).symm fun _ _ => ⟨rfl, rfl⟩
  | updateGuildName p =>
      exact deliver_updateInfo hv (processUpdateGuildName.eq_1 ..).symm fun _ _ => ⟨rfl, rfl⟩
  | updateFollowRoleId p =>
      exact deliver_updateInfo hv (processFollowRoleId.eq_1 ..).symm fun _ _ => ⟨rfl, rfl⟩
  | updateTitle p =>
      exact deliver_updateInfo hv (processUpdateTitle.eq_1 ..).symm fun _ _ => ⟨rfl, rfl⟩
  | updateSpecialRight p =>
      exact deliver_updateInfo hv (processSpecialRight.eq_1 ..).symm fun _ _ => ⟨rfl, rfl⟩
  | updateHorse p =>
      exact deliver_updateInfo hv (processHorse.eq_1 ..).symm fun _ _ => ⟨rfl, rfl⟩
  | updateWifeFollow p =>
      exact deliver_updateInfo hv (processWifeFollow.eq_1 ..).symm fun _ _ => ⟨rfl, rfl⟩
  | updateYellowVipLevel p =>
      exact deliver_updateInfo hv (processYellowVipLevel.eq_1 ..).symm fun _ _ => ⟨rfl, rfl⟩

theorem runCalls_snoc (n : Int) (calls : List GridCall) (call : GridCall) :
    runCalls n (calls ++ [call]) = deliver (runCalls n calls) call := by
  simp [runCalls, List.foldl_append]

/-- The containers are consistent and the views agree after every run. -/
theorem run_invariant (n : Int) (calls : List GridCall) :
    Consistent (runCalls n calls).grid ∧ ViewsAgree (runCalls n calls) := by
  induction calls using List.reverseRecOn with
  | nil =>
      refine ⟨initial_consistent n, ?_⟩
      intro p hp
      cases hp
  | append_singleton calls call ih =>
      rw [runCalls_snoc]
      exact ⟨process_consistent ih.1 call, deliver_agrees ih.1 ih.2 call⟩

/-- **What every client sees is what is selected**: after every sequence of
calls, under every screen limit, the view of each player of the scene is the
selected set without the player itself. -/
theorem view_is_selected_set (n : Int) (calls : List GridCall) (p : UInt64)
    (hp : ((runCalls n calls).grid.getPlayerGridInfo p).isSome = true) :
    view ((runCalls n calls).inbox p)
      = { q | q ∈ (runCalls n calls).grid.selectedPlayer ∧ q ≠ p } := by
  ext q
  exact (run_invariant n calls).2 p hp q

/-- Limit one: player 1 leaves, player 2 takes its place, player 3 sees the
change. -/
theorem view_after_promotion :
    view ((runCalls 1 [.add { guid := 1 }, .add { guid := 2 }, .add { guid := 3 },
        .remove { guid := 1 }]).inbox 3)
      = { q | q ∈ (runCalls 1 [.add { guid := 1 }, .add { guid := 2 }, .add { guid := 3 },
          .remove { guid := 1 }]).grid.selectedPlayer ∧ q ≠ 3 } :=
  view_is_selected_set 1 _ 3 (by decide)

example :
    (runCalls 1 [.add { guid := 1 }, .add { guid := 2 }, .add { guid := 3 },
      .remove { guid := 1 }]).grid.selectedPlayer = [2] := by decide

end Steppingstone.Grid
