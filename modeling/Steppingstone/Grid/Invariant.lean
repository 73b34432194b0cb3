/-
  Steppingstone.Grid.Invariant — the containers of the grid stay consistent.

  `Consistent` ties the two sets to the objects of the scene's players: a
  player is selected exactly when its object says so, it waits exactly when
  its object does not, and somebody waits only when the screen is full.
-/
import Steppingstone.Grid.Model
import Steppingstone.Lib.TransSys

namespace Steppingstone.Grid

open ManageGridOptimize

/-! ## §1. The invariant. -/

/-- The containers agree with the objects. -/
structure Consistent (st : ManageGridOptimize) : Prop where
  key : ∀ g info, st.getPlayerGridInfo g = some info → info.guid = g
  selected : ∀ g, g ∈ st.selectedPlayer ↔
    ∃ info, st.getPlayerGridInfo g = some info ∧ info.isSelected = true
  waiting : ∀ g, g ∈ st.notSelectedPlayer ↔
    ∃ info, st.getPlayerGridInfo g = some info ∧ info.isSelected = false
  nodupSelected : st.selectedPlayer.Nodup
  nodupWaiting : st.notSelectedPlayer.Nodup
  bounded : st.selectedPlayer.length ≤ st.screenLimit
  full : st.notSelectedPlayer ≠ [] → st.selectedPlayer.length = st.screenLimit

/-- The set of everyone holds the players of the grid. -/
theorem Consistent.mem_everyone {st : ManageGridOptimize} (h : Consistent st) {g : UInt64} :
    g ∈ st.everyone ↔ (st.getPlayerGridInfo g).isSome = true := by
  rw [everyone, List.mem_append, h.selected, h.waiting, Option.isSome_iff_exists]
  constructor
  · rintro (⟨info, hg, -⟩ | ⟨info, hg, -⟩) <;> exact ⟨info, hg⟩
  · rintro ⟨info, hg⟩
    cases hs : info.isSelected with
    | true => exact .inl ⟨info, hg, hs⟩
    | false => exact .inr ⟨info, hg, hs⟩

/-- A player not marked as selected is not in the set. -/
theorem Consistent.not_selected {st : ManageGridOptimize} (h : Consistent st) {g : UInt64}
    {info : PlayerGridInfo} (hg : st.getPlayerGridInfo g = some info)
    (hs : info.isSelected = false) : g ∉ st.selectedPlayer := by
  rw [h.selected]
  rintro ⟨info', hg', hs'⟩
  rw [hg, Option.some.injEq] at hg'
  simp [← hg', hs] at hs'

@[simp] theorem getPlayerGridInfo_setInfo (st : ManageGridOptimize) (guid g : UInt64)
    (info : Option PlayerGridInfo) :
    (st.setInfo guid info).getPlayerGridInfo g
      = if g = guid then info else st.getPlayerGridInfo g := by
  simp only [getPlayerGridInfo, setInfo, Function.update_apply]

@[simp] theorem getPlayerGridInfo_addSelectedPlayer (st : ManageGridOptimize)
    (info : PlayerGridInfo) (g : UInt64) :
    (st.addSelectedPlayer info).1.getPlayerGridInfo g
      = if g = info.guid then some { info with isSelected := true }
        else st.getPlayerGridInfo g :=
  getPlayerGridInfo_setInfo st info.guid g _

@[simp] theorem selectedPlayer_addSelectedPlayer (st : ManageGridOptimize)
    (info : PlayerGridInfo) :
    (st.addSelectedPlayer info).1.selectedPlayer = insertGuid info.guid st.selectedPlayer := rfl

@[simp] theorem selectedPlayer_setInfo (st : ManageGridOptimize) (guid : UInt64)
    (info : Option PlayerGridInfo) :
    (st.setInfo guid info).selectedPlayer = st.selectedPlayer := rfl

theorem insertGuid_nodup {g : UInt64} {set : List UInt64} (h : set.Nodup) :
    (insertGuid g set).Nodup := by
  unfold insertGuid
  split
  next => exact h
  next hg =>
      exact (List.perm_orderedInsert (· ≤ ·) g set).nodup_iff.mpr (List.nodup_cons.mpr ⟨hg, h⟩)

/-- A new guid makes the set longer by one. -/
theorem insertGuid_length {g : UInt64} {set : List UInt64} (hg : g ∉ set) :
    (insertGuid g set).length = set.length + 1 := by
  rw [insertGuid, if_neg hg, List.orderedInsert_length]

theorem insertGuid_of_mem {g : UInt64} {set : List UInt64} (hg : g ∈ set) :
    insertGuid g set = set := by
  rw [insertGuid, if_pos hg]

/-! ## §2. The steps. -/

theorem initial_consistent (n : Int) : Consistent { selectedPlayerNum := n } where
  key g info h := by simp [getPlayerGridInfo] at h
  selected g := by simp [getPlayerGridInfo]
  waiting g := by simp [getPlayerGridInfo]
  nodupSelected := List.nodup_nil
  nodupWaiting := List.nodup_nil
  bounded := Nat.zero_le _
  full h := absurd rfl h

/-- New values in an object that keeps its guid and its place. -/
theorem setInfo_consistent {st : ManageGridOptimize} (h : Consistent st) {guid : UInt64}
    {info info' : PlayerGridInfo} (hg : st.getPlayerGridInfo guid = some info)
    (hk : info'.guid = info.guid) (hs : info'.isSelected = info.isSelected) :
    Consistent (st.setInfo guid (some info')) where
  key g i hi := by
    rw [getPlayerGridInfo_setInfo] at hi
    split at hi
    next hgg =>
        obtain rfl : info' = i := by simpa using hi
        rw [hk, hgg, h.key guid info hg]
    next => exact h.key g i hi
  selected g := by
    rw [getPlayerGridInfo_setInfo, show (st.setInfo guid (some info')).selectedPlayer
      = st.selectedPlayer from rfl, h.selected g]
    by_cases hgg : g = guid
    · subst hgg; simp [hg, hs]
    · simp [hgg]
  waiting g := by
    rw [getPlayerGridInfo_setInfo, show (st.setInfo guid (some info')).notSelectedPlayer
      = st.notSelectedPlayer from rfl, h.waiting g]
    by_cases hgg : g = guid
    · subst hgg; simp [hg, hs]
    · simp [hgg]
  nodupSelected := h.nodupSelected
  nodupWaiting := h.nodupWaiting
  bounded := h.bounded
  full := h.full

/-- A change of a player's data keeps the containers consistent. -/
theorem updateInfo_consistent {st : ManageGridOptimize} (h : Consistent st) {guid : UInt64}
    {set : PlayerGridInfo → PlayerGridInfo} {message : PlayerGridInfo → GridMessage}
    (hk : ∀ i, (set i).guid = i.guid) (hs : ∀ i, (set i).isSelected = i.isSelected) :
    Consistent (st.updateInfo guid set message).1 := by
  unfold updateInfo
  cases hg : st.getPlayerGridInfo guid with
  | none => exact h
  | some info => exact setInfo_consistent h hg (hk info) (hs info)

theorem processLevelup_consistent {st : ManageGridOptimize} (h : Consistent st) (guid : UInt64)
    (level : Int32) : Consistent (st.processLevelup guid level).1 := by
  unfold processLevelup
  cases hg : st.getPlayerGridInfo guid with
  | none => exact h
  | some info => exact setInfo_consistent h hg rfl rfl

/-- A waiting player is offered no place while the screen is full. -/
theorem syncSelectedPlayer_full {st : ManageGridOptimize} {info : PlayerGridInfo}
    (hfull : st.selectedPlayer.length = st.screenLimit)
    (hw : info.guid ∈ st.notSelectedPlayer) : st.syncSelectedPlayer info = (st, []) := by
  rw [syncSelectedPlayer, if_neg (by omega), insertGuid_of_mem hw]

/-- A flower rank leaves the sets alone: whoever waits does so because the
screen is full. -/
theorem processFlowerRank_eq {st : ManageGridOptimize} (h : Consistent st) {guid : UInt64}
    {info : PlayerGridInfo} (hg : st.getPlayerGridInfo guid = some info) (rank : UInt32) :
    st.processFlowerRank guid rank
      = (st.setInfo guid (some { info with flowerRank := rank }),
          if info.isSelected then st.doBroadcastPacket (.updateFlowerRank info.guid rank)
          else []) := by
  simp only [processFlowerRank, hg]
  by_cases hs : info.isSelected = true
  · simp only [hs, Bool.not_true, Bool.false_eq_true, if_false, if_true]
    rfl
  · rw [Bool.not_eq_true] at hs
    have hw : guid ∈ st.notSelectedPlayer := (h.waiting guid).mpr ⟨info, hg, hs⟩
    have hfull := h.full (List.ne_nil_of_mem hw)
    rw [← h.key guid info hg] at hw
    simp only [hs, Bool.not_false, if_true, Bool.false_eq_true, if_false]
    exact syncSelectedPlayer_full hfull hw

theorem processFlowerRank_consistent {st : ManageGridOptimize} (h : Consistent st)
    (guid : UInt64) (rank : UInt32) : Consistent (st.processFlowerRank guid rank).1 := by
  cases hg : st.getPlayerGridInfo guid with
  | none => simpa [processFlowerRank, hg] using h
  | some info =>
      rw [processFlowerRank_eq h hg]
      exact setInfo_consistent h hg rfl rfl

/-- A new player that finds a place. -/
theorem add_selected_consistent {st : ManageGridOptimize} (h : Consistent st)
    (info : PlayerGridInfo) (hg : st.getPlayerGridInfo info.guid = none)
    (hroom : st.selectedPlayer.length < st.screenLimit) :
    Consistent ((st.setInfo info.guid (some info)).addSelectedPlayer info).1 where
  key g i hi := by
    rw [getPlayerGridInfo_addSelectedPlayer, getPlayerGridInfo_setInfo] at hi
    split at hi
    next hgg =>
        obtain rfl : { info with isSelected := true } = i := by simpa using hi
        exact hgg.symm
    next => exact h.key g i hi
  selected g := by
    rw [selectedPlayer_addSelectedPlayer, mem_insertGuid, selectedPlayer_setInfo, h.selected,
      getPlayerGridInfo_addSelectedPlayer, getPlayerGridInfo_setInfo]
    by_cases hgg : g = info.guid <;> simp [hgg]
  waiting g := by
    show g ∈ st.notSelectedPlayer ↔ _
    rw [h.waiting, getPlayerGridInfo_addSelectedPlayer, getPlayerGridInfo_setInfo]
    by_cases hgg : g = info.guid
    · subst hgg; simp [hg]
    · simp [hgg]
  nodupSelected := insertGuid_nodup h.nodupSelected
  nodupWaiting := h.nodupWaiting
  bounded := by
    show (insertGuid info.guid st.selectedPlayer).length ≤ st.screenLimit
    unfold insertGuid
    split
    next => exact h.bounded
    next => rw [List.orderedInsert_length]; omega
  full hne := by
    have := h.full hne
    omega

/-- A new player that has to wait. -/
theorem add_waiting_consistent {st : ManageGridOptimize} (h : Consistent st)
    {info : PlayerGridInfo} (hg : st.getPlayerGridInfo info.guid = none)
    (hs : info.isSelected = false) (hroom : ¬ st.selectedPlayer.length < st.screenLimit) :
    Consistent { st.setInfo info.guid (some info) with
      notSelectedPlayer := insertGuid info.guid st.notSelectedPlayer } where
  key g i hi := by
    change (st.setInfo _ _).getPlayerGridInfo g = some i at hi
    rw [getPlayerGridInfo_setInfo] at hi
    split at hi
    next hgg =>
        obtain rfl : info = i := by simpa using hi
        exact hgg.symm
    next => exact h.key g i hi
  selected g := by
    show g ∈ st.selectedPlayer ↔ ∃ i, (st.setInfo _ _).getPlayerGridInfo g = some i ∧ _
    rw [h.selected, getPlayerGridInfo_setInfo]
    by_cases hgg : g = info.guid
    · subst hgg; simp [hg, hs]
    · simp [hgg]
  waiting g := by
    show g ∈ insertGuid info.guid st.notSelectedPlayer ↔
      ∃ i, (st.setInfo _ _).getPlayerGridInfo g = some i ∧ _
    rw [mem_insertGuid, h.waiting, getPlayerGridInfo_setInfo]
    by_cases hgg : g = info.guid <;> simp [hgg, hs]
  nodupSelected := h.nodupSelected
  nodupWaiting := insertGuid_nodup h.nodupWaiting
  bounded := h.bounded
  full _ := by
    have := h.bounded
    show st.selectedPlayer.length = st.screenLimit
    omega

/-- An add to a screen with room. -/
theorem processAdd_room {st : ManageGridOptimize} {guid : UInt64} {info : PlayerGridInfo}
    (hg : st.getPlayerGridInfo guid = none)
    (hroom : st.selectedPlayer.length < st.screenLimit) :
    st.processAdd guid info
      = (((st.setInfo guid (some info)).addSelectedPlayer info).1,
          (st.setInfo guid (some info)).createOther guid ++
            ((st.setInfo guid (some info)).addSelectedPlayer info).2) := by
  have hroom' : (st.setInfo guid (some info)).selectedPlayer.length
      < (st.setInfo guid (some info)).screenLimit := hroom
  simp only [processAdd, hg, syncSelectedPlayer, if_pos hroom']

/-- An add to a full screen. -/
theorem processAdd_full {st : ManageGridOptimize} {guid : UInt64} {info : PlayerGridInfo}
    (hg : st.getPlayerGridInfo guid = none)
    (hroom : ¬ st.selectedPlayer.length < st.screenLimit) :
    st.processAdd guid info
      = ({ st.setInfo guid (some info) with
            notSelectedPlayer := insertGuid info.guid st.notSelectedPlayer },
          (st.setInfo guid (some info)).createOther guid) := by
  have hroom' : ¬ (st.setInfo guid (some info)).selectedPlayer.length
      < (st.setInfo guid (some info)).screenLimit := hroom
  simp only [processAdd, hg, syncSelectedPlayer, if_neg hroom', List.append_nil]
  rfl

/-- So does adding a player. -/
theorem processAdd_consistent {st : ManageGridOptimize} (h : Consistent st)
    (info : PlayerGridInfo) (hs : info.isSelected = false) :
    Consistent (st.processAdd info.guid info).1 := by
  cases hg : st.getPlayerGridInfo info.guid with
  | some i => simpa [processAdd, hg] using h
  | none =>
      by_cases hroom : st.selectedPlayer.length < st.screenLimit
      · rw [processAdd_room hg hroom]
        exact add_selected_consistent h info hg hroom
      · rw [processAdd_full hg hroom]
        exact add_waiting_consistent h hg hs hroom

/-- A selected player leaves and nobody waits for the place. -/
theorem remove_unreplaced_consistent {st : ManageGridOptimize} (h : Consistent st)
    {guid : UInt64} (hw : st.notSelectedPlayer = []) :
    Consistent
      ({ st with selectedPlayer := st.selectedPlayer.erase guid }.setInfo guid none) where
  key g i hi := by
    rw [getPlayerGridInfo_setInfo] at hi
    split at hi
    next => cases hi
    next => exact h.key g i hi
  selected g := by
    show g ∈ st.selectedPlayer.erase guid ↔ _
    rw [h.nodupSelected.mem_erase_iff, h.selected, getPlayerGridInfo_setInfo]
    by_cases hgg : g = guid
    · simp [hgg]
    · simp only [hgg, ne_eq, not_false_eq_true, true_and, if_false]
      rfl
  waiting g := by
    show g ∈ st.notSelectedPlayer ↔ _
    rw [h.waiting, getPlayerGridInfo_setInfo]
    by_cases hgg : g = guid
    · have hno : ¬ ∃ i, st.getPlayerGridInfo g = some i ∧ i.isSelected = false := by
        rw [← h.waiting, hw]; exact List.not_mem_nil
      simp only [hgg, if_true] at hno ⊢
      simp [hno]
    · simp only [hgg, if_false]
      rfl
  nodupSelected := h.nodupSelected.erase guid
  nodupWaiting := h.nodupWaiting
  bounded := le_trans (List.length_erase_le) h.bounded
  full hne := absurd hw hne

/-- A selected player leaves and the first waiting player takes the place. -/
theorem remove_replaced_consistent {st : ManageGridOptimize} (h : Consistent st)
    {guid first : UInt64} {rest : List UInt64} {info : PlayerGridInfo}
    (hsel : guid ∈ st.selectedPlayer) (hw : st.notSelectedPlayer = first :: rest)
    (hg : st.getPlayerGridInfo first = some info) :
    Consistent
      (({ st with
          selectedPlayer := st.selectedPlayer.erase guid
          notSelectedPlayer := rest }.addSelectedPlayer info).1.setInfo guid none) := by
  have hfirst : first ∈ st.notSelectedPlayer := by simp [hw]
  have hkey : info.guid = first := h.key first info hg
  obtain ⟨i, hi, his⟩ := (h.waiting first).mp hfirst
  obtain rfl : info = i := by rw [hg] at hi; simpa using hi
  have hnsel : first ∉ st.selectedPlayer := h.not_selected hg his
  have hne : first ≠ guid := fun he => hnsel (he ▸ hsel)
  have hnd : (first :: rest).Nodup := hw ▸ h.nodupWaiting
  have hnerase : first ∉ st.selectedPlayer.erase guid := fun hm => hnsel (List.mem_of_mem_erase hm)
  have hlen : (insertGuid first (st.selectedPlayer.erase guid)).length
      = st.selectedPlayer.length := by
    rw [insertGuid_length hnerase, List.length_erase_of_mem hsel]
    have := List.length_pos_of_mem hsel
    omega
  have hlook : ∀ g, ((({ st with
        selectedPlayer := st.selectedPlayer.erase guid
        notSelectedPlayer := rest }.addSelectedPlayer info).1.setInfo guid none).getPlayerGridInfo g)
      = if g = guid then none
        else if g = first then some { info with isSelected := true }
        else st.getPlayerGridInfo g := by
    intro g
    rw [getPlayerGridInfo_setInfo, getPlayerGridInfo_addSelectedPlayer, hkey]
    rfl
  refine ⟨?_, ?_, ?_, ?_, ?_, ?_, ?_⟩
  · intro g i hi
    rw [hlook] at hi
    split at hi
    next => cases hi
    next =>
        split at hi
        next hgf =>
            obtain rfl : { info with isSelected := true } = i := by simpa using hi
            rw [hgf]; exact hkey
        next => exact h.key g i hi
  · intro g
    rw [hlook, selectedPlayer_setInfo, selectedPlayer_addSelectedPlayer, mem_insertGuid, hkey,
      h.nodupSelected.mem_erase_iff, h.selected]
    by_cases hgg : g = guid
    · subst hgg; simp [Ne.symm hne]
    · by_cases hgf : g = first <;> simp [hgg, hgf, hne]
  · intro g
    rw [hlook]
    show g ∈ rest ↔ _
    have hrest : g ∈ rest ↔ g ≠ first ∧ g ∈ st.notSelectedPlayer := by
      rw [hw]
      constructor
      · intro hm
        exact ⟨fun he => (List.nodup_cons.mp hnd).1 (he ▸ hm), List.mem_cons_of_mem _ hm⟩
      · rintro ⟨hf, hm⟩
        exact (List.mem_cons.mp hm).resolve_left hf
    rw [hrest, h.waiting]
    by_cases hgg : g = guid
    · subst hgg
      obtain ⟨j, hj, hjs⟩ := (h.selected g).mp hsel
      simp [hj, hjs]
    · by_cases hgf : g = first <;> simp [hgg, hgf, hne]
  · show (insertGuid info.guid (st.selectedPlayer.erase guid)).Nodup
    exact insertGuid_nodup (h.nodupSelected.erase guid)
  · exact (List.nodup_cons.mp hnd).2
  · show (insertGuid info.guid (st.selectedPlayer.erase guid)).length ≤ st.screenLimit
    rw [hkey, hlen]; exact h.bounded
  · intro _
    show (insertGuid info.guid (st.selectedPlayer.erase guid)).length = st.screenLimit
    rw [hkey, hlen]
    exact h.full (List.ne_nil_of_mem hfirst)

/-- A waiting player leaves. -/
theorem remove_waiting_consistent {st : ManageGridOptimize} (h : Consistent st)
    {guid : UInt64} {info : PlayerGridInfo} (hg : st.getPlayerGridInfo guid = some info)
    (hs : info.isSelected = false) :
    Consistent
      ({ st with notSelectedPlayer := st.notSelectedPlayer.erase guid }.setInfo guid none) where
  key g i hi := by
    rw [getPlayerGridInfo_setInfo] at hi
    split at hi
    next => cases hi
    next => exact h.key g i hi
  selected g := by
    show g ∈ st.selectedPlayer ↔ _
    rw [getPlayerGridInfo_setInfo]
    by_cases hgg : g = guid
    · subst hgg
      simp [h.not_selected hg hs]
    · simp only [hgg, if_false]
      exact h.selected g
  waiting g := by
    show g ∈ st.notSelectedPlayer.erase guid ↔ _
    rw [h.nodupWaiting.mem_erase_iff, h.waiting, getPlayerGridInfo_setInfo]
    by_cases hgg : g = guid
    · simp [hgg]
    · simp only [hgg, ne_eq, not_false_eq_true, true_and, if_false]
      rfl
  nodupSelected := h.nodupSelected
  nodupWaiting := h.nodupWaiting.erase guid
  bounded := h.bounded
  full hne := h.full fun hnil => hne (by simp [hnil, ManageGridOptimize.setInfo])

/-- What a remove of a selected player comes to, by who waits. -/
theorem removeSelected_cases {st : ManageGridOptimize} (h : Consistent st) (guid : UInt64) :
    (st.notSelectedPlayer = [] ∧
      st.removeSelected guid
        = ({ st with selectedPlayer := st.selectedPlayer.erase guid },
            st.broadcastExcept guid (.playerRemove guid))) ∨
    ∃ first rest info, st.notSelectedPlayer = first :: rest ∧
      st.getPlayerGridInfo first = some info ∧
      st.removeSelected guid
        = (({ st with
              selectedPlayer := st.selectedPlayer.erase guid
              notSelectedPlayer := rest }.addSelectedPlayer info).1,
            st.broadcastExcept guid (.playerRemove guid) ++
              ({ st with
                  selectedPlayer := st.selectedPlayer.erase guid
                  notSelectedPlayer := rest }.addSelectedPlayer info).2) := by
  unfold removeSelected
  cases hw : st.notSelectedPlayer with
  | nil => exact .inl ⟨rfl, rfl⟩
  | cons first rest =>
      obtain ⟨info, hg, -⟩ := (h.waiting first).mp (by simp [hw])
      have hg' : st.playerGridInfoMap first = some info := hg
      exact .inr ⟨first, rest, info, rfl, hg, by simp only [getPlayerGridInfo, hg']⟩

/-- So does removing one. -/
theorem processRemove_consistent {st : ManageGridOptimize} (h : Consistent st)
    (guid : UInt64) : Consistent (st.processRemove guid).1 := by
  unfold processRemove
  cases hg : st.getPlayerGridInfo guid with
  | none => exact h
  | some info =>
      cases hs : info.isSelected with
      | false => simpa [hs] using remove_waiting_consistent h hg hs
      | true =>
          have hsel : guid ∈ st.selectedPlayer := (h.selected guid).mpr ⟨info, hg, hs⟩
          rcases removeSelected_cases h guid with ⟨hw, he⟩ | ⟨first, rest, i, hw, hf, he⟩
          · simpa [hs, he] using remove_unreplaced_consistent h hw
          · simpa [hs, he] using remove_replaced_consistent h hsel hw hf

/-! ## §3. Every operation, every run. -/

/-- Every operation keeps `Consistent`. -/
theorem process_consistent {st : ManageGridOptimize} (h : Consistent st) (call : GridCall) :
    Consistent (st.process call.operation).1 := by
  have attr : ∀ {set message} (guid : UInt64), (∀ i : PlayerGridInfo, (set i).guid = i.guid) →
      (∀ i : PlayerGridInfo, (set i).isSelected = i.isSelected) →
      Consistent (st.updateInfo guid set message).1 := fun _ hk hs => updateInfo_consistent h hk hs
  cases call with
  | add p => exact processAdd_consistent h (fillPlayerGridInfo p) rfl
  | readd p =>
      show Consistent (st.processReadd p.guid).1
      unfold processReadd
      cases st.getPlayerGridInfo p.guid <;> exact h
  | remove p => exact processRemove_consistent h p.guid
  | levelup p => exact processLevelup_consistent h p.guid p.level.toInt32
  | flowerRank p => exact processFlowerRank_consistent h p.guid p.flowerRank
  | broadcastPacket packet =>
      show Consistent (st.processBroadcast packet).1
      unfold processBroadcast
      cases st.getPlayerGridInfo packet.guid <;> exact h
  | move p => exact attr p.guid (fun _ => rfl) (fun _ => rfl)
  | updateGuildName p => exact attr p.guid (fun _ => rfl) (fun _ => rfl)
  | updateFollowRoleId p => exact attr p.guid (fun _ => rfl) (fun _ => rfl)
  | updateTitle p => exact attr p.guid (fun _ => rfl) (fun _ => rfl)
  | updateSpecialRight p => exact attr p.guid (fun _ => rfl) (fun _ => rfl)
  | updateHorse p => exact attr p.guid (fun _ => rfl) (fun _ => rfl)
  | updateWifeFollow p => exact attr p.guid (fun _ => rfl) (fun _ => rfl)
  | updateYellowVipLevel p => exact attr p.guid (fun _ => rfl) (fun _ => rfl)

/-! ## §4. The screen limit. -/

@[simp] theorem setInfo_num (st : ManageGridOptimize) (guid : UInt64)
    (info : Option PlayerGridInfo) :
    (st.setInfo guid info).selectedPlayerNum = st.selectedPlayerNum := rfl

theorem syncSelectedPlayer_num (st : ManageGridOptimize) (info : PlayerGridInfo) :
    (st.syncSelectedPlayer info).1.selectedPlayerNum = st.selectedPlayerNum := by
  unfold syncSelectedPlayer
  split <;> rfl

theorem removeSelected_num (st : ManageGridOptimize) (guid : UInt64) :
    (st.removeSelected guid).1.selectedPlayerNum = st.selectedPlayerNum := by
  unfold removeSelected
  cases st.notSelectedPlayer with
  | nil => rfl
  | cons first rest =>
      dsimp only
      split <;> rfl

theorem updateInfo_num (st : ManageGridOptimize) (guid : UInt64)
    (set : PlayerGridInfo → PlayerGridInfo) (message : PlayerGridInfo → GridMessage) :
    (st.updateInfo guid set message).1.selectedPlayerNum = st.selectedPlayerNum := by
  unfold updateInfo
  cases st.getPlayerGridInfo guid <;> rfl

/-- No operation changes the screen limit. -/
theorem process_num (st : ManageGridOptimize) (call : GridCall) :
    (st.process call.operation).1.selectedPlayerNum = st.selectedPlayerNum := by
  cases call with
  | add p =>
      show (st.processAdd p.guid _).1.selectedPlayerNum = _
      unfold processAdd
      cases st.getPlayerGridInfo p.guid with
      | some info => rfl
      | none => exact syncSelectedPlayer_num _ _
  | readd p =>
      show (st.processReadd p.guid).1.selectedPlayerNum = _
      unfold processReadd
      cases st.getPlayerGridInfo p.guid <;> rfl
  | remove p =>
      show (st.processRemove p.guid).1.selectedPlayerNum = _
      unfold processRemove
      cases st.getPlayerGridInfo p.guid with
      | none => rfl
      | some info =>
          cases hs : info.isSelected with
          | true => simpa [hs] using removeSelected_num st p.guid
          | false => simp [hs]
  | levelup p =>
      show (st.processLevelup p.guid p.level.toInt32).1.selectedPlayerNum = _
      unfold processLevelup
      cases st.getPlayerGridInfo p.guid <;> rfl
  | flowerRank p =>
      show (st.processFlowerRank p.guid p.flowerRank).1.selectedPlayerNum = _
      unfold processFlowerRank
      cases st.getPlayerGridInfo p.guid with
      | none => rfl
      | some info =>
          cases hs : info.isSelected with
          | true => simp [hs]
          | false =>
              simp only [hs, Bool.not_false, if_true]
              exact syncSelectedPlayer_num (st.setInfo p.guid _) _
  | broadcastPacket packet =>
      show (st.processBroadcast packet).1.selectedPlayerNum = _
      unfold processBroadcast
      cases st.getPlayerGridInfo packet.guid <;> rfl
  | move p => exact updateInfo_num st p.guid _ _
  | updateGuildName p => exact updateInfo_num st p.guid _ _
  | updateFollowRoleId p => exact updateInfo_num st p.guid _ _
  | updateTitle p => exact updateInfo_num st p.guid _ _
  | updateSpecialRight p => exact updateInfo_num st p.guid _ _
  | updateHorse p => exact updateInfo_num st p.guid _ _
  | updateWifeFollow p => exact updateInfo_num st p.guid _ _
  | updateYellowVipLevel p => exact updateInfo_num st p.guid _ _

/-! ## §5. Runs. -/

/-- The grid of a scene whose screen limit is the `int` `n`. -/
def gridCalls (n : Int32) : TransSys ManageGridOptimize GridCall where
  init st := st = { selectedPlayerNum := n.toInt }
  step st call := some (st.process call.operation).1

theorem gridCalls_consistent {n : Int32} {st : ManageGridOptimize}
    (hs : (gridCalls n).Reachable st) :
    Consistent st ∧ st.selectedPlayerNum = n.toInt := by
  apply hs.invariant
  · intro st hinit
    obtain rfl : st = { selectedPlayerNum := n.toInt } := hinit
    exact ⟨initial_consistent n.toInt, rfl⟩
  · intro st call st' h _ hst
    obtain rfl := Option.some.inj hst
    exact ⟨process_consistent h.1 call, (process_num st call).trans h.2⟩

/-- A limit of an `int` that is not negative is not changed by the comparison. -/
theorem screenLimit_eq {st : ManageGridOptimize} {n : Int32} (hn : 0 ≤ n.toInt)
    (h : st.selectedPlayerNum = n.toInt) : (st.screenLimit : Int) = n.toInt := by
  have hlt := n.toInt_lt
  unfold screenLimit
  omega

/-- **The containers stay consistent**: in every run, both sets are disjoint and together the
    players of the scene, the flag tells who is selected, no more than the screen limit are, and
    somebody waits only when as many are. -/
theorem containers_consistent {n : Int32} (hn : 0 ≤ n.toInt) {st : ManageGridOptimize}
    (hs : (gridCalls n).Reachable st) :
    (∀ g ∈ st.selectedPlayer, g ∉ st.notSelectedPlayer) ∧
    (∀ g, (g ∈ st.selectedPlayer ∨ g ∈ st.notSelectedPlayer) ↔
      (st.getPlayerGridInfo g).isSome = true) ∧
    (∀ g info, st.getPlayerGridInfo g = some info →
      (info.isSelected = true ↔ g ∈ st.selectedPlayer)) ∧
    st.selectedPlayer.Nodup ∧ st.notSelectedPlayer.Nodup ∧
    (st.selectedPlayer.length : Int) ≤ n.toInt ∧
    (st.notSelectedPlayer ≠ [] → (st.selectedPlayer.length : Int) = n.toInt) := by
  obtain ⟨h, hnum⟩ := gridCalls_consistent hs
  have hlimit := screenLimit_eq hn hnum
  refine ⟨?_, ?_, ?_, h.nodupSelected, h.nodupWaiting, ?_, ?_⟩
  · intro g hg hw
    obtain ⟨info, hinfo, hs⟩ := (h.waiting g).mp hw
    exact h.not_selected hinfo hs hg
  · intro g
    rw [← List.mem_append]
    exact h.mem_everyone
  · intro g info hg
    rw [h.selected]
    constructor
    · intro hs
      exact ⟨info, hg, hs⟩
    · intro hs
      obtain ⟨info', hg', hs'⟩ := hs
      obtain rfl : info = info' := Option.some.inj (hg.symm.trans hg')
      exact hs'
  · have hbounded := h.bounded
    omega
  · intro hne
    have hfull := h.full hne
    omega

/-- Limit one: player 2 waits, gets a flower rank, and takes the place of player 1. -/
theorem containers_consistent_promotion :
    ∃ st ∈ (gridCalls 1).run { selectedPlayerNum := 1 }
        [.add { guid := 1 }, .add { guid := 2 }, .flowerRank { guid := 2, flowerRank := 3 },
          .add { guid := 3 }, .remove { guid := 1 }],
      st.notSelectedPlayer = [3] ∧ st.selectedPlayer.length = (1 : Int) := by
  obtain ⟨st, hst, hwait⟩ : ∃ st ∈ (gridCalls 1).run { selectedPlayerNum := 1 }
      [.add { guid := 1 }, .add { guid := 2 }, .flowerRank { guid := 2, flowerRank := 3 },
        .add { guid := 3 }, .remove { guid := 1 }], st.notSelectedPlayer = [3] :=
    ⟨_, rfl, by decide⟩
  have h := containers_consistent (n := 1) (by decide) (TransSys.reachable_of_run rfl hst)
  refine ⟨st, hst, hwait, h.2.2.2.2.2.2 ?_⟩
  rw [hwait]
  exact List.cons_ne_nil _ _

end Steppingstone.Grid
