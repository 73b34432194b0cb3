/-
  Steppingstone.Startup.Directory — the lists of the registered players (`ManageShort`).

  A hundred `ShortPlayers` hold the guids of all players.  `checkShortPlayer` distributes them anew;
  `addNewPlayerShortInfo` adds a player that is not in the set of all short players to the list that
  has room.  The entity of the new `Short`, and that a list is written to the database, are left
  out.
-/
import Mathlib.Data.Finset.Sort
import Steppingstone.Lib.Bins
import Steppingstone.Startup.Answers

namespace Steppingstone.Startup

/-! ## §1. The check. -/

/-- `ONE_SHORT_PLAYER_CONTAIN_NUM`. -/
abbrev oneShortPlayerContainNum : Nat := 4000

/-- The `while` loop over the guids that are left: what is added to the list, and what is left
then. -/
def fillLoop (num : Nat) : List UInt64 → List UInt64 × List UInt64
  | [] => ([], [])
  | guid :: guids =>
      if oneShortPlayerContainNum ≤ num then ([], guid :: guids)
      else
        let (added, left) := fillLoop (num + 1) guids
        (guid :: added, left)

/-- The second loop over the lists. -/
def fillLists : List (Fin shortPlayerTotalNum) → List UInt64 → ShortPlayers → ShortPlayers
  | [], _, lists => lists
  | i :: is, guids, lists =>
      -- `num` starts at 0 again for each list
      let (added, left) := fillLoop 0 guids
      fillLists is left (Function.update lists i (lists i ++ added))

/-- The first loop over the lists. -/
def collectGuids (lists : ShortPlayers) : Finset UInt64 :=
  (List.finRange shortPlayerTotalNum).foldl
    (fun guids i => (lists i).foldl
      (fun guids guid => if isPlayerGuid guid then insert guid guids else guids) guids) ∅

/-- **`checkShortPlayer`**: the lists are cleared, and filled in the order of the set. -/
def checkShortPlayer (lists : ShortPlayers) : ShortPlayers :=
  fillLists (List.finRange shortPlayerTotalNum) ((collectGuids lists).sort (· ≤ ·)) fun _ => []

/-! ## §2. First logins. -/

/-- The lists, the one that is filled, and `m_all_short_player_set`. -/
structure Directory where
  lists : ShortPlayers
  availableShortPlayers : Option (Fin shortPlayerTotalNum) := none
  allShortPlayerSet : Finset UInt64 := ∅

namespace Directory

/-- Has the list room? -/
def HasRoom (d : Directory) (i : Fin shortPlayerTotalNum) : Prop :=
  (d.lists i).length < oneShortPlayerContainNum

instance decidableHasRoom (d : Directory) (i : Fin shortPlayerTotalNum) : Decidable (d.HasRoom i) :=
  inferInstanceAs (Decidable (_ < _))

/-- `assignAvailableShortPlayers`: the list is kept while it has room; without room anywhere it
stays, and the result is false. -/
def assignAvailableShortPlayers (d : Directory) : Directory × Bool :=
  if d.availableShortPlayers.any fun i => d.HasRoom i then (d, true)
  else
    match (List.finRange shortPlayerTotalNum).find? fun i => d.HasRoom i with
    | some i => ({ d with availableShortPlayers := some i }, true)
    | none => (d, false)

/-- `isCollectedShort`. -/
def isCollectedShort (d : Directory) (playerGuid : UInt64) : Bool :=
  decide (playerGuid ∈ d.allShortPlayerSet)

/-- The guid goes to the list that is filled; without one the function returns. -/
def addToAvailable (d : Directory) (guid : UInt64) : Directory :=
  match d.availableShortPlayers with
  | none => d
  | some i =>
      { d with
        lists := Bins.put d.lists i guid
        allShortPlayerSet := insert guid d.allShortPlayerSet }

/-- **`addNewPlayerShortInfo`**, as far as the lists go. -/
def addNewPlayerShortInfo (d : Directory) (guid : UInt64) : Directory :=
  if !d.isCollectedShort guid then d.assignAvailableShortPlayers.1.addToAvailable guid else d

end Directory

/-- `loadPlayerShortFinish` once the lists are in the pool and checked: if one of them has room
`loadShortInfo` collects the set. -/
def loadedDirectory (checked : ShortPlayers) : Directory :=
  let assigned := ({ lists := checked } : Directory).assignAvailableShortPlayers
  if assigned.2 then
    { assigned.1 with
      allShortPlayerSet := (ManageShort.loadShortInfo {} assigned.1.lists).allShortPlayerSet }
  else assigned.1

/-- The directory of a server that starts. -/
def startDirectory (lists : ShortPlayers) : Directory := loadedDirectory (checkShortPlayer lists)

/-- The directory after the given first logins. -/
def directoryAfter (lists : ShortPlayers) (logins : List UInt64) : Directory :=
  logins.foldl Directory.addNewPlayerShortInfo (startDirectory lists)

/-! ## §3. What the check leaves. -/

theorem fillLoop_eq (num : Nat) (guids : List UInt64) :
    fillLoop num guids = (guids.take (oneShortPlayerContainNum - num),
      guids.drop (oneShortPlayerContainNum - num)) := by
  -- the loop takes guids until the list is full
  induction guids generalizing num with
  | nil => rw [fillLoop, List.take_nil, List.drop_nil]
  | cons guid guids ih =>
      unfold fillLoop
      by_cases hfull : oneShortPlayerContainNum ≤ num
      · rw [if_pos hfull, Nat.sub_eq_zero_of_le hfull, List.take_zero, List.drop_zero]
      · obtain ⟨left, hleft⟩ : ∃ left, oneShortPlayerContainNum - num = left + 1 :=
          ⟨oneShortPlayerContainNum - num - 1, by omega⟩
        have hnext : oneShortPlayerContainNum - (num + 1) = left := by omega
        rw [if_neg hfull, ih, hleft, hnext, List.take_succ_cons, List.drop_succ_cons]

/-- The lists are filled like bins. -/
theorem fillLists_eq (is : List (Fin shortPlayerTotalNum)) (guids : List UInt64)
    (lists : ShortPlayers) :
    fillLists is guids lists = Bins.fill oneShortPlayerContainNum is guids lists := by
  induction is generalizing guids lists with
  | nil => rfl
  | cons i is ih =>
      unfold fillLists Bins.fill
      rw [fillLoop_eq]
      exact ih _ _

theorem foldl_collect_guids (guids : List UInt64) (collected : Finset UInt64) (g : UInt64) :
    g ∈ guids.foldl
        (fun guids guid => if isPlayerGuid guid then insert guid guids else guids) collected ↔
      g ∈ collected ∨ (g ∈ guids ∧ isPlayerGuid g = true) := by
  -- a guid of another type is dropped by the check
  induction guids generalizing collected with
  | nil => simp only [List.foldl_nil, List.not_mem_nil, false_and, or_false]
  | cons guid guids ih =>
      rw [List.foldl_cons, ih, List.mem_cons]
      by_cases hplayer : isPlayerGuid guid = true
      · rw [if_pos hplayer, Finset.mem_insert]
        constructor
        · rintro ((rfl | hold) | hlist)
          · exact .inr ⟨.inl rfl, hplayer⟩
          · exact .inl hold
          · exact .inr ⟨.inr hlist.1, hlist.2⟩
        · rintro (hold | ⟨rfl | hlist, hg⟩)
          · exact .inl (.inr hold)
          · exact .inl (.inl rfl)
          · exact .inr ⟨hlist, hg⟩
      · rw [if_neg hplayer]
        refine or_congr_right (and_congr_left fun hg => (or_iff_right ?_).symm)
        rintro rfl
        exact hplayer hg

/-- The guids of players in the lists are collected. -/
theorem mem_collectGuids {lists : ShortPlayers} {g : UInt64} :
    g ∈ collectGuids lists ↔ g ∈ lists.listed ∧ isPlayerGuid g = true := by
  unfold collectGuids ShortPlayers.listed
  rw [← List.foldl_flatMap, foldl_collect_guids, or_iff_right (Finset.notMem_empty g)]

/-- **The lists hold the collected guids**, as far as they go. -/
theorem listed_checkShortPlayer (lists : ShortPlayers) :
    (checkShortPlayer lists).listed = ((collectGuids lists).sort (· ≤ ·)).take 400000 := by
  unfold checkShortPlayer ShortPlayers.listed
  have htotal : shortPlayerTotalNum * oneShortPlayerContainNum = 400000 := rfl
  rw [fillLists_eq, Bins.flatMap_fill (List.nodup_finRange _) _ fun _ _ => rfl,
    List.length_finRange, htotal]

/-- No player is in the checked lists twice. -/
theorem nodup_checkShortPlayer (lists : ShortPlayers) : (checkShortPlayer lists).listed.Nodup := by
  rw [listed_checkShortPlayer]
  exact (Finset.sort_nodup _ _).sublist (List.take_sublist ..)

theorem length_checkShortPlayer_le (lists : ShortPlayers) (i : Fin shortPlayerTotalNum) :
    (checkShortPlayer lists i).length ≤ oneShortPlayerContainNum := by
  unfold checkShortPlayer
  rw [fillLists_eq]
  exact Bins.length_fill_le (List.nodup_finRange _) _ (fun _ _ => rfl) (fun _ => Nat.zero_le _) i

theorem isPlayerGuid_of_checked {lists : ShortPlayers} {g : UInt64}
    (h : g ∈ (checkShortPlayer lists).listed) : isPlayerGuid g = true := by
  rw [listed_checkShortPlayer] at h
  exact (mem_collectGuids.mp ((Finset.mem_sort _).mp (List.mem_of_mem_take h))).2

/-- **Exactly the distinct player guids that were listed**, if there is room for them. -/
theorem mem_checkShortPlayer {lists : ShortPlayers} (hroom : (collectGuids lists).card ≤ 400000)
    {g : UInt64} :
    g ∈ (checkShortPlayer lists).listed ↔ g ∈ lists.listed ∧ isPlayerGuid g = true := by
  have hlength : ((collectGuids lists).sort (· ≤ ·)).length ≤ 400000 := by
    rw [Finset.length_sort]
    exact hroom
  rw [listed_checkShortPlayer, List.take_of_length_le hlength, Finset.mem_sort, mem_collectGuids]

/-! ## §4. What the set is at the start. -/

/-- The guid of a player is its own player guid. -/
theorem switch_player {g : UInt64} (h : isPlayerGuid g = true) : switchGuidType etPlayer g = g := by
  have htype : guidType g = etPlayer := beq_iff_eq.mp h
  -- the type is the high byte, and that of a player is 1
  have hhigh : g.toNat / 2 ^ 56 = 1 := by
    have hnat := congrArg UInt64.toNat htype
    unfold guidType at hnat
    rw [UInt64.toNat_and, UInt64.toNat_shiftRight] at hnat
    replace hnat : g.toNat >>> 56 &&& (2 ^ 8 - 1) = 1 := hnat
    have hlt := g.toNat_lt
    rw [Nat.and_two_pow_sub_one_eq_mod, Nat.shiftRight_eq_div_pow] at hnat
    omega
  have hlow : (g &&& (0x00FFFFFFFFFFFFFF : UInt64)).toNat = g.toNat % 2 ^ 56 := by
    rw [UInt64.toNat_and]
    exact Nat.and_two_pow_sub_one_eq_mod g.toNat 56
  refine UInt64.toNat_inj.mp ?_
  unfold switchGuidType
  rw [UInt64.toNat_or, hlow]
  show 2 ^ 56 * 1 ||| g.toNat % 2 ^ 56 = _
  rw [← Nat.two_pow_add_eq_or_of_lt (Nat.mod_lt _ (by decide))]
  omega

/-- The players whose shorts are loaded. -/
theorem foldl_loadShort_set (ps : List UInt64) (s : ManageShort) (g : UInt64) :
    g ∈ (ps.foldl ManageShort.loadShort s).allShortPlayerSet ↔
      g ∈ s.allShortPlayerSet ∨ g ∈ ps.map (switchGuidType etPlayer) := by
  induction ps generalizing s with
  | nil => simp only [List.foldl_nil, List.map_nil, List.not_mem_nil, or_false]
  | cons p ps ih =>
      have hinsert : (s.loadShort p).allShortPlayerSet
          = insert (switchGuidType etPlayer p) s.allShortPlayerSet := rfl
      rw [List.foldl_cons, ih, hinsert, Finset.mem_insert, List.map_cons, List.mem_cons]
      tauto

/-- The set holds the listed players, if all guids are those of players. -/
theorem mem_loadShortInfo {lists : ShortPlayers}
    (hplayers : ∀ g ∈ lists.listed, isPlayerGuid g = true) {g : UInt64} :
    g ∈ (ManageShort.loadShortInfo {} lists).allShortPlayerSet ↔ g ∈ lists.listed := by
  have hset : (ManageShort.loadShortInfo {} lists).allShortPlayerSet
      = (lists.listed.foldl ManageShort.loadShort {}).allShortPlayerSet := by
    unfold ManageShort.loadShortInfo
    rw [← List.foldl_flatMap]
    by_cases hnone : lists.listed = []
    · simp only [if_pos hnone]
      rfl
    · simp only [if_neg hnone]
      rfl
  have hself : lists.listed.map (switchGuidType etPlayer) = lists.listed :=
    (List.map_congr_left fun g hg => switch_player (hplayers g hg)).trans (List.map_id _)
  rw [hset, foldl_loadShort_set, hself]
  exact or_iff_right (Finset.notMem_empty g)

/-! ## §5. The lists and the set. -/

/-- **The lists and the set agree**, and no list is too long while there is room. -/
structure Directory.Inv (d : Directory) : Prop where
  once : d.lists.listed.Nodup
  collected : d.availableShortPlayers ≠ none → ∀ g, g ∈ d.allShortPlayerSet ↔ g ∈ d.lists.listed
  /-- The start found no room: the set was not collected, and nobody is added. -/
  closed : d.availableShortPlayers = none →
    d.allShortPlayerSet = ∅ ∧ ∀ i, ¬ d.HasRoom i
  bounded : (∃ i, d.HasRoom i) → ∀ i, (d.lists i).length ≤ oneShortPlayerContainNum

variable {d : Directory}

/-- What `assignAvailableShortPlayers` does. -/
theorem assign_cases (d : Directory) :
    (∃ i, d.HasRoom i ∧
      d.assignAvailableShortPlayers = ({ d with availableShortPlayers := some i }, true)) ∨
    ((∀ i, ¬ d.HasRoom i) ∧ d.assignAvailableShortPlayers = (d, false)) := by
  -- the list that was filled last is kept while it has room
  by_cases hkeep : (d.availableShortPlayers.any fun i => d.HasRoom i) = true
  · obtain ⟨i, hi, hroom⟩ := (Option.any_eq_true ..).mp hkeep
    refine .inl ⟨i, of_decide_eq_true hroom, ?_⟩
    unfold Directory.assignAvailableShortPlayers
    rw [if_pos hkeep, ← hi]
  · have hsearch : d.assignAvailableShortPlayers
        = ((List.finRange shortPlayerTotalNum).find? fun i => d.HasRoom i).elim (d, false)
            fun i => ({ d with availableShortPlayers := some i }, true) := by
      unfold Directory.assignAvailableShortPlayers
      rw [if_neg hkeep]
      cases (List.finRange shortPlayerTotalNum).find? fun i => d.HasRoom i <;> rfl
    rw [hsearch]
    cases hfind : (List.finRange shortPlayerTotalNum).find? fun i => d.HasRoom i with
    | none =>
        refine .inr ⟨fun i hroom => ?_, rfl⟩
        exact absurd (decide_eq_true hroom) (List.find?_eq_none.mp hfind i (List.mem_finRange i))
    | some i =>
        have hroom := List.find?_some (p := fun i => decide (d.HasRoom i)) hfind
        exact .inl ⟨i, of_decide_eq_true hroom, rfl⟩

theorem loadedDirectory_inv {checked : ShortPlayers} (hnodup : checked.listed.Nodup)
    (hplayers : ∀ g ∈ checked.listed, isPlayerGuid g = true)
    (hbounded : ∀ i, (checked i).length ≤ oneShortPlayerContainNum) :
    (loadedDirectory checked).Inv := by
  unfold loadedDirectory
  obtain ⟨i, hroom, hassign⟩ | ⟨hfull, hassign⟩ :=
    assign_cases ({ lists := checked } : Directory)
  · rw [hassign]
    refine ⟨hnodup, fun _ g => mem_loadShortInfo hplayers, fun hnone => ?_, fun _ => hbounded⟩
    cases hnone
  · rw [hassign]
    exact ⟨hnodup, fun hsome => absurd rfl hsome, fun _ => ⟨rfl, hfull⟩, fun _ => hbounded⟩

theorem start_inv_directory (lists : ShortPlayers) : (startDirectory lists).Inv :=
  loadedDirectory_inv (nodup_checkShortPlayer lists) (fun _ => isPlayerGuid_of_checked)
    (length_checkShortPlayer_le lists)

theorem addToAvailable_some {i : Fin shortPlayerTotalNum} (guid : UInt64)
    (h : d.availableShortPlayers = some i) :
    d.addToAvailable guid = {
      lists := Bins.put d.lists i guid
      availableShortPlayers := some i
      allShortPlayerSet := insert guid d.allShortPlayerSet } := by
  obtain ⟨lists, available, players⟩ := d
  cases h
  rfl

theorem addToAvailable_none (guid : UInt64) (h : d.availableShortPlayers = none) :
    d.addToAvailable guid = d := by
  obtain ⟨lists, available, players⟩ := d
  cases h
  rfl

/-- What one first login does: nothing for a player that is in the set; else the player is put into
a list with room; without room, into the list that is filled, if there is one. -/
theorem add_cases (d : Directory) (guid : UInt64) :
    (guid ∈ d.allShortPlayerSet ∧ d.addNewPlayerShortInfo guid = d) ∨
    (guid ∉ d.allShortPlayerSet ∧ ∃ i,
      (d.HasRoom i ∨ (∀ j, ¬ d.HasRoom j) ∧ d.availableShortPlayers = some i) ∧
      d.addNewPlayerShortInfo guid = {
        lists := Bins.put d.lists i guid
        availableShortPlayers := some i
        allShortPlayerSet := insert guid d.allShortPlayerSet }) ∨
    (d.availableShortPlayers = none ∧ (∀ j, ¬ d.HasRoom j) ∧ d.addNewPlayerShortInfo guid = d) := by
  -- a player in the set is not added again
  by_cases hmem : guid ∈ d.allShortPlayerSet
  · refine .inl ⟨hmem, if_neg ?_⟩
    rw [Directory.isCollectedShort, decide_eq_true hmem]
    decide
  · have hnew : d.addNewPlayerShortInfo guid
        = d.assignAvailableShortPlayers.1.addToAvailable guid := by
      refine if_pos ?_
      rw [Directory.isCollectedShort, decide_eq_false hmem]
      decide
    rw [hnew]
    obtain ⟨i, hroom, hassign⟩ | ⟨hfull, hassign⟩ := assign_cases d
    · rw [hassign]
      exact .inr (.inl ⟨hmem, i, .inl hroom, rfl⟩)
    · rw [hassign]
      cases havail : d.availableShortPlayers with
      | none => exact .inr (.inr ⟨rfl, hfull, addToAvailable_none guid havail⟩)
      | some i =>
          exact .inr (.inl ⟨hmem, i, .inr ⟨hfull, rfl⟩, addToAvailable_some guid havail⟩)

/-- While some list has room, a first login leaves no list above its limit. -/
theorem Directory.Inv.add_le (h : d.Inv) (hroom : ∃ k, d.HasRoom k) (guid : UInt64)
    (j : Fin shortPlayerTotalNum) :
    ((d.addNewPlayerShortInfo guid).lists j).length ≤ oneShortPlayerContainNum := by
  obtain ⟨k, hk⟩ := hroom
  obtain ⟨-, hsame⟩ | ⟨-, i, hplace, hadd⟩ | ⟨-, hfull, -⟩ := add_cases d guid
  · rw [hsame]
    exact h.bounded ⟨k, hk⟩ j
  · have hi : d.HasRoom i := hplace.resolve_right fun hfull => hfull.1 k hk
    rw [hadd]
    show (Bins.put d.lists i guid j).length ≤ oneShortPlayerContainNum
    by_cases hji : j = i
    · rw [hji, Bins.put_self, List.length_append]
      exact hi
    · rw [Bins.put_of_ne hji]
      exact h.bounded ⟨k, hk⟩ j
  · exact absurd hk (hfull k)

/-- A list that has room after a first login had room before. -/
theorem hasRoom_of_add {k : Fin shortPlayerTotalNum} {guid : UInt64}
    (h : (d.addNewPlayerShortInfo guid).HasRoom k) : d.HasRoom k := by
  obtain ⟨-, hsame⟩ | ⟨-, i, -, hadd⟩ | ⟨-, -, hsame⟩ := add_cases d guid
  · rw [hsame] at h
    exact h
  · rw [hadd] at h
    refine Nat.lt_of_le_of_lt ?_ h
    show _ ≤ (Bins.put d.lists i guid k).length
    by_cases hki : k = i
    · rw [hki, Bins.put_self, List.length_append]
      exact Nat.le_add_right ..
    · rw [Bins.put_of_ne hki]
  · rw [hsame] at h
    exact h

/-- **One first login** keeps the lists and the set in agreement. -/
theorem Directory.Inv.add (h : d.Inv) (guid : UInt64) : (d.addNewPlayerShortInfo guid).Inv := by
  obtain ⟨-, hsame⟩ | ⟨hnew, i, hplace, hadd⟩ | ⟨-, -, hsame⟩ := add_cases d guid
  · rw [hsame]
    exact h
  -- without a list to fill nobody would have been added
  · have havail : d.availableShortPlayers ≠ none := by
      intro hnone
      obtain hroom | ⟨-, hsome⟩ := hplace
      · exact (h.closed hnone).2 i hroom
      · rw [hnone] at hsome
        cases hsome
    have hlisted : guid ∉ d.lists.listed := fun hmem => hnew ((h.collected havail guid).mpr hmem)
    have hperm := Bins.all_put_perm d.lists i guid
    have hbounded : (∃ k, (d.addNewPlayerShortInfo guid).HasRoom k) →
        ∀ j, ((d.addNewPlayerShortInfo guid).lists j).length ≤ oneShortPlayerContainNum :=
      fun hroom => h.add_le (hroom.imp fun _ => hasRoom_of_add) guid
    rw [hadd] at hbounded ⊢
    refine ⟨?_, fun _ g => ?_, fun hnone => ?_, hbounded⟩
    · exact hperm.nodup_iff.mpr (List.nodup_cons.mpr ⟨hlisted, h.once⟩)
    · show g ∈ insert guid d.allShortPlayerSet ↔ g ∈ Bins.all (Bins.put d.lists i guid)
      rw [Finset.mem_insert, hperm.mem_iff, List.mem_cons, h.collected havail g]
      rfl
    · cases hnone
  · rw [hsame]
    exact h

/-! ## §6. The directory over any first logins. -/

theorem directoryAfter_nil (lists : ShortPlayers) :
    directoryAfter lists [] = startDirectory lists :=
  List.foldl_nil

theorem directoryAfter_snoc (lists : ShortPlayers) (logins : List UInt64) (guid : UInt64) :
    directoryAfter lists (logins ++ [guid])
      = (directoryAfter lists logins).addNewPlayerShortInfo guid :=
  List.foldl_concat ..

/-- **Every login** keeps the directory. -/
theorem directoryAfter_inv (lists : ShortPlayers) (logins : List UInt64) :
    (directoryAfter lists logins).Inv := by
  -- on the number of first logins, from the start of the server on
  induction logins using List.reverseRecOn with
  | nil =>
      rw [directoryAfter_nil]
      exact start_inv_directory lists
  | append_singleton logins guid ih =>
      rw [directoryAfter_snoc]
      exact ih.add guid

/-- Nobody is taken out, and the list that is filled does not get lost. -/
theorem add_keeps (d : Directory) (guid : UInt64) :
    (∀ g ∈ d.lists.listed, g ∈ (d.addNewPlayerShortInfo guid).lists.listed) ∧
      (d.availableShortPlayers ≠ none →
        (d.addNewPlayerShortInfo guid).availableShortPlayers ≠ none) := by
  obtain ⟨-, hsame⟩ | ⟨-, i, -, hadd⟩ | ⟨-, -, hsame⟩ := add_cases d guid
  · rw [hsame]
    exact ⟨fun _ hg => hg, id⟩
  · rw [hadd]
    refine ⟨fun g hg => ?_, fun _ => Option.some_ne_none i⟩
    exact (Bins.all_put_perm d.lists i guid).mem_iff.mpr (List.mem_cons_of_mem _ hg)
  · rw [hsame]
    exact ⟨fun _ hg => hg, id⟩

/-- The player of a first login is listed. -/
theorem Directory.Inv.mem_add (h : d.Inv) (havail : d.availableShortPlayers ≠ none)
    (guid : UInt64) : guid ∈ (d.addNewPlayerShortInfo guid).lists.listed := by
  obtain ⟨hmem, hsame⟩ | ⟨-, i, -, hadd⟩ | ⟨hnone, -, -⟩ := add_cases d guid
  · rw [hsame]
    exact (h.collected havail guid).mp hmem
  · rw [hadd]
    exact (Bins.all_put_perm d.lists i guid).mem_iff.mpr (List.mem_cons_self ..)
  · exact absurd hnone havail

/-- What holds of the directory after the given first logins. -/
structure IsPartition (lists : ShortPlayers) (logins : List UInt64) : Prop where
  /-- The check leaves the distinct player guids that were listed, if they fit, -/
  checked : (lists.listed.filter isPlayerGuid).dedup.length ≤ 400000 → ∀ g,
    g ∈ (checkShortPlayer lists).listed ↔ g ∈ lists.listed ∧ isPlayerGuid g = true
  /-- each of them in exactly one list, -/
  checked_once : ∀ g ∈ (checkShortPlayer lists).listed, Bins.HoldsOnce (checkShortPlayer lists) g
  /-- and no list above its limit. -/
  checked_le : ∀ i, (checkShortPlayer lists i).length ≤ oneShortPlayerContainNum
  /-- A registered player is in exactly one list: one that the check left, -/
  kept : ∀ g ∈ (checkShortPlayer lists).listed,
    Bins.HoldsOnce (directoryAfter lists logins).lists g
  /-- one in the set of all short players, -/
  collected : ∀ g ∈ (directoryAfter lists logins).allShortPlayerSet,
    Bins.HoldsOnce (directoryAfter lists logins).lists g
  /-- and one of a first login, unless the server found all lists full when it started. -/
  registered : (∃ i, (checkShortPlayer lists i).length < oneShortPlayerContainNum) →
    ∀ g ∈ logins, Bins.HoldsOnce (directoryAfter lists logins).lists g
  /-- While some list has room, the next first login leaves no list above its limit. -/
  room : (∃ j, (directoryAfter lists logins).HasRoom j) → ∀ guid i,
    ((directoryAfter lists (logins ++ [guid])).lists i).length ≤ oneShortPlayerContainNum

theorem startDirectory_lists (lists : ShortPlayers) :
    (startDirectory lists).lists = checkShortPlayer lists ∧
      ((∃ i, (checkShortPlayer lists i).length < oneShortPlayerContainNum) →
        (startDirectory lists).availableShortPlayers ≠ none) := by
  unfold startDirectory
  generalize checkShortPlayer lists = checked
  unfold loadedDirectory
  obtain ⟨i, -, hassign⟩ | ⟨hfull, hassign⟩ := assign_cases ({ lists := checked } : Directory)
  · rw [hassign]
    exact ⟨rfl, fun _ => Option.some_ne_none i⟩
  · rw [hassign]
    refine ⟨rfl, fun hroom => ?_⟩
    obtain ⟨i, hi⟩ := hroom
    exact absurd hi (hfull i)

/-- What the runs keep of the start and of their logins. -/
theorem directoryAfter_keeps (lists : ShortPlayers) (logins : List UInt64) :
    (∀ g ∈ (checkShortPlayer lists).listed, g ∈ (directoryAfter lists logins).lists.listed) ∧
      ((∃ i, (checkShortPlayer lists i).length < oneShortPlayerContainNum) →
        (directoryAfter lists logins).availableShortPlayers ≠ none ∧
          ∀ g ∈ logins, g ∈ (directoryAfter lists logins).lists.listed) := by
  obtain ⟨hlists, havail⟩ := startDirectory_lists lists
  induction logins using List.reverseRecOn with
  | nil =>
      rw [directoryAfter_nil, hlists]
      exact ⟨fun _ hg => hg, fun hroom => ⟨havail hroom, List.forall_mem_nil _⟩⟩
  | append_singleton logins guid ih =>
      obtain ⟨hkept, hlater⟩ := ih
      obtain ⟨hstay, hopen⟩ := add_keeps (directoryAfter lists logins) guid
      rw [directoryAfter_snoc]
      refine ⟨fun g hg => hstay g (hkept g hg), fun hroom => ?_⟩
      obtain ⟨hfilled, hregistered⟩ := hlater hroom
      refine ⟨hopen hfilled, fun g hg => ?_⟩
      obtain hg | hg := List.mem_append.mp hg
      · exact hstay g (hregistered g hg)
      · rw [List.mem_singleton.mp hg]
        exact (directoryAfter_inv lists logins).mem_add hfilled guid

/-- The set of the check is as large as the list of the distinct player guids. -/
theorem card_collectGuids (lists : ShortPlayers) :
    (collectGuids lists).card = (lists.listed.filter isPlayerGuid).dedup.length := by
  have hset : collectGuids lists = (lists.listed.filter isPlayerGuid).toFinset := by
    ext g
    rw [mem_collectGuids, List.mem_toFinset, List.mem_filter]
  rw [hset, List.card_toFinset]

/-- **The directory is a partition of the registered players**, after any first logins. -/
theorem directory_is_partition (lists : ShortPlayers) (logins : List UInt64) :
    IsPartition lists logins := by
  have hinv := directoryAfter_inv lists logins
  obtain ⟨hkept, hregistered⟩ := directoryAfter_keeps lists logins
  have honce : ∀ g ∈ (directoryAfter lists logins).lists.listed,
      Bins.HoldsOnce (directoryAfter lists logins).lists g :=
    fun g hg => Bins.holdsOnce_of_nodup hinv.once hg
  refine ⟨fun hfits g => mem_checkShortPlayer ?_, fun g hg => ?_, length_checkShortPlayer_le lists,
    fun g hg => honce g (hkept g hg), fun g hg => honce g ?_,
    fun hroom g hg => honce g ((hregistered hroom).2 g hg), fun hroom guid i => ?_⟩
  · rw [card_collectGuids]
    exact hfits
  · exact Bins.holdsOnce_of_nodup (nodup_checkShortPlayer lists) hg
  -- a start without room has collected nobody
  · by_cases havail : (directoryAfter lists logins).availableShortPlayers = none
    · rw [(hinv.closed havail).1] at hg
      exact absurd hg (Finset.notMem_empty g)
    · exact (hinv.collected havail g).mp hg
  · rw [directoryAfter_snoc]
    exact hinv.add_le hroom guid i

end Steppingstone.Startup
