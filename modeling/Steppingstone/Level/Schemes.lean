/-
  Steppingstone.Level.Schemes — changes of attributes by the number of a scheme
  (`SceneImp::modifyPlayerAttrBySchemeId`).

  A scheme calls `modifyRoleAttr` for each of its attributes.  Calls that touch neither computed
  attributes nor the hit points leave the same attributes in any order: the free ones get the same
  sums, and the same computed ones are computed again.  So a composite scheme is its parts when they
  call for the same attributes.  Scheme 10 calls for the base of the intelligence defence, as scheme
  12 does, and 18 is not its parts.
-/
import Steppingstone.Level.TakenOff

namespace Steppingstone.Level

variable {attr a : RoleAttrType} {value : Int32}

/-! ## §1. The schemes. -/

/-- The attributes that the switch of `modifyPlayerAttrBySchemeId` changes, in its order. -/
def schemeAttrs (schemeId : Int32) : List RoleAttrType :=
  match schemeId with
  | 1 => [.hpBase]
  | 7 => [.strAttBase]
  | 8 => [.strDefBase]
  | 9 => [.agiAttBase]
  -- the source has `RAT_INT_DEF_BASE` here as well as for 12
  | 10 => [.intDefBase]
  | 11 => [.intAttBase]
  | 12 => [.intDefBase]
  | 13 => [.str]
  | 14 => [.agi]
  | 15 => [.int]
  | 16 => [.str, .agi, .int]
  | 17 => [.strAttBase, .agiAttBase, .intAttBase]
  | 18 => [.strDefBase, .agiDefBase, .intDefBase]
  | 25 => [.strAttPercent]
  | 26 => [.strDefPercent]
  | 27 => [.agiAttPercent]
  | 28 => [.agiDefPercent]
  | 29 => [.intAttPercent]
  | 30 => [.intDefPercent]
  | 31 => [.critical]
  | 32 => [.block]
  | 33 => [.hit]
  | 34 => [.dodge]
  | 35 => [.strikeBack]
  | 36 => [.blockDefenceMultiple]
  | 37 => [.criticalMultiple]
  | 38 => [.criticalMultiple]
  | 42 => [.strAttPercent, .agiAttPercent, .intAttPercent]
  | 43 => [.strDefPercent, .agiDefPercent, .intDefPercent]
  -- 2 to 6 and 39 to 41 are still to do in the source
  | _ => []

/-- `SceneImp::modifyPlayerAttrBySchemeId`; it always returns true. -/
def modifyPlayerAttrBySchemeId (res : SceneRes) (scene : SceneImp) (role : Role)
    (schemeId value : Int32) : Role :=
  (schemeAttrs schemeId).foldl (fun role attr => modifyRoleAttr res scene role attr value) role

/-- Schemes one after the other, by the same amount. -/
def modifyBySchemes (res : SceneRes) (scene : SceneImp) (role : Role) (schemeIds : List Int32)
    (value : Int32) : Role :=
  schemeIds.foldl (fun role id => modifyPlayerAttrBySchemeId res scene role id value) role

/-- The composite schemes, and the single ones they bundle. -/
def composites : List (Int32 × List Int32) :=
  [(16, [13, 14, 15]), (17, [7, 9, 11]), (18, [8, 10, 12]), (42, [25, 27, 29]),
    (43, [26, 28, 30])]

/-- The calls for some attributes. -/
def callsFor (scene : SceneImp) (value : Int32) (attrs : List RoleAttrType) : List RoleCall :=
  attrs.map fun attr => ⟨scene, attr, value⟩

theorem bySchemeId_eq (res : SceneRes) (scene : SceneImp) (role : Role) (schemeId value : Int32) :
    modifyPlayerAttrBySchemeId res scene role schemeId value
      = modifyEach res role (callsFor scene value (schemeAttrs schemeId)) := by
  unfold modifyPlayerAttrBySchemeId modifyEach callsFor
  rw [List.foldl_map]

theorem bySchemes_eq (res : SceneRes) (scene : SceneImp) (role : Role) (schemeIds : List Int32)
    (value : Int32) :
    modifyBySchemes res scene role schemeIds value
      = modifyEach res role (callsFor scene value (schemeIds.flatMap schemeAttrs)) := by
  induction schemeIds generalizing role with
  | nil => rfl
  | cons id ids ih =>
      show modifyBySchemes res scene (modifyPlayerAttrBySchemeId res scene role id value) ids value
        = (callsFor scene value (schemeAttrs id ++ ids.flatMap schemeAttrs)).foldl _ role
      -- the calls of one scheme come before those of the rest
      rw [ih, bySchemeId_eq]
      unfold callsFor
      rw [List.map_append, List.foldl_append]
      rfl

/-! ## §2. Calls in any order. -/

/-- An attribute that is free and does not feed the hit points. -/
def RoleAttrType.IsPlain (a : RoleAttrType) : Prop :=
  a.isFree = true ∧ ¬ Computed.hp.Feeds a

instance isPlainDecidable (a : RoleAttrType) : Decidable a.IsPlain :=
  inferInstanceAs (Decidable (_ ∧ _))

theorem innerCalls_isPlain {res : SceneRes} {level : UInt32} {call : RoleAttrType × Int32}
    (h : call ∈ innerCalls res level attr value) : call.1.IsPlain := by
  unfold innerCalls at h
  split at h
  case h_25 => cases h
  case h_1 | h_2 | h_3 =>
    obtain rfl | rfl | rfl : _ ∨ _ ∨ _ := by simpa using h
    all_goals exact of_decide_eq_true rfl
  all_goals
    obtain rfl := List.mem_singleton.mp h
    exact of_decide_eq_true rfl

/-- A call for a plain attribute changes plain attributes only. -/
theorem changes_isPlain {res : SceneRes} {level : UInt32} {depth : Nat} (hattr : attr.IsPlain)
    {ch : RoleAttrType × Int32} (h : ch ∈ changes res level depth attr value) : ch.1.IsPlain := by
  -- on the depth: the calls inside are for plain attributes again
  induction depth generalizing attr value with
  | zero => cases h
  | succ depth ih =>
      unfold changes at h
      by_cases hvalue : value = 0
      · rw [if_pos hvalue] at h
        cases h
      · rw [if_neg hvalue] at h
        obtain h | h := List.mem_append.mp h
        · obtain ⟨call, hcall, hch⟩ := List.mem_flatMap.mp h
          exact ih (innerCalls_isPlain hcall) hch
        · rw [List.mem_singleton.mp h]
          exact hattr

theorem compute_currHp (role : Role) (value : Int32) (h : ¬ Computed.hp.Feeds attr) :
    (role.compute attr value).attributes .currHp = role.attributes .currHp := by
  unfold Role.compute
  split
  case h_13 => exact absurd (.inl rfl) h
  case h_14 => exact absurd (.inr rfl) h
  case h_15 => rfl
  all_goals exact setAttributes_of_ne _ _ (by decide)

/-- Changes of plain attributes leave the current hit points. -/
theorem foldl_change_currHp (role : Role) {chs : List (RoleAttrType × Int32)}
    (h : ∀ ch ∈ chs, ch.1.IsPlain) :
    (chs.foldl Role.change role).attributes .currHp = role.attributes .currHp := by
  induction chs generalizing role with
  | nil => rfl
  | cons ch chs ih =>
      obtain ⟨hfree, hfeeds⟩ := h ch List.mem_cons_self
      have hstep : (role.change ch).attributes .currHp = role.attributes .currHp :=
        (setAttributes_of_ne _ _ (ne_of_isFree hfree rfl).symm).trans (compute_currHp role _ hfeeds)
      rw [List.foldl_cons, ih _ fun c hc => h c (List.mem_cons_of_mem _ hc), hstep]

/-- Free changes forget the drift of what they compute again, and leave the others. -/
theorem foldl_driftAfter_isFree (c : Computed) {chs : List (RoleAttrType × Int32)}
    (h : ∀ ch ∈ chs, ch.1.isFree = true) (d : Int32) :
    (c.Renewed chs → chs.foldl c.driftAfter d = 0) ∧
      (¬ c.Renewed chs → chs.foldl c.driftAfter d = d) :=
  foldl_driftAfter_others (fun ch hch => ne_of_isFree (h ch hch) c.isFree_attr) d

theorem renewed_perm (c : Computed) {chs chs' : List (RoleAttrType × Int32)} (h : chs.Perm chs') :
    c.Renewed chs ↔ c.Renewed chs' := by
  unfold Computed.Renewed
  exact exists_congr fun ch => and_congr_left fun _ => h.mem_iff

/-- **Plain changes in another order** leave the same attributes. -/
theorem foldl_change_perm (role : Role) {chs chs' : List (RoleAttrType × Int32)}
    (hperm : chs.Perm chs') (hplain : ∀ ch ∈ chs, ch.1.IsPlain) :
    (chs.foldl Role.change role).attributes = (chs'.foldl Role.change role).attributes := by
  have hplain' : ∀ ch ∈ chs', ch.1.IsPlain := fun ch hch => hplain ch (hperm.mem_iff.mpr hch)
  have hothers : ∀ x, x ≠ .currHp →
      (chs.foldl Role.change role).attributes x = (chs'.foldl Role.change role).attributes x := by
    -- the free attributes by what is added to them, the computed ones by their drift
    rw [attributes_eq_iff]
    constructor
    · intro x hx
      rw [foldl_change_isFree role _ hx, foldl_change_isFree role _ hx, total_perm hperm]
    · intro c
      have hd := foldl_driftAfter_isFree c (fun ch hch => (hplain ch hch).1)
        (drift role.attributes c)
      have hd' := foldl_driftAfter_isFree c (fun ch hch => (hplain' ch hch).1)
        (drift role.attributes c)
      rw [drift_foldl, drift_foldl]
      by_cases hr : c.Renewed chs
      · rw [hd.1 hr, hd'.1 ((renewed_perm c hperm).mp hr)]
      · rw [hd.2 hr, hd'.2 fun h => hr ((renewed_perm c hperm).mpr h)]
  funext x
  -- the current hit points follow no formula
  by_cases hx : x = .currHp
  · rw [hx, foldl_change_currHp role hplain, foldl_change_currHp role hplain']
  · exact hothers x hx

theorem allChanges_callsFor (res : SceneRes) (scene : SceneImp) {player : UInt64} {level : UInt32}
    (h : scene.playerLevel player = some level) (attrs : List RoleAttrType) :
    allChanges res player (callsFor scene value attrs)
      = attrs.flatMap fun attr => changes res level 3 attr value := by
  unfold allChanges callsFor
  rw [List.flatMap_map]
  exact List.flatMap_congr fun attr _ => RoleCall.changes_of_known res ⟨scene, attr, value⟩ h

theorem allChanges_of_unknown (res : SceneRes) (scene : SceneImp) {player : UInt64}
    (h : scene.playerLevel player = none) (attrs : List RoleAttrType) :
    allChanges res player (callsFor scene value attrs) = [] := by
  unfold allChanges callsFor
  rw [List.flatMap_map, List.flatMap_eq_nil_iff]
  intro attr _
  unfold RoleCall.changes
  rw [h]

/-- **Calls for plain attributes in another order** leave the same attributes. -/
theorem attributes_perm (res : SceneRes) (scene : SceneImp) (role : Role) (value : Int32)
    {attrs attrs' : List RoleAttrType} (hperm : attrs.Perm attrs')
    (hplain : ∀ attr ∈ attrs, attr.IsPlain) :
    (modifyEach res role (callsFor scene value attrs)).attributes
      = (modifyEach res role (callsFor scene value attrs')).attributes := by
  rw [modifyEach_eq, modifyEach_eq]
  -- for a player that is not found no call changes anything
  cases hlevel : scene.playerLevel role.player with
  | none => rw [allChanges_of_unknown res scene hlevel, allChanges_of_unknown res scene hlevel]
  | some level =>
      rw [allChanges_callsFor res scene hlevel, allChanges_callsFor res scene hlevel]
      apply foldl_change_perm role (hperm.flatMap_right _)
      intro ch hch
      obtain ⟨attr, hattr, hmem⟩ := List.mem_flatMap.mp hch
      exact changes_isPlain (hplain attr hattr) hmem

/-! ## §3. Composite schemes. -/

/-- Nothing is changed by 0, or for a player whose level is not found. -/
theorem modifyEach_of_idle (res : SceneRes) (scene : SceneImp) (role : Role)
    (h : value = 0 ∨ scene.playerLevel role.player = none) (attrs : List RoleAttrType) :
    modifyEach res role (callsFor scene value attrs) = role := by
  rw [modifyEach_eq]
  cases hlevel : scene.playerLevel role.player with
  | none => rw [allChanges_of_unknown res scene hlevel]; rfl
  | some level =>
      obtain rfl | h := h
      · have hnone : attrs.flatMap (fun attr => changes res level 3 attr 0) = [] :=
          List.flatMap_eq_nil_iff.mpr fun attr _ => if_pos rfl
        rw [allChanges_callsFor res scene hlevel, hnone]
        rfl
      · rw [hlevel] at h
        cases h

/-- But for 18, the parts call for the attributes of the composite. -/
theorem composite_attrs :
    ∀ c ∈ composites, (∀ attr ∈ schemeAttrs c.1, attr.IsPlain) ∧
      (c.1 ≠ 18 → (c.2.flatMap schemeAttrs).Perm (schemeAttrs c.1)) := by
  decide

theorem changes_of_no_calls (res : SceneRes) (level : UInt32) (depth : Nat)
    (h : attr.calls = 0) :
    changes res level (depth + 1) attr value = if value = 0 then [] else [(attr, value)] := by
  have hinner : innerCalls res level attr value = [] := by
    cases attr <;> first | rfl | cases h
  unfold changes
  rw [hinner]
  rfl

/-- What calls without calls inside make of a free attribute. -/
theorem callsFor_isFree (res : SceneRes) {scene : SceneImp} {role : Role} {level : UInt32}
    (hlevel : scene.playerLevel role.player = some level) (value : Int32)
    {attrs : List RoleAttrType} (hattrs : ∀ attr ∈ attrs, attr.calls = 0) (ha : a.isFree = true) :
    (modifyEach res role (callsFor scene value attrs)).attributes a
      = role.attributes a + (attrs.map fun attr => if attr = a then value else 0).sum := by
  rw [modifyEach_eq, allChanges_callsFor res scene hlevel, foldl_change_isFree role _ ha]
  congr 1
  -- each call adds its amount to its own attribute
  induction attrs with
  | nil => rfl
  | cons attr attrs ih =>
      have hone : total (changes res level 3 attr value) a = if attr = a then value else 0 := by
        rw [changes_of_no_calls res level 2 (hattrs attr List.mem_cons_self)]
        by_cases hvalue : value = 0
        · rw [if_pos hvalue, hvalue, ite_self]
          rfl
        · rw [if_neg hvalue]
          exact Int32.add_zero _
      rw [List.flatMap_cons, total_append, hone, ih fun x hx => hattrs x (List.mem_cons_of_mem _ hx),
        List.map_cons, List.sum_cons]

/-- Scheme 18 changes the base of the agility defence, and none of its parts does. -/
theorem defence_scheme_ne (res : SceneRes) {scene : SceneImp} {role : Role} {level : UInt32}
    (hlevel : scene.playerLevel role.player = some level) (hvalue : value ≠ 0)
    {order : List Int32} (horder : order.Perm [8, 10, 12]) :
    (modifyBySchemes res scene role order value).attributes .agiDefBase
      ≠ (modifyPlayerAttrBySchemeId res scene role 18 value).attributes .agiDefBase := by
  have hperm : (order.flatMap schemeAttrs).Perm [.strDefBase, .intDefBase, .intDefBase] :=
    horder.flatMap_right schemeAttrs
  have hplain : ∀ attr ∈ order.flatMap schemeAttrs, attr.IsPlain := by
    intro attr hattr
    have hall : ∀ x ∈ [RoleAttrType.strDefBase, .intDefBase, .intDefBase], x.IsPlain := by decide
    exact hall attr (hperm.mem_iff.mp hattr)
  rw [bySchemes_eq, bySchemeId_eq, attributes_perm res scene role value hperm hplain,
    callsFor_isFree res hlevel value (by decide) rfl, callsFor_isFree res hlevel value (by decide) rfl]
  intro heq
  have hsum : ([RoleAttrType.strDefBase, .intDefBase, .intDefBase].map fun attr =>
      if attr = .agiDefBase then value else 0).sum = 0 := rfl
  have hsum' : ((schemeAttrs 18).map fun attr =>
      if attr = RoleAttrType.agiDefBase then value else 0).sum = 0 + (value + (0 + 0)) := rfl
  rw [hsum, hsum'] at heq
  exact hvalue (by grind)

/-- **A composite scheme is its parts**, one after the other in any order, but for scheme 18: it
    changes the agility defence, and its part 10 the intelligence defence. -/
theorem composite_iff (res : SceneRes) (scene : SceneImp) (role : Role) {id : Int32}
    {parts order : List Int32} (hid : (id, parts) ∈ composites) (horder : order.Perm parts)
    (value : Int32) :
    (modifyBySchemes res scene role order value).attributes
        = (modifyPlayerAttrBySchemeId res scene role id value).attributes ↔
      id ≠ 18 ∨ value = 0 ∨ scene.playerLevel role.player = none := by
  by_cases hidle : value = 0 ∨ scene.playerLevel role.player = none
  · refine iff_of_true ?_ (.inr hidle)
    rw [bySchemes_eq, bySchemeId_eq, modifyEach_of_idle res scene role hidle,
      modifyEach_of_idle res scene role hidle]
  · obtain ⟨hvalue, hlevel⟩ := not_or.mp hidle
    by_cases h18 : id = 18
    · -- scheme 18 is none of the others
      subst h18
      obtain rfl : parts = [8, 10, 12] := by
        have hparts : ∀ c ∈ composites, c.1 = 18 → c.2 = [8, 10, 12] := by decide
        exact hparts _ hid rfl
      obtain ⟨level, hlevel⟩ := Option.ne_none_iff_exists'.mp hlevel
      refine iff_of_false ?_ ?_
      · intro heq
        exact defence_scheme_ne res hlevel hvalue horder (congrFun heq _)
      · rintro (h | h)
        · exact h rfl
        · exact hidle h
    · obtain ⟨hplain, hperm⟩ := composite_attrs _ hid
      refine iff_of_true ?_ (.inl h18)
      have hall : (order.flatMap schemeAttrs).Perm (schemeAttrs id) :=
        (horder.flatMap_right schemeAttrs).trans (hperm h18)
      rw [bySchemes_eq, bySchemeId_eq]
      exact attributes_perm res scene role value hall fun attr hattr =>
        hplain attr (hall.mem_iff.mp hattr)

/-- The attack scheme, with its parts from the last to the first. -/
theorem attack_scheme_parts :
    (modifyBySchemes smallRes.toSceneRes (sceneAt 1) firstRole [11, 9, 7] 5).attributes
      = (modifyPlayerAttrBySchemeId smallRes.toSceneRes (sceneAt 1) firstRole 17 5).attributes := by
  have hid : (17, [7, 9, 11]) ∈ composites := by decide
  exact (composite_iff smallRes.toSceneRes (sceneAt 1) firstRole hid (by decide) 5).mpr
    (.inl (by decide))

/-- **One point by scheme 18**, and by its parts: the agility defence gets nothing of the parts, and
    the intelligence defence gets two. -/
theorem defence_scheme_not_parts :
    let parts := (modifyBySchemes smallRes.toSceneRes (sceneAt 1) firstRole [8, 10, 12] 1).attributes
    let whole := (modifyPlayerAttrBySchemeId smallRes.toSceneRes (sceneAt 1) firstRole 18 1).attributes
    parts .agiDefBase = 0 ∧ whole .agiDefBase = 1 ∧ parts .intDefBase = 2 ∧
      whole .intDefBase = 1 ∧ parts ≠ whole := by
  refine ⟨by decide +kernel, by decide +kernel, by decide +kernel, by decide +kernel, ?_⟩
  intro heq
  have hagi := congrFun heq .agiDefBase
  revert hagi
  decide +kernel

end Steppingstone.Level
