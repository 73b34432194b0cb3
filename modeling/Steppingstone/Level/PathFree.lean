/-
  Steppingstone.Level.PathFree — the attributes of a role depend on its level, not on how it got
  there.

  Apart from the seven attributes that are computed from a base and a percentage, a change of an
  attribute adds amounts that do not depend on the role; and the amounts of the eight attributes
  that grow are linear in the level.  So what `levelUpgrade` adds is the difference of two
  `initRole`s.  The computed attributes follow, because every change keeps them computed.
-/
import Mathlib.Tactic.Ring
import Steppingstone.Level.Model
import Steppingstone.Lib.Words
import Steppingstone.Lib.Lookup

namespace Steppingstone.Level

/-! ## §1. Computed and free attributes. -/

/-- The attributes that are computed. -/
inductive Computed
  | hp | strAttack | agiAttack | intAttack | strDefense | agiDefense | intDefense

/-- The attribute that is computed. -/
def Computed.attr : Computed → RoleAttrType
  | .hp => .hp
  | .strAttack => .strAttack
  | .agiAttack => .agiAttack
  | .intAttack => .intAttack
  | .strDefense => .strDefense
  | .agiDefense => .agiDefense
  | .intDefense => .intDefense

/-- The base it is computed from. -/
def Computed.base : Computed → RoleAttrType
  | .hp => .hpBase
  | .strAttack => .strAttBase
  | .agiAttack => .agiAttBase
  | .intAttack => .intAttBase
  | .strDefense => .strDefBase
  | .agiDefense => .agiDefBase
  | .intDefense => .intDefBase

/-- The rank it is computed with. -/
def Computed.percent : Computed → RoleAttrType
  | .hp => .hpPercent
  | .strAttack => .strAttPercent
  | .agiAttack => .agiAttPercent
  | .intAttack => .intAttPercent
  | .strDefense => .strDefPercent
  | .agiDefense => .agiDefPercent
  | .intDefense => .intDefPercent

/-- An attribute that is neither computed nor the current hit points, which follow `hp`. -/
def RoleAttrType.isFree : RoleAttrType → Bool
  | .hp | .currHp | .strAttack | .agiAttack | .intAttack | .strDefense | .agiDefense
  | .intDefense => false
  | _ => true

/-- A rank, whose rate depends on the player's level. -/
def RoleAttrType.isRank : RoleAttrType → Bool
  | .criticalRank | .criticalMultipleRank | .blockRank | .blockDefenceMultipleRank
  | .strikeBackRank | .hitRank | .dodgeRank | .multiHitRank | .unionHitRank | .multiHitAddiRank
  | .unionHitAddiRank | .uncriticalRank | .unblockRank => true
  | _ => false

variable {attr a : RoleAttrType} {value : Int32}

theorem Computed.attr_injective {c c' : Computed} (h : c.attr = c'.attr) : c = c' := by
  cases c <;> cases c' <;> first | rfl | cases h

theorem Computed.isFree_attr (c : Computed) : c.attr.isFree = false := by
  cases c <;> rfl

theorem Computed.isFree_base (c : Computed) : c.base.isFree = true := by
  cases c <;> rfl

theorem Computed.isFree_percent (c : Computed) : c.percent.isFree = true := by
  cases c <;> rfl

/-- A free attribute is not a computed one. -/
theorem ne_of_isFree {b : RoleAttrType} (ha : a.isFree = true) (hb : b.isFree = false) :
    a ≠ b := by
  intro he
  rw [he, hb] at ha
  cases ha

/-- An attribute is free, computed, or the current hit points. -/
theorem isFree_or_computed (a : RoleAttrType) :
    a.isFree = true ∨ (∃ c : Computed, a = c.attr) ∨ a = .currHp := by
  by_cases hfree : a.isFree = true
  · exact Or.inl hfree
  · right
    unfold RoleAttrType.isFree at hfree
    split at hfree
    · exact Or.inl ⟨.hp, rfl⟩
    · exact Or.inr rfl
    · exact Or.inl ⟨.strAttack, rfl⟩
    · exact Or.inl ⟨.agiAttack, rfl⟩
    · exact Or.inl ⟨.intAttack, rfl⟩
    · exact Or.inl ⟨.strDefense, rfl⟩
    · exact Or.inl ⟨.agiDefense, rfl⟩
    · exact Or.inl ⟨.intDefense, rfl⟩
    · exact absurd rfl hfree

/-! ## §2. What a change makes of the attributes. -/

theorem setAttributes_of_ne (role : Role) (value : Int32) (h : a ≠ attr) :
    (role.setAttributes attr value).attributes a = role.attributes a :=
  Function.update_of_ne h ..

theorem setAttributes_self (role : Role) (attr : RoleAttrType) (value : Int32) :
    (role.setAttributes attr value).attributes attr = value :=
  Function.update_self ..

/-- The switch computes no free attribute. -/
theorem compute_of_isFree (role : Role) (attr : RoleAttrType) (value : Int32)
    (ha : a.isFree = true) : (role.compute attr value).attributes a = role.attributes a := by
  unfold Role.compute
  split
  case h_13 | h_14 =>
    simp only
    rw [setAttributes_of_ne _ _ (ne_of_isFree ha rfl), setAttributes_of_ne _ _ (ne_of_isFree ha rfl)]
  case h_15 => rfl
  all_goals exact setAttributes_of_ne _ _ (ne_of_isFree ha rfl)

/-- A new base is scaled by the rank. -/
theorem compute_base (role : Role) (c : Computed) (value : Int32) :
    (role.compute c.base value).attributes c.attr = scaled value (role.attributes c.percent) := by
  cases c <;> rfl

/-- A new rank scales the base. -/
theorem compute_percent (role : Role) (c : Computed) (value : Int32) :
    (role.compute c.percent value).attributes c.attr = scaled (role.attributes c.base) value := by
  cases c <;> rfl

/-- Another attribute changes nothing here. -/
theorem compute_of_ne (role : Role) {c : Computed} (value : Int32) (hbase : attr ≠ c.base)
    (hpercent : attr ≠ c.percent) :
    (role.compute attr value).attributes c.attr = role.attributes c.attr := by
  -- what the switch computes is another attribute
  have hother : ∀ (c' : Computed) (role : Role) (value : Int32), c ≠ c' →
      (role.setAttributes c'.attr value).attributes c.attr = role.attributes c.attr :=
    fun c' role value hne => setAttributes_of_ne role value fun he => hne (Computed.attr_injective he)
  have hcurr : ∀ (role : Role) (value : Int32),
      (role.setAttributes .currHp value).attributes c.attr = role.attributes c.attr :=
    fun role value => setAttributes_of_ne role value fun he => by cases c <;> cases he
  unfold Role.compute
  split
  case h_13 => exact (hcurr ..).trans (hother .hp _ _ fun he => hbase (he ▸ rfl))
  case h_14 => exact (hcurr ..).trans (hother .hp _ _ fun he => hpercent (he ▸ rfl))
  case h_15 => rfl
  case h_1 => exact hother .strAttack _ _ fun he => hbase (he ▸ rfl)
  case h_2 => exact hother .strAttack _ _ fun he => hpercent (he ▸ rfl)
  case h_3 => exact hother .strDefense _ _ fun he => hbase (he ▸ rfl)
  case h_4 => exact hother .strDefense _ _ fun he => hpercent (he ▸ rfl)
  case h_5 => exact hother .agiAttack _ _ fun he => hbase (he ▸ rfl)
  case h_6 => exact hother .agiAttack _ _ fun he => hpercent (he ▸ rfl)
  case h_7 => exact hother .agiDefense _ _ fun he => hbase (he ▸ rfl)
  case h_8 => exact hother .agiDefense _ _ fun he => hpercent (he ▸ rfl)
  case h_9 => exact hother .intAttack _ _ fun he => hbase (he ▸ rfl)
  case h_10 => exact hother .intAttack _ _ fun he => hpercent (he ▸ rfl)
  case h_11 => exact hother .intDefense _ _ fun he => hbase (he ▸ rfl)
  case h_12 => exact hother .intDefense _ _ fun he => hpercent (he ▸ rfl)

/-- A call changes free attributes only, and no rank. -/
theorem innerCalls_isFree {res : SceneRes} {level : UInt32} {call : RoleAttrType × Int32}
    (h : call ∈ innerCalls res level attr value) :
    call.1.isFree = true ∧ call.1.isRank = false := by
  unfold innerCalls at h
  split at h
  case h_25 => cases h
  case h_1 | h_2 | h_3 =>
    obtain rfl | rfl | rfl : _ ∨ _ ∨ _ := by simpa using h
    all_goals exact ⟨rfl, rfl⟩
  all_goals
    obtain rfl := List.mem_singleton.mp h
    exact ⟨rfl, rfl⟩

/-- Only a rank looks at the player's level. -/
theorem innerCalls_level (res : SceneRes) (level level' : UInt32) (value : Int32)
    (h : attr.isRank = false) :
    innerCalls res level attr value = innerCalls res level' attr value := by
  unfold innerCalls
  split <;> first | rfl | cases h

/-- A free attribute after a change: the one that is changed, or what the calls inside make of
    it. -/
theorem modifyWithin_isFree (res : SceneRes) (level : UInt32) (depth : Nat) (role : Role)
    (hvalue : value ≠ 0) (ha : a.isFree = true) :
    (modifyWithin res (some level) (depth + 1) role attr value).attributes a =
      if a = attr then role.attributes attr + value
      else ((innerCalls res level attr value).foldl
        (fun role call => modifyWithin res (some level) depth role call.1 call.2)
        role).attributes a := by
  rw [modifyWithin_succ, if_neg hvalue]
  dsimp only
  split
  · rename_i he
    rw [he]
    exact setAttributes_self ..
  · rename_i hne
    exact (setAttributes_of_ne _ _ hne).trans (compute_of_isFree _ attr _ ha)

/-! ## §3. A change adds the same to every role. -/

/-- The free attributes of the second are those of the first and `d`. -/
def Shifted (d f f' : RoleAttrType → Int32) : Prop :=
  ∀ a, a.isFree = true → f' a = f a + d a

/-- Calls that shift attributes shift them one after another. -/
theorem foldl_shifted {d : RoleAttrType → Int32}
    {change change' : Role → RoleAttrType → Int32 → Role}
    (hchange : ∀ attr value role role', attr.isRank = false →
      Shifted d role.attributes role'.attributes →
      Shifted d (change role attr value).attributes (change' role' attr value).attributes)
    {calls : List (RoleAttrType × Int32)} (hrank : ∀ call ∈ calls, call.1.isRank = false)
    {role role' : Role} (h : Shifted d role.attributes role'.attributes) :
    Shifted d (calls.foldl (fun role call => change role call.1 call.2) role).attributes
      (calls.foldl (fun role call => change' role call.1 call.2) role').attributes := by
  induction calls generalizing role role' with
  | nil => exact h
  | cons call calls ih =>
      rw [List.foldl_cons, List.foldl_cons]
      exact ih (fun c hc => hrank c (List.mem_cons_of_mem _ hc))
        (hchange call.1 call.2 role role' (hrank call List.mem_cons_self) h)

/-- **What a change adds does not depend on the role**, nor on the level of its player. -/
theorem modifyWithin_shifted (res : SceneRes) (level level' : UInt32) (depth : Nat)
    {d : RoleAttrType → Int32} (attr : RoleAttrType) (value : Int32) (role role' : Role)
    (hrank : attr.isRank = false) (h : Shifted d role.attributes role'.attributes) :
    Shifted d (modifyWithin res (some level) depth role attr value).attributes
      (modifyWithin res (some level') depth role' attr value).attributes := by
  induction depth generalizing attr value role role' with
  | zero => exact h
  | succ depth ih =>
      by_cases hvalue : value = 0
      · rw [modifyWithin_succ, modifyWithin_succ, if_pos hvalue, if_pos hvalue]
        exact h
      intro a ha
      rw [modifyWithin_isFree res level depth role hvalue ha,
        modifyWithin_isFree res level' depth role' hvalue ha]
      by_cases he : a = attr
      · rw [if_pos he, if_pos he, ← he, h a ha]
        grind
      · rw [if_neg he, if_neg he, innerCalls_level res level' level value hrank]
        exact foldl_shifted ih (fun call hcall => (innerCalls_isFree hcall).2) h a ha

/-- What a change of an attribute that grows with the level adds. -/
def bump (attr : RoleAttrType) (value : Int32) (a : RoleAttrType) : Int32 :=
  if a = attr ∨ (attr = .initiativeLevel ∧ a = .initiativeAll) then value else 0

/-- The attributes that grow with the level. -/
def growing : List RoleAttrType :=
  [.hpBase, .strAttBase, .strDefBase, .agiAttBase, .agiDefBase, .intAttBase, .intDefBase,
    .initiativeLevel]

theorem bump_add (attr : RoleAttrType) (v w : Int32) (a : RoleAttrType) :
    bump attr (v + w) a = bump attr v a + bump attr w a := by
  unfold bump
  split
  · rfl
  · exact (Int32.add_zero 0).symm

/-- A change of an attribute that calls nothing. -/
theorem modifyWithin_leaf (res : SceneRes) (level : UInt32) (depth : Nat) (role : Role)
    (value : Int32) (hcalls : innerCalls res level attr value = []) (ha : a.isFree = true) :
    (modifyWithin res (some level) (depth + 1) role attr value).attributes a =
      role.attributes a + if a = attr then value else 0 := by
  by_cases hvalue : value = 0
  · rw [modifyWithin_succ, if_pos hvalue, hvalue, ite_self, Int32.add_zero]
  · rw [modifyWithin_isFree res level depth role hvalue ha, hcalls, List.foldl_nil]
    split
    · rename_i he
      rw [he]
    · rw [Int32.add_zero]

/-- A growing attribute grows, and with it what depends on it. -/
theorem modifyWithin_growing (res : SceneRes) (level : UInt32) (role : Role)
    (hattr : attr ∈ growing) (value : Int32) (ha : a.isFree = true) :
    (modifyWithin res (some level) 3 role attr value).attributes a =
      role.attributes a + bump attr value a := by
  by_cases hinit : attr = .initiativeLevel
  · subst hinit
    by_cases hvalue : value = 0
    · rw [modifyWithin_succ res _ 2, if_pos hvalue, hvalue, bump, ite_self, Int32.add_zero]
    -- the total first, then the attribute itself
    rw [modifyWithin_isFree res level 2 role hvalue ha]
    unfold bump
    split
    · rename_i he
      rw [if_pos (Or.inl he), he]
    · rename_i hne
      have hall : (modifyWithin res (some level) 2 role .initiativeAll value).attributes a
          = role.attributes a + if a = .initiativeAll then value else 0 :=
        modifyWithin_leaf res level 1 role value rfl ha
      refine hall.trans ?_
      by_cases he : a = .initiativeAll
      · rw [if_pos he, if_pos (Or.inr ⟨rfl, he⟩)]
      · rw [if_neg he, if_neg (fun h => h.elim hne fun h => he h.2)]
  · have hcalls : innerCalls res level attr value = [] := by
      simp only [growing, List.mem_cons, List.not_mem_nil, or_false] at hattr
      obtain rfl | rfl | rfl | rfl | rfl | rfl | rfl | rfl := hattr
      case inr.inr.inr.inr.inr.inr.inr => exact absurd rfl hinit
      all_goals rfl
    rw [modifyWithin_leaf res level 2 role value hcalls ha, bump]
    simp only [hinit, false_and, or_false]

/-- What a list of such changes adds. -/
def bumps (calls : List (RoleAttrType × Int32)) (a : RoleAttrType) : Int32 :=
  (calls.map fun call => bump call.1 call.2 a).sum

theorem modifyWithin_all_growing (res : SceneRes) (level : UInt32)
    {calls : List (RoleAttrType × Int32)} (hcalls : ∀ call ∈ calls, call.1 ∈ growing)
    (role : Role) :
    Shifted (bumps calls) role.attributes
      (calls.foldl (fun role call => modifyWithin res (some level) 3 role call.1 call.2)
        role).attributes := by
  induction calls generalizing role with
  | nil => exact fun a _ => (Int32.add_zero _).symm
  | cons call calls ih =>
      intro a ha
      have hrest := ih (fun c hc => hcalls c (List.mem_cons_of_mem _ hc))
        (modifyWithin res (some level) 3 role call.1 call.2) a ha
      rw [modifyWithin_growing res level role (hcalls call List.mem_cons_self) _ ha] at hrest
      rw [List.foldl_cons, hrest]
      show _ = role.attributes a + (bump call.1 call.2 a + bumps calls a)
      exact Int32.add_assoc ..

/-! ## §4. A change keeps the computed attributes computed. -/

/-- Every computed attribute is that of its base and percentage. -/
def Scaled (f : RoleAttrType → Int32) : Prop :=
  ∀ c : Computed, f c.attr = scaled (f c.base) (f c.percent)

theorem scaled_zero : Scaled fun _ => 0 := by
  intro c
  show (0 : Int32) = scaled 0 0
  decide +kernel

/-- Changing a free attribute keeps the others computed. -/
theorem set_compute_scaled {role : Role} (h : Scaled role.attributes) (hattr : attr.isFree = true)
    (value : Int32) : Scaled ((role.compute attr value).setAttributes attr value).attributes := by
  intro c
  have hne : c.attr ≠ attr := (ne_of_isFree hattr c.isFree_attr).symm
  rw [setAttributes_of_ne _ _ hne]
  by_cases hbase : attr = c.base
  · have hpercent : c.percent ≠ attr := by
      rw [hbase]
      cases c <;> exact fun he => by cases he
    rw [setAttributes_of_ne _ _ hpercent, compute_of_isFree _ _ _ c.isFree_percent, hbase,
      setAttributes_self]
    exact compute_base role c value
  · by_cases hpercent : attr = c.percent
    · rw [setAttributes_of_ne _ _ (Ne.symm hbase), compute_of_isFree _ _ _ c.isFree_base, hpercent,
        setAttributes_self]
      exact compute_percent role c value
    · rw [setAttributes_of_ne _ _ (Ne.symm hbase), setAttributes_of_ne _ _ (Ne.symm hpercent),
        compute_of_isFree _ _ _ c.isFree_base, compute_of_isFree _ _ _ c.isFree_percent,
        compute_of_ne _ _ hbase hpercent]
      exact h c

/-- So does a list of changes. -/
theorem foldl_scaled {change : Role → RoleAttrType → Int32 → Role}
    (hchange : ∀ attr value role, attr.isFree = true → Scaled role.attributes →
      Scaled (change role attr value).attributes)
    {calls : List (RoleAttrType × Int32)} (hfree : ∀ call ∈ calls, call.1.isFree = true)
    {role : Role} (h : Scaled role.attributes) :
    Scaled (calls.foldl (fun role call => change role call.1 call.2) role).attributes := by
  induction calls generalizing role with
  | nil => exact h
  | cons call calls ih =>
      rw [List.foldl_cons]
      exact ih (fun c hc => hfree c (List.mem_cons_of_mem _ hc))
        (hchange call.1 call.2 role (hfree call List.mem_cons_self) h)

/-- **The computed attributes stay computed**, whatever free attribute is changed. -/
theorem modifyWithin_scaled (res : SceneRes) (playerLevel : Option UInt32) (depth : Nat)
    (attr : RoleAttrType) (value : Int32) (role : Role) (hattr : attr.isFree = true)
    (h : Scaled role.attributes) :
    Scaled (modifyWithin res playerLevel depth role attr value).attributes := by
  induction depth generalizing attr value role with
  | zero => exact h
  | succ depth ih =>
      rw [modifyWithin_succ]
      split
      · exact h
      · split
        · exact h
        · rename_i level
          exact set_compute_scaled
            (foldl_scaled ih (fun call hcall => (innerCalls_isFree hcall).1) h) hattr _

/-! ## §5. The attributes at a level. -/

variable {res : Resources} {r : RoleResInfo} {scene : SceneImp}

/-- For a known player the list of changes is one for the level that is found. -/
theorem modifyAll_eq (res : SceneRes) (role : Role) {level : UInt32}
    (hknown : scene.playerLevel role.player = some level) (calls : List (RoleAttrType × Int32)) :
    modifyAll res scene role calls
      = calls.foldl (fun role call => modifyWithin res (some level) 3 role call.1 call.2) role := by
  induction calls generalizing role with
  | nil => rfl
  | cons call calls ih =>
      have hstep : modifyRoleAttr res scene role call.1 call.2
          = modifyWithin res (some level) 3 role call.1 call.2 := by
        unfold modifyRoleAttr
        rw [hknown]
      show modifyAll res scene (modifyRoleAttr res scene role call.1 call.2) calls = _
      rw [hstep, List.foldl_cons]
      exact ih _ ((congrArg scene.playerLevel (modifyWithin_player ..)).trans hknown)

/-- The changes of `levelUpgrade` by a number of levels. -/
def levelCalls (res : Resources) (r : RoleResInfo) (n : Int32) : List (RoleAttrType × Int32) :=
  [(.hpBase, n * r.hpGrowth), (.strAttBase, n * r.phyAttGrowth), (.strDefBase, n * r.phyDefGrowth),
    (.agiAttBase, n * r.agiAttGrowth), (.agiDefBase, n * r.agiDefGrowth),
    (.intAttBase, n * r.intAttGrowth), (.intDefBase, n * r.intDefGrowth),
    (.initiativeLevel, n * res.system.levelFirstStrike.toInt32)]

/-- A rise in level is a list of changes. -/
theorem levelUpgrade_eq {role : Role} (hr : res.role role.roleId = some r)
    (fromLevel updateLevel : Int32) :
    levelUpgrade res scene role fromLevel updateLevel
      = modifyAll res.toSceneRes scene role (levelCalls res r (updateLevel - fromLevel)) := by
  unfold levelUpgrade
  rw [hr]
  rfl

/-- **Reducing a level** is upgrading to a lower one. -/
theorem levelReduce_eq (res : Resources) (scene : SceneImp) (role : Role)
    (fromLevel reduceLevel : Int32) :
    levelReduce res scene role fromLevel reduceLevel
      = levelUpgrade res scene role fromLevel reduceLevel := by
  have hzero : ∀ g : Int32, 0 - (fromLevel - reduceLevel) * g = (reduceLevel - fromLevel) * g := by
    intro g
    grind
  have hneg : ∀ g : Int32, -(fromLevel - reduceLevel) * g = (reduceLevel - fromLevel) * g := by
    intro g
    grind
  unfold levelReduce levelUpgrade
  simp only [hzero, hneg]

/-- Each of them is of a growing attribute. -/
theorem levelCalls_growing (res : Resources) (r : RoleResInfo) (n : Int32) :
    ∀ call ∈ levelCalls res r n, call.1 ∈ growing := by
  intro call hcall
  simp only [levelCalls, List.mem_cons, List.not_mem_nil, or_false] at hcall
  obtain rfl | rfl | rfl | rfl | rfl | rfl | rfl | rfl := hcall <;> simp [growing]

/-- The calls of `initRole` before those that do not depend on the level. -/
def initGrowth (res : Resources) (level : UInt32) (r : RoleResInfo) :
    List (RoleAttrType × Int32) := (initCalls res level r).take 7

/-- The calls of `initRole` that do not depend on the level. -/
def initFixed (res : Resources) (r : RoleResInfo) : List (RoleAttrType × Int32) :=
  ((initCalls res 0 r).drop 7).take 31

theorem initCalls_eq (res : Resources) (level : UInt32) (r : RoleResInfo) :
    initCalls res level r = initGrowth res level r ++ (initFixed res r ++
      [(.initiativeLevel, (level * res.system.levelFirstStrike).toInt32)]) := rfl

/-- So are the first ones of a new role. -/
theorem initGrowth_growing (res : Resources) (level : UInt32) (r : RoleResInfo) :
    ∀ call ∈ initGrowth res level r, call.1 ∈ growing := by
  intro call hcall
  simp only [initGrowth, initCalls, List.take_succ_cons, List.take_zero, List.mem_cons,
    List.not_mem_nil, or_false] at hcall
  obtain rfl | rfl | rfl | rfl | rfl | rfl | rfl := hcall <;> simp [growing]

/-- The fixed ones change no rank. -/
theorem initFixed_isRank (res : Resources) (r : RoleResInfo) :
    ∀ call ∈ initFixed res r, call.1.isRank = false := by
  have hall : (initFixed res r).all fun call => !call.1.isRank := rfl
  intro call hcall
  exact Bool.not_eq_true' _ ▸ List.all_eq_true.mp hall call hcall

/-- Every change of a new role is of a free attribute. -/
theorem initCalls_isFree (res : Resources) (level : UInt32) (r : RoleResInfo) :
    ∀ call ∈ initCalls res level r, call.1.isFree = true := by
  have hall : (initCalls res level r).all fun call => call.1.isFree := rfl
  exact List.all_eq_true.mp hall

/-- The calls of `initRole` on a role of a player whose level is found. -/
def runInit (res : Resources) (playerLevel level : UInt32) (r : RoleResInfo) (role : Role) : Role :=
  (initCalls res level r).foldl
    (fun role call => modifyWithin res.toSceneRes (some playerLevel) 3 role call.1 call.2) role

/-- What the growing attributes gain from one level to another, before the initiative. -/
theorem bumps_initGrowth (res : Resources) (r : RoleResInfo) (level level' : UInt32)
    (a : RoleAttrType) :
    bumps (initGrowth res level' r) a = bumps (initGrowth res level r) a
      + bumps ((levelCalls res r (level'.toInt32 - level.toInt32)).take 7) a := by
  have hgrowth : (level' - 1).toInt32
      = (level - 1).toInt32 + (level'.toInt32 - level.toInt32) := by
    rw [UInt32.toInt32_sub, UInt32.toInt32_sub]
    grind
  generalize level'.toInt32 - level.toInt32 = n at hgrowth ⊢
  have hterm : ∀ attr g, bump attr (g * (level' - 1).toInt32) a
      = bump attr (g * (level - 1).toInt32) a + bump attr (n * g) a := by
    intro attr g
    rw [hgrowth, ← bump_add]
    exact congrArg (bump attr · a) (by grind)
  have hhp : bump .hpBase (r.hp + r.hpGrowth * (level' - 1).toInt32) a
      = bump .hpBase (r.hp + r.hpGrowth * (level - 1).toInt32) a
        + bump .hpBase (n * r.hpGrowth) a := by
    rw [bump_add, hterm, bump_add]
    exact (Int32.add_assoc ..).symm
  simp only [bumps, initGrowth, initCalls, levelCalls, List.take_succ_cons, List.take_zero,
    List.map_cons, List.map_nil, List.sum_cons, List.sum_nil, hterm, hhp]
  grind

/-- What the initiative gains. -/
theorem bump_initiative (res : Resources) (level level' : UInt32) (a : RoleAttrType) :
    bump .initiativeLevel (level' * res.system.levelFirstStrike).toInt32 a
      = bump .initiativeLevel (level * res.system.levelFirstStrike).toInt32 a
        + bump .initiativeLevel
          ((level'.toInt32 - level.toInt32) * res.system.levelFirstStrike.toInt32) a := by
  rw [← bump_add, UInt32.toInt32_mul, UInt32.toInt32_mul]
  exact congrArg (bump .initiativeLevel · a) (by grind)

/-- **The difference of `initRole` at two levels** is what `levelUpgrade` adds. -/
theorem initRole_shifted (res : Resources) (r : RoleResInfo) {p p' level level' : UInt32}
    {role role' : Role} (h : role.attributes = fun _ => 0) (h' : role'.attributes = fun _ => 0) :
    Shifted (bumps (levelCalls res r (level'.toInt32 - level.toInt32)))
      (runInit res p level r role).attributes (runInit res p' level' r role').attributes := by
  intro a ha
  unfold runInit
  rw [initCalls_eq, initCalls_eq, List.foldl_append, List.foldl_append, List.foldl_append,
    List.foldl_append]
  -- the part that grows, from nothing
  have hgrow : Shifted (bumps ((levelCalls res r (level'.toInt32 - level.toInt32)).take 7))
      ((initGrowth res level r).foldl
        (fun role call => modifyWithin res.toSceneRes (some p) 3 role call.1 call.2)
        role).attributes
      ((initGrowth res level' r).foldl
        (fun role call => modifyWithin res.toSceneRes (some p') 3 role call.1 call.2)
        role').attributes := by
    intro b hb
    rw [modifyWithin_all_growing res.toSceneRes p (initGrowth_growing res level r) role b hb,
      modifyWithin_all_growing res.toSceneRes p' (initGrowth_growing res level' r) role' b hb,
      h, h', bumps_initGrowth res r level level' b]
    exact (Int32.add_assoc ..).symm
  -- the part that does not
  have hfixed := foldl_shifted (modifyWithin_shifted res.toSceneRes p p' 3)
    (initFixed_isRank res r) hgrow
  -- the initiative
  rw [List.foldl_cons, List.foldl_nil, List.foldl_cons, List.foldl_nil,
    modifyWithin_growing _ _ _ (by simp [growing]) _ ha,
    modifyWithin_growing _ _ _ (by simp [growing]) _ ha, hfixed a ha,
    bump_initiative res level level' a]
  simp only [bumps, levelCalls, List.take_succ_cons, List.take_zero, List.map_cons, List.map_nil,
    List.sum_cons, List.sum_nil]
  grind

/-- A role of level 1 before its attributes are computed. -/
def zeroRole : Role where
  player := 0
  roleId := 0
  level := 1
  exp := 0
  charAbility := 0
  attributes := fun _ => 0
  updateFightPower := 0
  inheritFrom := 0
  inheritTo := 0

/-- The attributes `initRole` computes for a level. -/
def initAttributes (res : Resources) (r : RoleResInfo) (level : UInt32) : RoleAttrType → Int32 :=
  (runInit res 1 level r zeroRole).attributes

/-- The attributes are those of a level. -/
structure AtLevel (res : Resources) (r : RoleResInfo) (level : UInt32)
    (f : RoleAttrType → Int32) : Prop where
  scaled : Scaled f
  free : ∀ a, a.isFree = true → f a = initAttributes res r level a

/-- A level has one strength. -/
theorem AtLevel.unique {level : UInt32} {f f' : RoleAttrType → Int32}
    (h : AtLevel res r level f) (h' : AtLevel res r level f') {a : RoleAttrType}
    (ha : a ≠ .currHp) : f a = f' a := by
  have hfree : ∀ b, b.isFree = true → f b = f' b := fun b hb =>
    (h.free b hb).trans (h'.free b hb).symm
  obtain hfa | ⟨c, rfl⟩ | hcurr := isFree_or_computed a
  · exact hfree a hfa
  · rw [h.scaled c, h'.scaled c, hfree _ c.isFree_base, hfree _ c.isFree_percent]
  · exact absurd hcurr ha

/-- A new role has the attributes of its level. -/
theorem initRole_atLevel (role : Role) (r : RoleResInfo)
    (hknown : (scene.playerLevel role.player).isSome) :
    AtLevel res r role.level (initRole res scene role r).attributes := by
  obtain ⟨p, hp⟩ := Option.isSome_iff_exists.mp hknown
  have hrun : modifyAll res.toSceneRes scene { role with attributes := fun _ => 0 }
      (initCalls res role.level r)
      = runInit res p role.level r { role with attributes := fun _ => 0 } := by
    unfold runInit
    exact modifyAll_eq res.toSceneRes { role with attributes := fun _ => 0 } hp _
  have hattributes : (initRole res scene role r).attributes
      = (runInit res p role.level r { role with attributes := fun _ => 0 }).attributes :=
    congrArg Role.attributes hrun
  rw [hattributes]
  constructor
  · exact foldl_scaled (modifyWithin_scaled res.toSceneRes (some p) 3)
      (initCalls_isFree res role.level r) scaled_zero
  · intro a ha
    have hshift : Shifted (bumps (levelCalls res r (role.level.toInt32 - role.level.toInt32)))
        (initAttributes res r role.level)
        (runInit res p role.level r { role with attributes := fun _ => 0 }).attributes :=
      initRole_shifted res r rfl rfl
    rw [hshift a ha, Int32.sub_self]
    have hzero : bumps (levelCalls res r 0) a = 0 := by
      have hbump : ∀ attr, bump attr 0 a = 0 := fun attr => ite_self _
      simp only [bumps, levelCalls, List.map_cons, List.map_nil, List.sum_cons, List.sum_nil,
        Int32.zero_mul, hbump, Int32.add_zero]
    rw [hzero]
    exact Int32.add_zero _

/-- **An upgrade makes the attributes of the new level.** -/
theorem levelUpgrade_level {role : Role} {level level' : UInt32}
    (h : AtLevel res r level role.attributes) (hr : res.role role.roleId = some r)
    (hknown : (scene.playerLevel role.player).isSome) {fromLevel updateLevel : Int32}
    (hdiff : updateLevel - fromLevel = level'.toInt32 - level.toInt32) :
    AtLevel res r level' (levelUpgrade res scene role fromLevel updateLevel).attributes := by
  obtain ⟨p, hp⟩ := Option.isSome_iff_exists.mp hknown
  rw [levelUpgrade_eq hr, modifyAll_eq _ _ hp, hdiff]
  constructor
  · refine foldl_scaled (modifyWithin_scaled res.toSceneRes (some p) 3) (fun call hcall => ?_)
      h.scaled
    have hgrowing := levelCalls_growing res r _ call hcall
    simp only [growing, List.mem_cons, List.not_mem_nil, or_false] at hgrowing
    obtain he | he | he | he | he | he | he | he := hgrowing <;> rw [he] <;> rfl
  · intro a ha
    rw [modifyWithin_all_growing _ p (levelCalls_growing res r _) role a ha, h.free a ha]
    exact (initRole_shifted res r rfl rfl a ha).symm

/-! ## §6. What a handler does to a role. -/

theorem modifyAll_rest (res : SceneRes) (scene : SceneImp) (role : Role)
    (calls : List (RoleAttrType × Int32)) :
    (modifyAll res scene role calls).rest = role.rest := by
  induction calls generalizing role with
  | nil => rfl
  | cons call calls ih => exact (ih _).trans (modifyWithin_rest ..)

theorem levelUpgrade_rest (res : Resources) (scene : SceneImp) (role : Role)
    (fromLevel updateLevel : Int32) :
    (levelUpgrade res scene role fromLevel updateLevel).rest = role.rest := by
  unfold levelUpgrade
  split
  · rfl
  · exact modifyAll_rest ..

theorem initRole_rest (res : Resources) (scene : SceneImp) (role : Role) (r : RoleResInfo) :
    (initRole res scene role r).rest = role.rest :=
  modifyAll_rest res.toSceneRes scene { role with attributes := fun _ => 0 }
    (initCalls res role.level r)

/-- The second is the first at some time later: attributes that are those of its level still are,
    if the player is found. -/
structure Follows (res : Resources) (scene : SceneImp) (role role' : Role) : Prop where
  player : role'.player = role.player
  roleId : role'.roleId = role.roleId
  atLevel : ∀ r, res.role role.roleId = some r → (scene.playerLevel role.player).isSome →
    AtLevel res r role.level role.attributes → AtLevel res r role'.level role'.attributes

theorem Follows.refl (res : Resources) (scene : SceneImp) (role : Role) :
    Follows res scene role role :=
  ⟨rfl, rfl, fun _ _ _ h => h⟩

/-- Other fields do not matter. -/
theorem Follows.congr {role role' role'' : Role} (h : Follows res scene role role')
    (hplayer : role''.player = role'.player) (hid : role''.roleId = role'.roleId)
    (hlevel : role''.level = role'.level) (hattributes : role''.attributes = role'.attributes) :
    Follows res scene role role'' := by
  refine ⟨hplayer.trans h.player, hid.trans h.roleId, fun r hr hknown hat => ?_⟩
  rw [hlevel, hattributes]
  exact h.atLevel r hr hknown hat

/-- A role whose level is changed with its attributes. -/
theorem follows_levelUpgrade (res : Resources) (scene : SceneImp) (role changed : Role)
    (hplayer : changed.player = role.player)
    (hid : changed.roleId = role.roleId) (hattributes : changed.attributes = role.attributes)
    {fromLevel updateLevel : Int32}
    (hdiff : updateLevel - fromLevel = changed.level.toInt32 - role.level.toInt32) :
    Follows res scene role (levelUpgrade res scene changed fromLevel updateLevel) := by
  obtain ⟨hplayer', hid', hlevel'⟩ :=
    eq_of_rest (levelUpgrade_rest res scene changed fromLevel updateLevel)
  refine ⟨hplayer'.trans hplayer, hid'.trans hid, fun r hr hknown hat => ?_⟩
  rw [hlevel']
  rw [← hattributes] at hat
  rw [← hid] at hr
  rw [← hplayer] at hknown
  exact levelUpgrade_level hat hr hknown hdiff

/-- `initRole` needs no attributes to start from. -/
theorem follows_initRole {role : Role} (hr : res.role role.roleId = some r) :
    Follows res scene role (initRole res scene role r) := by
  obtain ⟨hplayer, hid, hlevel⟩ := eq_of_rest (initRole_rest res scene role r)
  refine ⟨hplayer, hid, fun r' hr' hknown _ => ?_⟩
  obtain rfl : r = r' := Option.some.inj (hr.symm.trans hr')
  rw [hlevel]
  exact initRole_atLevel role r hknown

/-! ## §7. Experience does not skip a level. -/

/-- The level does not fall, and rises up to the cap only. -/
theorem calcUpdateLevel_level (res : Resources) (cap : Int32) (exp : UInt32) (level : Int32) :
    level.toInt ≤ (calcUpdateLevel res cap exp level).2.toInt ∧
      ((calcUpdateLevel res cap exp level).2 = level ∨
        (calcUpdateLevel res cap exp level).2.toInt ≤ cap.toInt) := by
  fun_induction calcUpdateLevel res cap exp level with
  | case1 => exact ⟨Int.le_refl _, Or.inl rfl⟩
  | case2 => exact ⟨Int.le_refl _, Or.inl rfl⟩
  | case3 exp level needed _ hcap _ ih =>
      have hnext := toInt_add_one hcap
      have hlt : level.toInt < cap.toInt := Int32.lt_iff_toInt_lt.mp (Int32.not_le.mp hcap)
      obtain ⟨hle, heq | hle'⟩ := ih
      · rw [heq] at hle ⊢
        exact ⟨by omega, Or.inr (by omega)⟩
      · exact ⟨by omega, Or.inr hle'⟩
  | case4 => exact ⟨Int.le_refl _, Or.inl rfl⟩

/-- **A level that experience does not raise, as `uint32`, it does not change**: below the cap the
    two orders agree. -/
theorem calcUpdateLevel_eq {cap : Int32} {level : UInt32} (exp : UInt32)
    (hcap : ¬ cap.toUInt32 ≤ level)
    (h : ¬ level < (calcUpdateLevel res cap exp level.toInt32).2.toUInt32) :
    (calcUpdateLevel res cap exp level.toInt32).2.toUInt32 = level := by
  obtain ⟨hle, heq | htop⟩ := calcUpdateLevel_level res cap exp level.toInt32
  · rw [heq]
    rfl
  · generalize (calcUpdateLevel res cap exp level.toInt32).2 = next at *
    have hnext : next.toUInt32.toInt32 = next := rfl
    have hc : cap.toUInt32.toInt32 = cap := rfl
    rw [← hnext, Words.toInt_toInt32, Words.toInt_toInt32] at hle
    rw [← hnext, ← hc, Words.toInt_toInt32, Words.toInt_toInt32] at htop
    rw [UInt32.le_iff_toNat_le] at hcap
    rw [UInt32.lt_iff_toNat_lt] at h
    have hlevel := level.toNat_lt
    have hcapLt := cap.toUInt32.toNat_lt
    have hnextLt := next.toUInt32.toNat_lt
    apply UInt32.toNat_inj.mp
    split at hle <;> split at htop <;> omega

/-! ## §8. What a handler does to the scene. -/

/-- The second state is the first after changes of levels. -/
structure Keeps (res : Resources) (s s' : State) : Prop where
  roles : ∀ g role', s'.roles g = some role' →
    ∃ role, s.roles g = some role ∧ Follows res s.scene role role'
  players : ∀ p player', s'.players p = some player' →
    ∃ player, s.players p = some player ∧ player'.roles = player.roles ∧
      player'.leaveTeamRoles = player.leaveTeamRoles
  online : ∀ p, (s.scene.onlinePlayer p).isSome → (s'.scene.onlinePlayer p).isSome
  known : ∀ p, (s.scene.playerLevel p).isSome → (s'.scene.playerLevel p).isSome

theorem Keeps.refl (res : Resources) (s : State) : Keeps res s s :=
  ⟨fun _ role h => ⟨role, h, Follows.refl res s.scene role⟩, fun _ player h => ⟨player, h, rfl, rfl⟩,
    fun _ => id, fun _ => id⟩

theorem Keeps.trans {s s' s'' : State} (h : Keeps res s s') (h' : Keeps res s' s'') :
    Keeps res s s'' where
  roles g role'' hrole'' := by
    obtain ⟨role', hrole', hf'⟩ := h'.roles g role'' hrole''
    obtain ⟨role, hrole, hf⟩ := h.roles g role' hrole'
    refine ⟨role, hrole, hf'.player.trans hf.player, hf'.roleId.trans hf.roleId,
      fun r hr hknown hat => ?_⟩
    have hknown' : (s'.scene.playerLevel role'.player).isSome := by
      rw [hf.player]
      exact h.known _ hknown
    exact hf'.atLevel r (hf.roleId ▸ hr) hknown' (hf.atLevel r hr hknown hat)
  players p player'' hp := by
    obtain ⟨player', hp', hroles', hleave'⟩ := h'.players p player'' hp
    obtain ⟨player, hp, hroles, hleave⟩ := h.players p player' hp'
    exact ⟨player, hp, hroles'.trans hroles, hleave'.trans hleave⟩
  online p hp := h'.online p (h.online p hp)
  known p hp := h'.known p (h.known p hp)

/-- A role that follows a change of levels. -/
theorem keeps_setRole {s : State} {g : UInt64} {role role' : Role} (hrole : s.roles g = some role)
    (hfollows : Follows res s.scene role role') : Keeps res s (s.setRole g role') where
  roles k role'' h := by
    obtain ⟨rfl, rfl⟩ | ⟨-, h⟩ := Lookup.update_some.mp h
    · exact ⟨role, hrole, hfollows⟩
    · exact ⟨role'', h, Follows.refl res s.scene role''⟩
  players _ player h := ⟨player, h, rfl, rfl⟩
  online _ := id
  known _ := id

theorem keeps_setPlayer (res : Resources) {s : State} {p : UInt64} {player : Player}
    (hplayer : s.players p = some player) (player' : Player) (hroles : player'.roles = player.roles)
    (hleave : player'.leaveTeamRoles = player.leaveTeamRoles) :
    Keeps res s (s.setPlayer p player') where
  roles _ role h := ⟨role, h, Follows.refl res s.scene role⟩
  players k player'' h := by
    obtain ⟨rfl, rfl⟩ | ⟨-, h⟩ := Lookup.update_some.mp h
    · exact ⟨player, hplayer, hroles, hleave⟩
    · exact ⟨player'', h, rfl, rfl⟩
  online _ := id
  known _ := id

theorem keeps_collectPlayerLevel (res : Resources) (s : State) (p : UInt64) (level : UInt32) :
    Keeps res s (collectPlayerLevel s p level) where
  roles _ role h := ⟨role, h, Follows.refl res s.scene role⟩
  players _ player h := ⟨player, h, rfl, rfl⟩
  online k h := by
    show (Function.update s.scene.onlinePlayer p (some level) k).isSome
    by_cases hk : k = p
    · rw [hk, Function.update_self]
      rfl
    · rwa [Function.update_of_ne hk]
  known k h := by
    by_cases hk : k = p
    · have hlevel : (collectPlayerLevel s p level).scene.onlinePlayer k = some level := by
        show Function.update s.scene.onlinePlayer p (some level) k = _
        rw [hk, Function.update_self]
      rw [SceneImp.playerLevel, hlevel]
      rfl
    · have hsame : (collectPlayerLevel s p level).scene.onlinePlayer k = s.scene.onlinePlayer k :=
        Function.update_of_ne hk ..
      rw [SceneImp.playerLevel, hsame]
      exact h

/-- A role whose level has risen, with what the player is told. -/
theorem keeps_levelup {s : State} {g p : UInt64} {role role' : Role} {player : Player}
    (hrole : s.roles g = some role) (hfollows : Follows res s.scene role role')
    (hplayer : s.players p = some player) :
    Keeps res s (notifyRoleLevelUp (s.setRole g role') p player g role') := by
  have hset := keeps_setRole hrole hfollows
  unfold notifyRoleLevelUp
  split
  · have hplayer' : (s.setRole g role').players p = some player := hplayer
    have hlevel := keeps_setPlayer res hplayer' { player with level := role'.level } rfl rfl
    exact (hset.trans hlevel).trans (keeps_collectPlayerLevel ..)
  · exact hset

/-- Experience only changes levels. -/
theorem keeps_updateRoleExp (res : Resources) (s : State) (g : UInt64) (value : Int32)
    (status : Charge.AddictionStatus) : Keeps res s (updateRoleExp res s g value status) := by
  unfold updateRoleExp
  split
  · exact Keeps.refl res s
  rename_i role hrole
  split
  · exact Keeps.refl res s
  rename_i player hplayer
  simp only
  split
  · exact Keeps.refl res s
  rename_i hstop
  obtain ⟨-, hcap⟩ := not_or.mp hstop
  generalize hexp : role.exp + (Charge.getAddictionValue value status).toUInt32 = exp
  split
  · -- the level rises with the attributes
    generalize calcUpdateLevel res (levelCap res player) exp role.level.toInt32 = updated
    have hdiff : updated.2 - role.level.toInt32
        = updated.2.toUInt32.toInt32 - role.level.toInt32 := rfl
    have hfollows := follows_levelUpgrade res s.scene role
      { role with exp := updated.1, level := updated.2.toUInt32 } rfl rfl rfl hdiff
    refine keeps_levelup hrole hfollows ?_
    rw [hfollows.player]
    exact hplayer
  · -- the level stays
    rename_i hlevel
    have heq := calcUpdateLevel_eq _ hcap hlevel
    exact keeps_setRole hrole ((Follows.refl res s.scene role).congr rfl rfl heq rfl)

/-- So does the command. -/
theorem keeps_gmcmdLevelup (res : Resources) (s : State) (p : UInt64) (params : List Int32) :
    Keeps res s (gmcmdLevelup res s p params) := by
  unfold gmcmdLevelup
  split
  case h_2 => exact Keeps.refl res s
  rename_i player upLevel hplayer _
  split
  · exact Keeps.refl res s
  split
  · exact Keeps.refl res s
  rename_i g _
  split
  · exact Keeps.refl res s
  rename_i role hrole
  simp only
  split
  · exact Keeps.refl res s
  generalize (if (levelCap res player).toUInt32 < role.level + upLevel.toUInt32 then
    ((levelCap res player).toUInt32 - role.level).toInt32 else upLevel) = up
  have hdiff : ((role.level + up.toUInt32) + up.toUInt32).toInt32
      - (role.level + up.toUInt32).toInt32
      = (role.level + up.toUInt32).toInt32 - role.level.toInt32 := by
    simp only [UInt32.toInt32_add]
    grind
  exact keeps_levelup hrole
    (follows_levelUpgrade res s.scene role { role with level := role.level + up.toUInt32 } rfl rfl
      rfl hdiff) hplayer

/-- Both roles change their levels with their attributes. -/
theorem follows_swapLevels (res : Resources) (scene : SceneImp) (fromRole toRole : Role) :
    Follows res scene fromRole (swapLevels res scene fromRole toRole).1 ∧
      Follows res scene toRole (swapLevels res scene fromRole toRole).2 := by
  have hup : ∀ (role : Role) (level : UInt32), Follows res scene role
      (levelUpgrade res scene { role with level := level } role.level.toInt32 level.toInt32) :=
    fun role level =>
      follows_levelUpgrade res scene role { role with level := level } rfl rfl rfl rfl
  unfold swapLevels
  simp only [levelReduce_eq]
  split
  · exact ⟨hup fromRole toRole.level, hup toRole fromRole.level⟩
  split
  · exact ⟨hup fromRole toRole.level, hup toRole fromRole.level⟩
  · rename_i hge hle
    have heq : toRole.level = fromRole.level :=
      UInt32.le_antisymm (UInt32.not_lt.mp hle) (UInt32.not_lt.mp hge)
    exact ⟨(Follows.refl res scene fromRole).congr rfl rfl heq rfl,
      (Follows.refl res scene toRole).congr rfl rfl heq.symm rfl⟩

/-- So does inheriting. -/
theorem keeps_cmsgInheritRole (res : Resources) (s : State) (p fromGuid toGuid : UInt64)
    (checked reduced : Bool) :
    Keeps res s (cmsgInheritRole res s p fromGuid toGuid checked reduced) := by
  unfold cmsgInheritRole
  split
  case h_2 => exact Keeps.refl res s
  rename_i player fromRole toRole hplayer hfrom hto
  split
  case isFalse => exact Keeps.refl res s
  rename_i hguard
  obtain ⟨hne, -, -, hhead, hhead', -⟩ := hguard
  obtain ⟨hfollows, hfollows'⟩ := follows_swapLevels res s.scene fromRole toRole
  simp only
  generalize swapLevels res s.scene fromRole toRole = swapped at hfollows hfollows'
  -- neither is the first role, which gives the player its level
  unfold notifyRoleLevelUp
  rw [if_neg hhead, if_neg hhead']
  have hfrom' : Follows res s.scene fromRole { swapped.1 with
      exp := swapped.2.exp, inheritFrom := swapped.1.inheritFrom + 1 } :=
    hfollows.congr rfl rfl rfl rfl
  have hset := keeps_setRole hfrom hfrom'
  refine hset.trans (keeps_setRole ?_ (hfollows'.congr rfl rfl rfl rfl))
  exact (Function.update_of_ne (Ne.symm hne) ..).trans hto

/-! ## §9. Loading a player. -/

/-- The role, if it is the player's, has the attributes of its level. -/
def RoleAtLevel (res : Resources) (p : UInt64) (s : State) (g : UInt64) : Prop :=
  ∀ role, s.roles g = some role → role.player = p → ∀ r, res.role role.roleId = some r →
    AtLevel res r role.level role.attributes

/-- After a change of levels a role has the attributes of its level. -/
theorem Keeps.roleAtLevel {s s' : State} {p g : UInt64} (h : Keeps res s s')
    (hknown : (s.scene.playerLevel p).isSome) (hat : RoleAtLevel res p s g) :
    RoleAtLevel res p s' g := by
  intro role' hrole' hplayer r hr
  obtain ⟨role, hrole, hfollows⟩ := h.roles g role' hrole'
  have howner : role.player = p := hfollows.player.symm.trans hplayer
  have hr' : res.role role.roleId = some r := hfollows.roleId ▸ hr
  exact hfollows.atLevel r hr' (howner ▸ hknown) (hat role hrole howner r hr')

theorem keeps_initRoleOf (res : Resources) (s : State) (g : UInt64) :
    Keeps res s (initRoleOf res s g) := by
  unfold initRoleOf
  split
  · exact Keeps.refl res s
  rename_i role hrole
  split
  · exact Keeps.refl res s
  rename_i r hr
  exact keeps_setRole hrole (follows_initRole hr)

/-- A role that is set up has them, too. -/
theorem roleAtLevel_initRoleOf (res : Resources) (s : State) (g : UInt64) {p : UInt64}
    (hknown : (s.scene.playerLevel p).isSome) : RoleAtLevel res p (initRoleOf res s g) g := by
  intro role' hrole' hplayer r hr
  unfold initRoleOf at hrole'
  match hrole : s.roles g with
  | none => simp [hrole] at hrole'
  | some role =>
      simp only [hrole] at hrole'
      match hres : res.role role.roleId with
      | none =>
          simp only [hres] at hrole'
          obtain rfl : role = role' := Option.some.inj (hrole.symm.trans hrole')
          rw [hres] at hr
          cases hr
      | some r₀ =>
          simp only [hres] at hrole'
          have hset : (s.setRole g (initRole res s.scene role r₀)).roles g
              = some (initRole res s.scene role r₀) := Function.update_self ..
          obtain rfl := Option.some.inj (hset.symm.trans hrole')
          obtain ⟨hplayer', hid, hlevel⟩ := eq_of_rest (initRole_rest res s.scene role r₀)
          obtain rfl : r₀ = r := Option.some.inj (hres.symm.trans (hid ▸ hr))
          rw [hlevel]
          exact initRole_atLevel role r₀ (by rw [← hplayer', hplayer]; exact hknown)

/-- **The loops of `initPlayerAttribute`** keep what they go through, and make every role that they
    come to one of its level. -/
theorem foldl_initRoleOf (res : Resources) {p : UInt64} (gs : List UInt64) (s : State)
    (hknown : (s.scene.playerLevel p).isSome) :
    Keeps res s (gs.foldl (initRoleOf res) s) ∧
      ∀ g ∈ gs, RoleAtLevel res p (gs.foldl (initRoleOf res) s) g := by
  induction gs generalizing s with
  | nil => exact ⟨Keeps.refl res s, fun g hg => by cases hg⟩
  | cons k gs ih =>
      have hstep := keeps_initRoleOf res s k
      have hknown' := hstep.known p hknown
      obtain ⟨hkeeps, hmade⟩ := ih (initRoleOf res s k) hknown'
      refine ⟨hstep.trans hkeeps, fun g hg => ?_⟩
      obtain rfl | hg := List.mem_cons.mp hg
      · exact hkeeps.roleAtLevel hknown' (roleAtLevel_initRoleOf res s g hknown)
      · exact hmade g hg

theorem foldl_initRoleOf_players (res : Resources) (gs : List UInt64) (s : State) :
    (gs.foldl (initRoleOf res) s).players = s.players := by
  have hstep : ∀ (s : State) (g : UInt64), (initRoleOf res s g).players = s.players := by
    intro s g
    unfold initRoleOf
    split
    · rfl
    · split <;> rfl
  induction gs generalizing s with
  | nil => rfl
  | cons g gs ih => exact (ih _).trans (hstep s g)

theorem firstInitPlayer_lists (s : State) (player : Player) (announce : Option UInt64) :
    (firstInitPlayer s player announce).roles = player.roles ∧
      (firstInitPlayer s player announce).leaveTeamRoles = player.leaveTeamRoles := by
  unfold firstInitPlayer
  split <;> exact ⟨rfl, rfl⟩

theorem keeps_firstInitPlayerLevel (res : Resources) {s : State} {p : UInt64} {player₀ : Player}
    (hplayer : s.players p = some player₀) (player : Player) (hroles : player.roles = player₀.roles)
    (hleave : player.leaveTeamRoles = player₀.leaveTeamRoles) :
    Keeps res s (firstInitPlayerLevel res s p player) := by
  unfold firstInitPlayerLevel
  split
  · exact Keeps.refl res s
  rename_i g _
  split
  · exact Keeps.refl res s
  rename_i role hrole
  -- the experience is no attribute
  have hexp : ∀ {role' : Role}, Follows res s.scene role role' → Follows res s.scene role
      (if 0 < res.initialization.exp then { role' with exp := res.initialization.exp.toUInt32 }
        else role') := by
    intro role' h
    split
    · exact h.congr rfl rfl rfl rfl
    · exact h
  simp only
  split
  · -- the level is set after the attributes
    have hdiff : res.initialization.level - role.level.toInt32
        = res.initialization.level.toUInt32.toInt32 - role.level.toInt32 := rfl
    obtain ⟨howner, hid, -⟩ := eq_of_rest
      (levelUpgrade_rest res s.scene role role.level.toInt32 res.initialization.level)
    have hfollows : Follows res s.scene role
        { levelUpgrade res s.scene role role.level.toInt32 res.initialization.level with
          level := res.initialization.level.toUInt32 } :=
      ⟨howner, hid, fun r hr hknown hat => levelUpgrade_level hat hr hknown hdiff⟩
    have hset := keeps_setRole hrole (hexp hfollows)
    refine hset.trans (keeps_setPlayer res ?_ _ hroles hleave)
    exact hplayer
  · exact keeps_setRole hrole (hexp (Follows.refl res s.scene role))

/-- The player's roles have the attributes of their levels, and the player is found. -/
structure Inv (res : Resources) (p : UInt64) (s : State) : Prop where
  online : (s.players p).isSome → (s.scene.onlinePlayer p).isSome
  roles : ∀ player, s.players p = some player → ∀ g ∈ player.roles ++ player.leaveTeamRoles,
    RoleAtLevel res p s g

theorem playerLevel_of_online {p : UInt64} (h : (scene.onlinePlayer p).isSome) :
    (scene.playerLevel p).isSome := by
  obtain ⟨level, hlevel⟩ := Option.isSome_iff_exists.mp h
  unfold SceneImp.playerLevel
  rw [hlevel]
  rfl

/-- **A load** keeps what there is, and makes the roles of its player those of their levels. -/
theorem load_spec (res : Resources) (s : State) (q : UInt64) (announce : Option UInt64) :
    Keeps res s (playerDataLoadFinish res s q announce) ∧
      Inv res q (playerDataLoadFinish res s q announce) := by
  unfold playerDataLoadFinish
  split
  · rename_i hnone
    exact ⟨Keeps.refl res s, fun h => by simp [hnone] at h, fun player h => by simp [hnone] at h⟩
  rename_i player hplayer
  have hcollect := keeps_collectPlayerLevel res s q player.level
  have honline : ((collectPlayerLevel s q player.level).scene.onlinePlayer q).isSome := by
    show (Function.update s.scene.onlinePlayer q (some player.level) q).isSome
    rw [Function.update_self]
    rfl
  -- what the loops make stays after what follows them
  have hloops : ∀ (s₁ s₂ : State) (player₁ : Player),
      Keeps res s s₁ → (s₁.scene.onlinePlayer q).isSome → s₁.players q = some player₁ →
      Keeps res (initPlayerAttribute res s₁ player₁) s₂ → Keeps res s s₂ ∧ Inv res q s₂ := by
    intro s₁ s₂ player₁ hkeeps hon hp hafter
    obtain ⟨hfold, hmade⟩ := foldl_initRoleOf res (player₁.roles ++ player₁.leaveTeamRoles) s₁
      (playerLevel_of_online hon)
    have hon' := hfold.online q hon
    refine ⟨(hkeeps.trans hfold).trans hafter, fun _ => hafter.online q hon', ?_⟩
    intro player₂ hp₂ g hg
    obtain ⟨player', hp', hroles, hleave⟩ := (hfold.trans hafter).players q player₂ hp₂
    obtain rfl : player₁ = player' := Option.some.inj (hp.symm.trans hp')
    rw [hroles, hleave] at hg
    exact hafter.roleAtLevel (playerLevel_of_online hon') (hmade g hg)
  simp only
  split
  · obtain ⟨hroles, hleave⟩ := firstInitPlayer_lists (collectPlayerLevel s q player.level) player
      announce
    generalize firstInitPlayer (collectPlayerLevel s q player.level) player announce = player₁
      at hroles hleave
    have hset := keeps_setPlayer res (s := collectPlayerLevel s q player.level) hplayer player₁
      hroles hleave
    have hp : ((collectPlayerLevel s q player.level).setPlayer q player₁).players q
        = some player₁ := Function.update_self ..
    refine hloops _ _ player₁ (hcollect.trans hset) honline hp ?_
    have hloop : ∀ s₁ : State, (initPlayerAttribute res s₁ player₁).players = s₁.players :=
      fun s₁ => foldl_initRoleOf_players res (player₁.roles ++ player₁.leaveTeamRoles) s₁
    exact keeps_firstInitPlayerLevel res ((congrFun (hloop _) q).trans hp) player₁ rfl rfl
  · exact hloops _ _ player hcollect honline hplayer (Keeps.refl ..)

/-- The loops of `initPlayerAttribute` change no level. -/
theorem foldl_initRoleOf_rest (res : Resources) (gs : List UInt64) (s : State) {g : UInt64}
    {role' : Role} (h : (gs.foldl (initRoleOf res) s).roles g = some role') :
    ∃ role, s.roles g = some role ∧ role'.rest = role.rest := by
  induction gs generalizing s with
  | nil => exact ⟨role', h, rfl⟩
  | cons k gs ih =>
      obtain ⟨role₁, hrole₁, hrest⟩ := ih (initRoleOf res s k) h
      unfold initRoleOf at hrole₁
      split at hrole₁
      · exact ⟨role₁, hrole₁, hrest⟩
      rename_i role hrole
      split at hrole₁
      · exact ⟨role₁, hrole₁, hrest⟩
      rename_i r _
      obtain ⟨rfl, rfl⟩ | ⟨-, hrole₁⟩ := Lookup.update_some.mp hrole₁
      · exact ⟨role, hrole, hrest.trans (initRole_rest ..)⟩
      · exact ⟨role₁, hrole₁, hrest⟩

/-- **Logging out and in again changes no strength.** -/
theorem load_offline_attributes {s : State} {p g : UInt64} {player : Player} {role role' : Role}
    (h : Inv res p s) (hplayer : s.players p = some player) (hannounce : player.announce ≠ 0)
    (hg : g ∈ player.roles ++ player.leaveTeamRoles) (hrole : s.roles g = some role)
    (howner : role.player = p) (hr : res.role role.roleId = some r) (announce : Option UInt64)
    (hrole' : (playerDataLoadFinish res (playerOffline s p) p announce).roles g = some role')
    {attr : RoleAttrType} (hattr : attr ≠ .currHp) : role'.attributes attr = role.attributes attr := by
  have hload := load_spec res (playerOffline s p) p announce
  have heq : playerDataLoadFinish res (playerOffline s p) p announce
      = initPlayerAttribute res (collectPlayerLevel (playerOffline s p) p player.level) player := by
    have hp : (playerOffline s p).players p = some player := hplayer
    unfold playerDataLoadFinish
    simp only [hp, if_neg hannounce]
  rw [heq] at hload hrole'
  obtain ⟨role₀, hrole₀, hrest⟩ := foldl_initRoleOf_rest res _ _ hrole'
  obtain rfl : role = role₀ := Option.some.inj (hrole.symm.trans hrole₀)
  obtain ⟨howner', hid, hlevel⟩ := eq_of_rest hrest
  have hp' : (initPlayerAttribute res (collectPlayerLevel (playerOffline s p) p player.level)
      player).players p = some player :=
    (congrFun (foldl_initRoleOf_players res (player.roles ++ player.leaveTeamRoles)
      (collectPlayerLevel (playerOffline s p) p player.level)) p).trans hplayer
  have hafter := hload.2.roles player hp' g hg role' hrole' (howner'.trans howner) r (hid ▸ hr)
  rw [hlevel] at hafter
  exact hafter.unique (h.roles player hplayer g hg role hrole howner r hr) hattr

/-! ## §10. Runs. -/

/-- A change of levels keeps the invariant. -/
theorem Keeps.inv {s s' : State} {p : UInt64} (h : Keeps res s s') (hinv : Inv res p s) :
    Inv res p s' where
  online hp := by
    obtain ⟨player', hp'⟩ := Option.isSome_iff_exists.mp hp
    obtain ⟨player, hplayer, -⟩ := h.players p player' hp'
    exact h.online p (hinv.online (by rw [hplayer]; rfl))
  roles player' hp' g hg := by
    obtain ⟨player, hplayer, hroles, hleave⟩ := h.players p player' hp'
    have honline := hinv.online (by rw [hplayer]; rfl)
    rw [hroles, hleave] at hg
    exact h.roleAtLevel (playerLevel_of_online honline) (hinv.roles player hplayer g hg)

theorem inv_playerOffline {s : State} {p q : UInt64} (h : Inv res p s) (hne : q ≠ p) :
    Inv res p (playerOffline s q) where
  online hp := by
    show (Function.update s.scene.onlinePlayer q none p).isSome
    rw [Function.update_of_ne (Ne.symm hne)]
    exact h.online hp
  roles := h.roles

theorem inv_rmsgRoleAdd {s : State} {p : UInt64} (h : Inv res p s) (q : UInt64) (roleId : UInt32)
    {roleGuid : UInt64} (hnew : s.roles roleGuid = none) :
    Inv res p (rmsgRoleAdd res s q roleId roleGuid) := by
  unfold rmsgRoleAdd
  split
  case h_2 => exact h
  rename_i player r hplayer hr
  simp only
  -- whoever has the guid on a list, the role is of the player that asked for it
  have hrole : ∀ role : Role, role.player = q → role.roleId = roleId → (s.players p).isSome →
      ∀ g, (s.roles g = none ∨ RoleAtLevel res p s g) →
        RoleAtLevel res p (s.setRole roleGuid (initRole res s.scene role r)) g := by
    intro role howner hid hp g hg role' hrole' hplayer' r' hr'
    obtain ⟨rfl, rfl⟩ | ⟨-, hrole'⟩ := Lookup.update_some.mp hrole'
    · obtain ⟨howner', hid', hlevel⟩ := eq_of_rest (initRole_rest res s.scene role r)
      have hroleId : (initRole res s.scene role r).roleId = roleId := hid'.trans hid
      obtain rfl : r = r' := Option.some.inj (hr.symm.trans (hroleId ▸ hr'))
      have hknown := playerLevel_of_online (h.online hp)
      rw [hlevel]
      exact initRole_atLevel role r (by rw [← howner', hplayer']; exact hknown)
    · obtain hnone | hat := hg
      · rw [hnone] at hrole'
        cases hrole'
      · exact hat role' hrole' hplayer' r' hr'
  constructor
  · intro hp
    by_cases hq : p = q
    · exact h.online (by rw [hq, hplayer]; rfl)
    · replace hp : (Function.update s.players q _ p).isSome := hp
      rw [Function.update_of_ne hq] at hp
      exact h.online hp
  · intro player' hp' g hg
    replace hp' : Function.update s.players q _ p = some player' := hp'
    by_cases hq : p = q
    · have hsome : (s.players p).isSome := by
        rw [hq, hplayer]
        rfl
      rw [hq, Function.update_self] at hp'
      obtain rfl := Option.some.inj hp'
      refine hrole _ rfl rfl hsome g ?_
      by_cases hnone : s.roles g = none
      · exact Or.inl hnone
      · refine Or.inr (h.roles player (hq ▸ hplayer) g ?_)
        have hne : g ≠ roleGuid := fun he => hnone (he ▸ hnew)
        simpa [hne] using hg
    · rw [Function.update_of_ne hq] at hp'
      exact hrole _ rfl rfl (by rw [hp']; rfl) g (Or.inr (h.roles player' hp' g hg))

/-- One step, unless it takes the player offline. -/
theorem inv_step {s s' : State} {p : UInt64} {a : Act} (h : Inv res p s)
    (ha : a ≠ .playerOffline p) (hs : step res s a = some s') : Inv res p s' := by
  cases a with
  | load q announce =>
      obtain rfl := Option.some.inj hs
      exact (load_spec res s q announce).1.inv h
  | updateRoleExp g value status =>
      obtain rfl := Option.some.inj hs
      exact (keeps_updateRoleExp res s g value status).inv h
  | gmcmdLevelup q params =>
      obtain rfl := Option.some.inj hs
      exact (keeps_gmcmdLevelup res s q params).inv h
  | cmsgInheritRole q fromRole toRole checked reduced =>
      obtain rfl := Option.some.inj hs
      exact (keeps_cmsgInheritRole res s q fromRole toRole checked reduced).inv h
  | rmsgRoleAdd q roleId roleGuid =>
      replace hs : (if s.roles roleGuid = none then some (rmsgRoleAdd res s q roleId roleGuid)
        else none) = some s' := hs
      split at hs
      · rename_i hnew
        obtain rfl := Option.some.inj hs
        exact inv_rmsgRoleAdd h q roleId hnew
      · cases hs
  | playerOffline q =>
      obtain rfl := Option.some.inj hs
      exact inv_playerOffline h fun he => ha (he ▸ rfl)
  | briefInfo q level =>
      obtain rfl := Option.some.inj hs
      exact ⟨h.online, h.roles⟩

/-- **A run** in which the player stays keeps the invariant. -/
theorem inv_run {s s' : State} {p : UInt64} {acts : List Act} (h : Inv res p s)
    (hacts : .playerOffline p ∉ acts) (hrun : (system res).run s acts = some s') :
    Inv res p s' := by
  induction acts generalizing s with
  | nil =>
      obtain rfl : s = s' := Option.some.inj hrun
      exact h
  | cons a acts ih =>
      obtain ⟨t, hstep, hrest⟩ := TransSys.run_cons_eq_some.mp hrun
      have ha : a ≠ .playerOffline p := fun he => hacts (he ▸ List.mem_cons_self)
      exact ih (inv_step h ha hstep) (fun hm => hacts (List.mem_cons_of_mem _ hm)) hrest

/-- **The attributes of a role do not depend on how it got to its level.**  However the levels
    change from the load of a player until it goes offline, each of its roles has the attributes
    that `initRole` computes for it then, but for the current hit points. -/
theorem run_attributes (res : Resources) (s₀ : State) (p : UInt64) (announce : Option UInt64)
    (acts : List Act) (hacts : .playerOffline p ∉ acts) (s : State)
    (hrun : (system res).run (playerDataLoadFinish res s₀ p announce) acts = some s)
    (player : Player) (hplayer : s.players p = some player) (g : UInt64)
    (hg : g ∈ player.roles ++ player.leaveTeamRoles) (role : Role)
    (hrole : s.roles g = some role) (howner : role.player = p) (r : RoleResInfo)
    (hr : res.role role.roleId = some r) (attr : RoleAttrType) (hattr : attr ≠ .currHp) :
    role.attributes attr = (initRole res s.scene role r).attributes attr := by
  have hinv := inv_run (load_spec res s₀ p announce).2 hacts hrun
  have hlevel := hinv.roles player hplayer g hg role hrole howner r hr
  have honline := hinv.online (by rw [hplayer]; rfl)
  have hknown : (s.scene.playerLevel role.player).isSome :=
    howner ▸ playerLevel_of_online honline
  exact hlevel.unique (initRole_atLevel role r hknown) hattr

/-! ## §11. A role that rises from level 1 to level 6. -/

/-- A role of the resource table. -/
def swordman : RoleResInfo where
  level := 1
  charAbility := 3
  str := 30
  agi := 20
  intValue := 10
  phyAtt := 45
  phyDef := 33
  agiAtt := 15
  agiDef := 22
  intAtt := 5
  intDef := 11
  hp := 100
  hpGrowth := 7
  critical := 4
  criticalDamage := 150
  block := 3
  blockDefence := 20
  blockDamage := 10
  hit := 90
  dodge := 5
  strikeBack := 2
  combo := 1
  joint := 1
  comboUp := 2
  jointUp := 2
  comboDown := 0
  jointDown := 0
  enarge := 25
  phyAttGrowth := 3
  phyDefGrowth := 2
  agiAttGrowth := 1
  agiDefGrowth := 2
  intAttGrowth := 1
  intDefGrowth := 1
  hpPercent := 333
  phyAttPercent := 1250
  phyDefPercent := 0
  agiAttPercent := 100
  agiDefPercent := 0
  intAttPercent := 0
  intDefPercent := 77

/-- Resources with one role. -/
def smallRes : Resources where
  war := ⟨5000, 3000, 4000, 3500, 2500, 1000⟩
  system := ⟨60, 100, 2, 1, 3, 1⟩
  role id := if id = 1 then some swordman else none
  levelExp _ := some 10
  initialization := ⟨1, 0⟩

/-- A player with one role. -/
def onePlayer : State where
  scene := ⟨fun _ => none, fun _ => none⟩
  players guid := if guid = 1 then some ⟨1, 50, [7], [], 5⟩ else none
  roles guid := if guid = 7 then some { zeroRole with player := 1, roleId := 1 } else none

/-- Three levels by a command, two by experience. -/
def rising : List Act := [.gmcmdLevelup 1 [3], .updateRoleExp 7 25 .normal]

theorem run_attributes_rising : ∃ s role,
    (system smallRes).run (playerDataLoadFinish smallRes onePlayer 1 none) rising = some s ∧
      s.roles 7 = some role ∧ role.level = 6 ∧ ∀ attr, attr ≠ .currHp →
        role.attributes attr = (initRole smallRes s.scene role swordman).attributes attr := by
  have hrole : (((system smallRes).run (playerDataLoadFinish smallRes onePlayer 1 none) rising).bind
      fun s => (s.roles 7).map fun role => (role.player, role.roleId, role.level))
        = some (1, 1, 6) := by decide +kernel
  have hplayer : (((system smallRes).run (playerDataLoadFinish smallRes onePlayer 1 none)
      rising).bind fun s => (s.players 1).map fun player => player.roles) = some [7] := by
    decide +kernel
  obtain ⟨s, hs, hrole⟩ := Option.bind_eq_some_iff.mp hrole
  rw [hs] at hplayer
  obtain ⟨role, hrole, hfields⟩ := Option.map_eq_some_iff.mp hrole
  obtain ⟨player, hplayer, hroles⟩ := Option.map_eq_some_iff.mp hplayer
  obtain ⟨howner, hid, hlevel⟩ : role.player = 1 ∧ role.roleId = 1 ∧ role.level = 6 := by
    simpa using hfields
  have hg : (7 : UInt64) ∈ player.roles ++ player.leaveTeamRoles := by simp [hroles]
  have hr : smallRes.role role.roleId = some swordman := by
    rw [hid]
    rfl
  exact ⟨s, role, hs, hrole, hlevel, fun attr hattr =>
    run_attributes smallRes onePlayer 1 none rising (by simp [rising]) s hs player hplayer 7 hg role
      hrole howner swordman hr attr hattr⟩

end Steppingstone.Level
