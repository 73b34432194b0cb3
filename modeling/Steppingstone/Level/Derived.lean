/-
  Steppingstone.Level.Derived — the derived attributes follow their bases.

  Attack, defence and hit points are their base and percentage, the total of the initiative is the
  sum of its eight parts, whatever is changed and in which order.  The product with the percentage
  is taken in doubles: where the exact product is an integer the result may be the next one towards
  zero, elsewhere it is the integer part.
-/
import Steppingstone.Level.Changes

namespace Steppingstone.Level

variable {attr a : RoleAttrType} {value : Int32}

/-! ## §1. The product in doubles. -/

/-- The error of rounding to a double. -/
theorem double_error (q : ℚ) : |double q - q| ≤ |q| / 2 ^ 53 :=
  Rounding.rounded_error 53 q

/-- A product that fits is off by less than a ten-thousandth. -/
theorem double_product_error {b p : ℚ} (hb : |b| ≤ 2 ^ 31) (hfits : |b * (p + 1)| < 2 ^ 31) :
    |double (b * double (double p + 1)) - b * (p + 1)| < 1 / 10000 := by
  -- no intermediate result passes 2 ^ 33, so each of the three roundings is off by 2 ^ -20 or less
  have hbp : |b * p| ≤ 2 ^ 32 := by
    have hsub : b * p = b * (p + 1) - b := by ring
    have htri := abs_sub (b * (p + 1)) b
    rw [hsub]
    norm_num at *
    linarith
  have hfirst : |b * (double p + 1) - b * (p + 1)| ≤ 2 ^ 32 / 2 ^ 53 := by
    have hfactor : b * (double p + 1) - b * (p + 1) = b * (double p - p) := by ring
    calc |b * (double p + 1) - b * (p + 1)|
        = |b| * |double p - p| := by rw [hfactor, abs_mul]
      _ ≤ |b| * (|p| / 2 ^ 53) := mul_le_mul_of_nonneg_left (double_error p) (abs_nonneg b)
      _ = |b * p| / 2 ^ 53 := by rw [abs_mul]; ring
      _ ≤ 2 ^ 32 / 2 ^ 53 := div_le_div_of_nonneg_right hbp (by positivity)
  have hsecond : |b * double (double p + 1) - b * (double p + 1)| ≤ 2 ^ 32 / 2 ^ 53 := by
    have hsize : |b * (double p + 1)| ≤ 2 ^ 32 := by
      have htri := abs_add_le (b * (double p + 1) - b * (p + 1)) (b * (p + 1))
      rw [sub_add_cancel] at htri
      norm_num at *
      linarith
    calc |b * double (double p + 1) - b * (double p + 1)|
        = |b| * |double (double p + 1) - (double p + 1)| := by rw [← mul_sub, abs_mul]
      _ ≤ |b| * (|double p + 1| / 2 ^ 53) :=
          mul_le_mul_of_nonneg_left (double_error _) (abs_nonneg b)
      _ = |b * (double p + 1)| / 2 ^ 53 := by rw [abs_mul]; ring
      _ ≤ 2 ^ 32 / 2 ^ 53 := div_le_div_of_nonneg_right hsize (by positivity)
  have hsum : |b * double (double p + 1) - b * (p + 1)| ≤ 2 ^ 33 / 2 ^ 53 := by
    have htri := abs_add_le (b * double (double p + 1) - b * (double p + 1))
      (b * (double p + 1) - b * (p + 1))
    rw [sub_add_sub_cancel] at htri
    norm_num at *
    linarith
  have hthird : |double (b * double (double p + 1)) - b * double (double p + 1)|
      ≤ 2 ^ 33 / 2 ^ 53 := by
    have hsize : |b * double (double p + 1)| ≤ 2 ^ 33 := by
      have htri := abs_add_le (b * double (double p + 1) - b * (p + 1)) (b * (p + 1))
      rw [sub_add_cancel] at htri
      norm_num at *
      linarith
    exact (double_error _).trans (div_le_div_of_nonneg_right hsize (by positivity))
  have htri := abs_add_le (double (b * double (double p + 1)) - b * double (double p + 1))
    (b * double (double p + 1) - b * (p + 1))
  rw [sub_add_sub_cancel] at htri
  norm_num at *
  linarith

/-- **The product in doubles** is the integer part of the exact one, or where that is an integer
    perhaps the next one towards zero. -/
theorem scaled_near (base percent : Int32)
    (hfits : |base.toInt * (10000 + percent.toInt)| < 2 ^ 31 * 10000) :
    (scaled base percent).toInt = (base.toInt * (10000 + percent.toInt)).tdiv 10000 ∨
      (10000 ∣ base.toInt * (10000 + percent.toInt) ∧
        (scaled base percent).toInt + (base.toInt * (10000 + percent.toInt)).sign
          = (base.toInt * (10000 + percent.toInt)).tdiv 10000) := by
  have hexact : ((base.toInt * (10000 + percent.toInt) : ℤ) : ℚ) / ((10000 : ℤ) : ℚ)
      = base.toInt * (percent.toInt / 10000 + 1) := by
    push_cast
    ring
  -- the bounds under which the double product is within a unit
  have hb : |(base.toInt : ℚ)| ≤ 2 ^ 31 := by
    have hlow := base.le_toInt
    have hhigh := base.toInt_lt
    have hint : |base.toInt| ≤ 2 ^ 31 := abs_le.mpr ⟨by omega, by omega⟩
    exact_mod_cast hint
  have hsmall : |(base.toInt : ℚ) * (percent.toInt / 10000 + 1)| < 2 ^ 31 := by
    have hrat : |((base.toInt * (10000 + percent.toInt) : ℤ) : ℚ)| < 2 ^ 31 * 10000 := by
      exact_mod_cast hfits
    rw [← hexact, abs_div]
    norm_num at hrat ⊢
    rw [div_lt_iff₀ (by norm_num)]
    linarith
  have herr := double_product_error hb hsmall
  rw [← hexact] at herr
  have hunit : (1 : ℚ) / ((10000 : ℤ) : ℚ) = 1 / 10000 := by norm_num
  rw [← hunit] at herr
  have hnear := Rounding.truncate_near (by norm_num) herr
  have habs := abs_lt.mp hfits
  unfold scaled
  generalize base.toInt * (10000 + percent.toInt) = m at hnear habs ⊢
  generalize hz : Rounding.truncate _ = z at hnear ⊢
  have hrange : -2 ^ 31 ≤ z ∧ z < 2 ^ 31 := by
    -- truncation is towards zero, so the sign decides
    obtain hneg | rfl | hpos := lt_trichotomy m 0
    · rw [Int.sign_eq_neg_one_of_neg hneg, ← neg_neg m, Int.neg_tdiv,
        Int.tdiv_eq_ediv_of_nonneg (by omega)] at hnear
      omega
    · simp at hnear
      omega
    · rw [Int.sign_eq_one_of_pos hpos, Int.tdiv_eq_ediv_of_nonneg hpos.le] at hnear
      omega
  have hint : (Int32.ofInt z).toInt = z := Int32.toInt_ofInt_of_le hrange.1 hrange.2
  rw [hint]
  exact hnear

/-! ## §2. Derived attributes. -/

/-- The eight parts of the initiative. -/
def initiatives : List RoleAttrType :=
  [.initiativeSthen, .initiativeColor, .initiativeLaw, .initiativeEducate, .initiativeDodge,
    .initiativeChakre, .initiativeTraining, .initiativeLevel]

/-- An attribute that is made of others. -/
def RoleAttrType.Derived (a : RoleAttrType) : Prop :=
  (∃ c : Computed, a = c.attr) ∨ a = .initiativeAll

/-- The product of a base with its percentage, in ten-thousandths. -/
def exactProduct (f : RoleAttrType → Int32) (c : Computed) : ℤ :=
  (f c.base).toInt * (10000 + (f c.percent).toInt)

/-- The derived attributes are what they are made of. -/
structure FollowsBases (f : RoleAttrType → Int32) : Prop where
  scaled : Scaled f
  near : ∀ c, |exactProduct f c| < 2 ^ 31 * 10000 →
    (f c.attr).toInt = (exactProduct f c).tdiv 10000 ∨
      (10000 ∣ exactProduct f c ∧
        (f c.attr).toInt + (exactProduct f c).sign = (exactProduct f c).tdiv 10000)
  initiative : f .initiativeAll = (initiatives.map f).sum

/-- A drift of zero stays, as long as the attribute itself is not changed. -/
theorem foldl_driftAfter_zero {c : Computed} {chs : List (RoleAttrType × Int32)}
    (h : ∀ ch ∈ chs, ch.1 ≠ c.attr) : chs.foldl c.driftAfter 0 = 0 := by
  induction chs with
  | nil => rfl
  | cons ch chs ih =>
      have hstep : c.driftAfter 0 ch = 0 := by
        unfold Computed.driftAfter
        rw [if_neg (h ch List.mem_cons_self), ite_self]
      rw [List.foldl_cons, hstep]
      exact ih fun c hc => h c (List.mem_cons_of_mem _ hc)

/-- Without drift the attribute is the computed one. -/
theorem drift_eq_zero {f : RoleAttrType → Int32} {c : Computed} (h : drift f c = 0) :
    f c.attr = scaled (f c.base) (f c.percent) := by
  unfold drift at h
  grind

/-- A call of an attribute that is not derived changes no computed one itself. -/
theorem changes_ne_attr {c : Computed} (hattr : attr ≠ c.attr) (res : SceneRes) (level : UInt32)
    (depth : Nat) (value : Int32) :
    ∀ ch ∈ changes res level depth attr value, ch.1 ≠ c.attr := by
  intro ch h
  obtain heq | ⟨hfree, -⟩ := mem_changes h
  · rw [heq]
    exact hattr
  · exact ne_of_isFree hfree c.isFree_attr

theorem RoleCall.mem_changes {res : SceneRes} {player : UInt64} {call : RoleCall}
    {ch : RoleAttrType × Int32} (h : ch ∈ call.changes res player) :
    ∃ level, ch ∈ Level.changes res level 3 call.attr call.value := by
  unfold RoleCall.changes at h
  cases hlevel : call.scene.playerLevel player with
  | none =>
      rw [hlevel] at h
      cases h
  | some level =>
      rw [hlevel] at h
      exact ⟨level, h⟩

/-! ## §3. The total of the initiative. -/

/-- The changes of the total are those of its parts. -/
def Balanced (chs : List (RoleAttrType × Int32)) : Prop :=
  total chs .initiativeAll = (initiatives.map (total chs)).sum

theorem sum_map_total_append (chs chs' : List (RoleAttrType × Int32)) (l : List RoleAttrType) :
    (l.map (total (chs ++ chs'))).sum = (l.map (total chs)).sum + (l.map (total chs')).sum := by
  induction l with
  | nil => rfl
  | cons a l ih =>
      rw [List.map_cons, List.map_cons, List.map_cons, List.sum_cons, List.sum_cons, List.sum_cons,
        ih, total_append]
      grind

/-- Balanced lists, one after the other. -/
theorem Balanced.append {chs chs' : List (RoleAttrType × Int32)} (h : Balanced chs)
    (h' : Balanced chs') : Balanced (chs ++ chs') := by
  unfold Balanced
  rw [total_append, sum_map_total_append, h, h']

theorem balanced_flatMap {α : Type} {f : α → List (RoleAttrType × Int32)} {l : List α}
    (h : ∀ x ∈ l, Balanced (f x)) : Balanced (l.flatMap f) := by
  induction l with
  | nil => rfl
  | cons x l ih =>
      rw [List.flatMap_cons]
      exact (h x List.mem_cons_self).append (ih fun y hy => h y (List.mem_cons_of_mem _ hy))

/-- A change of something else. -/
theorem balanced_other (hall : attr ≠ .initiativeAll) (hpart : attr ∉ initiatives) :
    Balanced [(attr, value)] := by
  have hzero : ∀ a, attr ≠ a → total [(attr, value)] a = 0 := by
    intro a ha
    rw [total_cons, if_neg ha]
    rfl
  have hparts : ∀ l : List RoleAttrType, attr ∉ l →
      (l.map (total [(attr, value)])).sum = 0 := by
    intro l hl
    induction l with
    | nil => rfl
    | cons a l ih =>
        rw [List.map_cons, List.sum_cons, hzero a (List.ne_of_not_mem_cons hl),
          ih (List.not_mem_of_not_mem_cons hl)]
        rfl
  unfold Balanced
  rw [hzero _ hall, hparts _ hpart]

/-- A change of a part comes with the same change of the total. -/
theorem balanced_part (hpart : attr ∈ initiatives) :
    Balanced [(.initiativeAll, value), (attr, value)] := by
  simp only [initiatives, List.mem_cons, List.not_mem_nil, or_false] at hpart
  unfold Balanced
  obtain rfl | rfl | rfl | rfl | rfl | rfl | rfl | rfl := hpart
  all_goals simp [total, initiatives]

/-- Only the parts call the total. -/
theorem innerCalls_all {res : SceneRes} {level : UInt32} {call : RoleAttrType × Int32}
    (h : call ∈ innerCalls res level attr value) (hall : call.1 = .initiativeAll) :
    attr ∈ initiatives := by
  unfold innerCalls at h
  split at h
  case h_25 => cases h
  case h_1 | h_2 | h_3 =>
    obtain rfl | rfl | rfl : _ ∨ _ ∨ _ := by simpa using h
    all_goals cases hall
  -- the parts of the initiative
  case h_15 | h_16 | h_17 | h_18 | h_19 | h_20 | h_21 | h_22 => decide
  all_goals
    obtain rfl := List.mem_singleton.mp h
    cases hall

/-- A part of the initiative changes the whole. -/
theorem innerCalls_part (res : SceneRes) (level : UInt32) (value : Int32)
    (h : attr ∈ initiatives) :
    innerCalls res level attr value = [(.initiativeAll, value)] ∧ attr.calls = 1 := by
  simp only [initiatives, List.mem_cons, List.not_mem_nil, or_false] at h
  obtain rfl | rfl | rfl | rfl | rfl | rfl | rfl | rfl := h
  all_goals exact ⟨rfl, rfl⟩

/-- **Every call is balanced**, by induction on its depth. -/
theorem changes_balanced (res : SceneRes) (level : UInt32) {depth : Nat}
    (hall : attr ≠ .initiativeAll) (hdepth : attr.calls < depth) :
    Balanced (changes res level depth attr value) := by
  induction depth generalizing attr value with
  | zero => rfl
  | succ depth ih =>
      unfold changes
      by_cases hvalue : value = 0
      · rw [if_pos hvalue]
        rfl
      rw [if_neg hvalue]
      by_cases hpart : attr ∈ initiatives
      · obtain ⟨hinner, hcalls⟩ := innerCalls_part res level value hpart
        obtain ⟨n, rfl⟩ : ∃ n, depth = n + 1 := ⟨depth - 1, by omega⟩
        rw [hinner, List.flatMap_singleton]
        show Balanced (changes res level (n + 1) .initiativeAll value ++ [(attr, value)])
        have hleaf : changes res level (n + 1) .initiativeAll value
            = [(.initiativeAll, value)] := by
          unfold changes
          rw [if_neg hvalue]
          rfl
        rw [hleaf]
        exact balanced_part hpart
      · refine Balanced.append (balanced_flatMap ?_) (balanced_other hall hpart)
        intro call hcall
        have hlt := calls_lt_of_mem hcall
        exact ih (fun heq => hpart (innerCalls_all hcall heq)) (by omega)

/-! ## §4. Every sequence of calls. -/

section Runs

variable {res : SceneRes} {role : Role} {calls : List RoleCall}

theorem allChanges_ne_attr (player : UInt64) (c : Computed)
    (hcalls : ∀ call ∈ calls, ¬ call.attr.Derived) :
    ∀ ch ∈ allChanges res player calls, ch.1 ≠ c.attr := by
  intro ch hch
  obtain ⟨call, hcall, hmem⟩ := List.mem_flatMap.mp hch
  obtain ⟨level, hmem⟩ := RoleCall.mem_changes hmem
  exact changes_ne_attr (fun heq => hcalls call hcall (.inl ⟨c, heq⟩)) res level 3 _ ch hmem

/-- The changes of calls that name no derived attribute are balanced. -/
theorem allChanges_balanced (player : UInt64) (hcalls : ∀ call ∈ calls, ¬ call.attr.Derived) :
    Balanced (allChanges res player calls) := by
  refine balanced_flatMap ?_
  intro call hcall
  unfold RoleCall.changes
  cases call.scene.playerLevel player with
  | none => rfl
  | some level =>
      exact changes_balanced res level (fun heq => hcalls call hcall (.inr heq)) (calls_lt _)

theorem modifyEach_scaled (hzero : ∀ a, role.attributes a = 0)
    (hcalls : ∀ call ∈ calls, ¬ call.attr.Derived) :
    Scaled (modifyEach res role calls).attributes := by
  intro c
  apply drift_eq_zero
  have hstart : drift role.attributes c = 0 := by
    have hscaled := scaled_zero c
    unfold drift
    rw [hzero, hzero, hzero, ← hscaled]
    exact Int32.sub_self 0
  rw [modifyEach_eq, drift_foldl, hstart]
  exact foldl_driftAfter_zero (allChanges_ne_attr role.player c hcalls)

theorem modifyEach_initiative (hzero : ∀ a, role.attributes a = 0)
    (hcalls : ∀ call ∈ calls, ¬ call.attr.Derived) :
    (modifyEach res role calls).attributes .initiativeAll
      = (initiatives.map (modifyEach res role calls).attributes).sum := by
  have hfree : ∀ a, a.isFree = true → (modifyEach res role calls).attributes a
      = total (allChanges res role.player calls) a := by
    intro a ha
    rw [modifyEach_eq, foldl_change_isFree role _ ha, hzero, Int32.zero_add]
  have hparts : initiatives.map (modifyEach res role calls).attributes
      = initiatives.map (total (allChanges res role.player calls)) := by
    apply List.map_congr_left
    intro a ha
    apply hfree
    simp only [initiatives, List.mem_cons, List.not_mem_nil, or_false] at ha
    obtain rfl | rfl | rfl | rfl | rfl | rfl | rfl | rfl := ha
    all_goals rfl
  rw [hparts, hfree _ rfl]
  exact allChanges_balanced role.player hcalls

/-- **The derived attributes never drift** from what they are made of, whatever else is changed; and
    the order of the calls does not matter. -/
theorem derived_attributes (hzero : ∀ a, role.attributes a = 0)
    (hcalls : ∀ call ∈ calls, ¬ call.attr.Derived) :
    FollowsBases (modifyEach res role calls).attributes ∧
      ∀ calls', calls.Perm calls' → ∀ a, a ≠ .currHp →
        (modifyEach res role calls').attributes a = (modifyEach res role calls).attributes a := by
  have hscaled : Scaled (modifyEach res role calls).attributes := modifyEach_scaled hzero hcalls
  refine ⟨⟨hscaled, ?_, modifyEach_initiative hzero hcalls⟩, ?_⟩
  · intro c hfits
    rw [hscaled c]
    exact scaled_near _ _ hfits
  · intro calls' hperm a hcurr
    have hscaled' : Scaled (modifyEach res role calls').attributes :=
      modifyEach_scaled hzero fun call hcall => hcalls call (hperm.mem_iff.mpr hcall)
    have hfree : ∀ a, a.isFree = true →
        (modifyEach res role calls').attributes a = (modifyEach res role calls).attributes a := by
      intro a ha
      have htotal := total_perm (hperm.flatMap_right (·.changes res role.player)) a
      rw [modifyEach_eq, modifyEach_eq, foldl_change_isFree role _ ha,
        foldl_change_isFree role _ ha]
      exact congrArg (role.attributes a + ·) htotal.symm
    obtain ha | ⟨c, rfl⟩ | ha := isFree_or_computed a
    · exact hfree a ha
    · rw [hscaled c, hscaled' c, hfree _ c.isFree_base, hfree _ c.isFree_percent]
    · exact absurd ha hcurr

end Runs

/-- A scene with the first player at the level. -/
def sceneAt (level : UInt32) : SceneImp where
  onlinePlayer player := if player = 1 then some level else none
  briefInfo _ := none

/-- A role of the first player. -/
def firstRole : Role :=
  { zeroRole with player := 1, roleId := 1 }

theorem derived_attributes_of_three :
    FollowsBases (modifyEach smallRes.toSceneRes firstRole
      [⟨sceneAt 1, .strAttPercent, 1500⟩, ⟨sceneAt 2, .str, 300⟩,
        ⟨sceneAt 2, .initiativeLaw, 5⟩]).attributes := by
  refine (derived_attributes (fun _ => rfl) ?_).1
  intro call hcall
  simp only [List.mem_cons, List.not_mem_nil, or_false] at hcall
  obtain rfl | rfl | rfl := hcall
  all_goals
    intro hderived
    obtain ⟨c, hc⟩ | hc := hderived
    · cases c <;> cases hc
    · cases hc

/-- **The attack is one less** than a base of 100 and a percentage of 15 make: 0.15 and 1 are 1.15
    less a bit as doubles. -/
theorem attack_one_less :
    let f := (modifyEach smallRes.toSceneRes firstRole
      [⟨sceneAt 1, .strAttBase, 100⟩, ⟨sceneAt 1, .strAttPercent, 1500⟩]).attributes
    f .strAttBase = 100 ∧ f .strAttPercent = 1500 ∧ (f .strAttack).toInt = 114 ∧
      (exactProduct f .strAttack).tdiv 10000 = 115 := by
  decide +kernel

end Steppingstone.Level
