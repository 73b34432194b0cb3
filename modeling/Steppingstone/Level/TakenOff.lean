/-
  Steppingstone.Level.TakenOff — a bonus that is taken off again.

  A change by `v` and one by `-v` make opposite changes of the free attributes.  Three things can
  still be left: a rank is converted with the level at each call; the product of a strength and its
  ratio can be the one `int` that has no opposite; and a computed attribute that was changed itself
  is forgotten when its base or its percentage changes.
-/
import Steppingstone.Level.Derived

namespace Steppingstone.Level

variable {attr a : RoleAttrType} {value : Int32}

/-! ## §1. Opposite changes. -/

/-- The same changes by the opposite amounts. -/
def opposite (chs : List (RoleAttrType × Int32)) : List (RoleAttrType × Int32) :=
  chs.map fun ch => (ch.1, -ch.2)

theorem total_opposite (chs : List (RoleAttrType × Int32)) (a : RoleAttrType) :
    total chs a + total (opposite chs) a = 0 := by
  induction chs with
  | nil => rfl
  | cons ch chs ih =>
      show total (ch :: chs) a + total ((ch.1, -ch.2) :: opposite chs) a = 0
      rw [total_cons, total_cons]
      by_cases hch : ch.1 = a
      · rw [if_pos hch, if_pos hch]
        grind
      · rw [if_neg hch, if_neg hch, Int32.zero_add, Int32.zero_add]
        exact ih

theorem renewed_opposite (c : Computed) (chs : List (RoleAttrType × Int32)) :
    c.Renewed (opposite chs) ↔ c.Renewed chs := by
  unfold Computed.Renewed opposite
  constructor
  · intro h
    obtain ⟨_, hch, hfeeds⟩ := h
    obtain ⟨ch, hmem, rfl⟩ := List.mem_map.mp hch
    exact ⟨ch, hmem, hfeeds⟩
  · intro h
    obtain ⟨ch, hmem, hfeeds⟩ := h
    exact ⟨_, List.mem_map.mpr ⟨ch, hmem, rfl⟩, hfeeds⟩

theorem neg_of_toInt {v w : Int32} (h : w.toInt = -v.toInt) : w = -v := by
  rw [← Int32.ofInt_toInt w, h, Int32.ofInt_neg, Int32.ofInt_toInt]

/-- Only the smallest `int` has no opposite. -/
theorem toInt_neg_of_ne {x : Int32} (h : x ≠ Int32.minValue) : (-x).toInt = -x.toInt := by
  have hne : x.toInt ≠ -2 ^ 31 := fun he => h (Int32.toInt_inj.mp he)
  have hlow : -2 ^ 31 ≤ x.toInt := x.le_toInt
  have hhigh : x.toInt < 2 ^ 31 := x.toInt_lt
  rw [Int32.toInt_neg]
  exact Int.bmod_eq_of_le (by omega) (by omega)

/-- **An opposite amount is divided to the opposite**, unless the product is the smallest `int`. -/
theorem tenThousandths_neg_iff (v ratio : Int32) :
    tenThousandths (-v) ratio = -tenThousandths v ratio ↔ v * ratio ≠ Int32.minValue := by
  have hmul : -v * ratio = -(v * ratio) := by grind
  unfold tenThousandths
  rw [hmul]
  constructor
  · intro h hmin
    rw [hmin] at h
    exact absurd h (by decide)
  · intro h
    rw [toInt_neg_of_ne h, Int.neg_tdiv, Int32.ofInt_neg]

/-- The bases that an attribute makes, and the ratios of them. -/
def RoleAttrType.parts (war : WarInitResInfo) : RoleAttrType → List (RoleAttrType × Int32)
  | .str => [(.strAttBase, war.strAtt), (.strDefBase, war.strDef)]
  | .agi => [(.agiAttBase, war.agiAtt), (.agiDefBase, war.agiDef)]
  | .int => [(.intAttBase, war.intAtt), (.intDefBase, war.intDef)]
  | _ => []

/-- No product of the amount and a ratio is the smallest `int`. -/
def Divides (res : SceneRes) (a : RoleAttrType) (v : Int32) : Prop :=
  ∀ part ∈ a.parts res.war, v * part.2 ≠ Int32.minValue

theorem divides_of_calls (res : SceneRes) (h : a.calls < 2) (v : Int32) : Divides res a v := by
  intro part hpart
  cases a with
  | str | agi | int => exact absurd h (by decide)
  | _ => cases hpart

/-- The calls inside are opposite; only strength, agility and intelligence divide. -/
theorem innerCalls_opposite (res : SceneRes) (level : UInt32) (hrank : attr.isRank = false)
    (h : Divides res attr value) :
    innerCalls res level attr (-value) = opposite (innerCalls res level attr value) := by
  have hmul : ∀ x : Int32, -value * x = -(value * x) := fun x => by grind
  unfold innerCalls
  split
  case h_1 | h_2 | h_3 =>
    have hatt := (tenThousandths_neg_iff value _).mpr (h _ List.mem_cons_self)
    have hdef := (tenThousandths_neg_iff value _).mpr
      (h _ (List.mem_cons_of_mem _ List.mem_cons_self))
    rw [hatt, hdef, hmul]
    rfl
  case h_25 => rfl
  all_goals first | rfl | cases hrank

/-- **Opposite calls make opposite changes**, unless the attribute is a rank. -/
theorem changes_opposite (res : SceneRes) (level : UInt32) (depth : Nat)
    (hrank : attr.isRank = false) (h : Divides res attr value) :
    changes res level depth attr (-value) = opposite (changes res level depth attr value) := by
  induction depth generalizing attr value with
  | zero => rfl
  | succ depth ih =>
      unfold changes
      by_cases hvalue : value = 0
      · rw [hvalue, if_pos rfl, if_pos (by decide)]
        rfl
      · have hneg : -value ≠ 0 := by
          intro hzero
          exact hvalue (by grind)
        rw [if_neg hvalue, if_neg hneg, innerCalls_opposite res level hrank h]
        have hinner : ∀ call ∈ innerCalls res level attr value,
            changes res level depth call.1 (-call.2)
              = opposite (changes res level depth call.1 call.2) := by
          intro call hcall
          have hlt := calls_lt_of_mem hcall
          have hattr := calls_lt attr
          exact ih (innerCalls_isFree hcall).2 (divides_of_calls res (by omega) call.2)
        generalize innerCalls res level attr value = calls at hinner ⊢
        unfold opposite
        rw [List.map_append, List.map_flatMap, List.flatMap_map]
        congr 1
        exact List.flatMap_congr fun call hcall => hinner call hcall

/-! ## §2. Ranks. -/

/-- The rate that a rank is converted to. -/
def RoleAttrType.rate : RoleAttrType → RoleAttrType
  | .criticalRank => .critical
  | .criticalMultipleRank => .criticalMultiple
  | .blockRank => .block
  | .blockDefenceMultipleRank => .blockDefenceMultiple
  | .strikeBackRank => .strikeBack
  | .hitRank => .hit
  | .dodgeRank => .dodge
  | .multiHitRank => .multiHit
  | .unionHitRank => .unionHit
  | .multiHitAddiRank => .multiHitAddi
  | .unionHitAddiRank => .unionHitAddi
  | .uncriticalRank => .uncritical
  | .unblockRank => .unblock
  | a => a

theorem innerCalls_rank (res : SceneRes) (level : UInt32) (value : Int32)
    (h : a.isRank = true) :
    innerCalls res level a value = [(a.rate, convertRank res level value)] := by
  cases a <;> first | rfl | cases h

/-- A rate is a free attribute that calls nothing, and another one than the rank. -/
theorem rate_free (h : a.isRank = true) :
    a.rate.isFree = true ∧ a.rate ≠ a ∧
      ∀ res level value, innerCalls res level a.rate value = [] := by
  cases a <;> first
    | exact ⟨rfl, by decide, fun _ _ _ => rfl⟩
    | cases h

theorem rank_not_feeds (c : Computed) (h : a.isRank = true) :
    ¬ c.Feeds a ∧ ¬ c.Feeds a.rate := by
  constructor
  · intro hfeeds
    obtain rfl | rfl := hfeeds
    all_goals cases c <;> cases h
  · intro hfeeds
    have hne : a.rate ≠ c.base ∧ a.rate ≠ c.percent := by
      cases a <;> first
        | (cases c <;> exact ⟨by decide, by decide⟩)
        | cases h
    exact hfeeds.elim hne.1 hne.2

theorem convertRank_zero (res : SceneRes) (level : UInt32) : convertRank res level 0 = 0 := by
  unfold convertRank
  simp

/-- An attribute that calls nothing makes one change. -/
theorem total_leaf {res : SceneRes} {level : UInt32} (h : innerCalls res level a value = [])
    (depth : Nat) (x : RoleAttrType) :
    total (changes res level (depth + 1) a value) x = if a = x then value else 0 := by
  unfold changes
  rw [h]
  by_cases hvalue : value = 0
  · rw [if_pos hvalue, hvalue, ite_self]
    rfl
  · rw [if_neg hvalue, List.flatMap_nil, List.nil_append, total_cons]
    exact Int32.add_zero _

/-- The changes of a rank: its rate, and itself. -/
theorem total_rank (res : SceneRes) (level : UInt32) (value : Int32) (h : a.isRank = true)
    (x : RoleAttrType) : total (changes res level 3 a value) x =
      (if a.rate = x then convertRank res level value else 0) + if a = x then value else 0 := by
  obtain ⟨-, -, hleaf⟩ := rate_free h
  show total (changes res level (2 + 1) a value) x = _
  unfold changes
  by_cases hvalue : value = 0
  · rw [if_pos hvalue, hvalue, convertRank_zero, ite_self, ite_self]
    rfl
  · rw [if_neg hvalue, innerCalls_rank res level value h, List.flatMap_singleton, total_append,
      total_leaf (hleaf ..), total_cons]
    congr 1
    exact Int32.add_zero _

/-- A strength changes its bases by its parts; what else it changes is no base. -/
theorem total_part {res : SceneRes} {level : UInt32} {part : RoleAttrType × Int32}
    (h : part ∈ a.parts res.war) (value : Int32) :
    total (changes res level 3 a value) part.1 = tenThousandths value part.2 := by
  have heducate : ∀ v x, x ≠ .initiativeAll → x ≠ .initiativeEducate →
      total (changes res level 2 .initiativeEducate v) x = 0 := by
    intro v x hall hself
    apply total_of_not_mem
    intro ch hch
    unfold changes at hch
    by_cases hv : v = 0
    · rw [if_pos hv] at hch
      cases hch
    · rw [if_neg hv] at hch
      obtain hch | hch := List.mem_append.mp hch
      · obtain ⟨call, hcall, hmem⟩ := List.mem_flatMap.mp hch
        obtain rfl : call = (.initiativeAll, v) := List.mem_singleton.mp hcall
        obtain heq | ⟨-, hless⟩ := mem_changes hmem
        · exact heq ▸ hall.symm
        · cases hless
      · rw [List.mem_singleton.mp hch]
        exact hself.symm
  show total (changes res level (2 + 1) a value) part.1 = _
  unfold changes
  by_cases hvalue : value = 0
  · have hzero : ∀ ratio : Int32, (0 : Int32) * ratio = 0 := fun ratio => by grind
    rw [if_pos hvalue, hvalue]
    unfold tenThousandths
    rw [hzero]
    rfl
  · rw [if_neg hvalue]
    cases a with
    | str | agi | int =>
        obtain rfl | rfl : _ ∨ _ := by simpa [RoleAttrType.parts] using h
        all_goals
          simp only [innerCalls, List.flatMap_cons, List.flatMap_nil, total_append, total_cons]
          rw [total_leaf rfl, total_leaf rfl, heducate _ _ (by decide) (by decide)]
          simp [total]
    | _ => cases h

theorem renewed_rank (res : SceneRes) (level : UInt32) (value : Int32) (c : Computed)
    (h : a.isRank = true) : ¬ c.Renewed (changes res level 3 a value) := by
  intro hr
  obtain ⟨ch, hch, hfeeds⟩ := hr
  have hmem : ch.1 = a ∨ ch.1 = a.rate := by
    unfold changes at hch
    by_cases hvalue : value = 0
    · rw [if_pos hvalue] at hch
      cases hch
    · rw [if_neg hvalue, innerCalls_rank res level value h, List.flatMap_singleton] at hch
      obtain hch | hch := List.mem_append.mp hch
      · obtain heq | ⟨hfree, hless⟩ := mem_changes hch
        · exact .inr heq
        · -- a rate calls nothing
          have hzero : a.rate.calls = 0 := by
            cases a <;> first | rfl | cases h
          have hlt : ch.1.calls < a.rate.calls := hless
          omega
      · rw [List.mem_singleton.mp hch]
        exact .inl rfl
  obtain ⟨hself, hrate⟩ := rank_not_feeds c h
  obtain heq | heq := hmem
  · exact hself (heq ▸ hfeeds)
  · exact hrate (heq ▸ hfeeds)

/-! ## §3. The pair. -/

section Pair

variable (res : SceneRes) (l₁ l₂ : UInt32) {v w : Int32}

/-- A pair that is not a rank makes opposite changes, at whatever levels. -/
theorem changes_pair (hrank : a.isRank = false) (hw : w.toInt = -v.toInt)
    (hdivides : Divides res a v) :
    changes res l₂ 3 a w = opposite (changes res l₁ 3 a v) := by
  have hneg := neg_of_toInt hw
  have hlevel : ∀ depth a w, a.isRank = false →
      changes res l₂ depth a w = changes res l₁ depth a w := by
    intro depth
    induction depth with
    | zero => intro a w _; rfl
    | succ depth ih =>
        intro a w hrank
        unfold changes
        rw [innerCalls_level res l₂ l₁ w hrank]
        have hinner : (innerCalls res l₁ a w).flatMap (fun call => changes res l₂ depth call.1 call.2)
            = (innerCalls res l₁ a w).flatMap (fun call => changes res l₁ depth call.1 call.2) :=
          List.flatMap_congr fun call hcall => ih call.1 call.2 (innerCalls_isFree hcall).2
        rw [hinner]
  rw [hlevel 3 a w hrank, hneg]
  exact changes_opposite res l₁ 3 hrank hdivides

/-- The pair converts a rank to opposite amounts, and divides a strength to opposite ones. -/
structure OppositeAmounts (res : SceneRes) (l₁ l₂ : UInt32) (a : RoleAttrType) (v w : Int32) :
    Prop where
  rank : a.isRank = true → convertRank res l₂ w = -convertRank res l₁ v
  divides : Divides res a v

/-- **What the pair leaves of the free attributes**: nothing, if the amounts are opposite. -/
theorem pair_free_iff (hw : w.toInt = -v.toInt) :
    (∀ x, x.isFree = true →
        total (changes res l₁ 3 a v) x + total (changes res l₂ 3 a w) x = 0) ↔
      OppositeAmounts res l₁ l₂ a v w := by
  have hneg := neg_of_toInt hw
  cases hrank : a.isRank with
  | false =>
      constructor
      · intro h
        refine ⟨fun hr => absurd (hrank.symm.trans hr) Bool.false_ne_true, fun part hpart => ?_⟩
        have hbase : part.1.isFree = true := by
          cases a with
          | str | agi | int =>
              obtain rfl | rfl : _ ∨ _ := by simpa [RoleAttrType.parts] using hpart
              all_goals rfl
          | _ => cases hpart
        have hsum := h part.1 hbase
        rw [total_part hpart, total_part hpart, hneg] at hsum
        exact (tenThousandths_neg_iff v part.2).mp (by grind)
      · intro h x _
        rw [changes_pair res l₁ l₂ hrank hw h.divides]
        exact total_opposite _ x
  | true =>
      obtain ⟨hfree, hne, -⟩ := rate_free hrank
      have hdivides : Divides res a v := by
        apply divides_of_calls
        cases a <;> first | decide | cases hrank
      constructor
      · intro h
        refine ⟨fun _ => ?_, hdivides⟩
        have hrate := h a.rate hfree
        rw [total_rank res l₁ v hrank, total_rank res l₂ w hrank, if_pos rfl, if_pos rfl,
          if_neg hne.symm, if_neg hne.symm] at hrate
        grind
      · intro h x _
        rw [total_rank res l₁ v hrank, total_rank res l₂ w hrank, h.rank hrank, hneg]
        by_cases hx : a.rate = x
        · have hx' : ¬ a = x := fun he => hne (hx.trans he.symm)
          rw [if_pos hx, if_pos hx, if_neg hx', if_neg hx']
          grind
        · rw [if_neg hx, if_neg hx]
          by_cases hx' : a = x
          · rw [if_pos hx', if_pos hx']
            grind
          · rw [if_neg hx', if_neg hx']
            rfl

/-- Both calls of the pair compute the same attributes again. -/
theorem renewed_pair (c : Computed) (hw : w.toInt = -v.toInt) (hdivides : Divides res a v) :
    c.Renewed (changes res l₂ 3 a w) ↔ c.Renewed (changes res l₁ 3 a v) := by
  cases hrank : a.isRank with
  | false =>
      rw [changes_pair res l₁ l₂ hrank hw hdivides]
      exact renewed_opposite c _
  | true => exact iff_of_false (renewed_rank res l₂ w c hrank) (renewed_rank res l₁ v c hrank)

/-- Changes of others: the drift is forgotten, or it stays. -/
theorem foldl_driftAfter_others {c : Computed} {chs : List (RoleAttrType × Int32)}
    (h : ∀ ch ∈ chs, ch.1 ≠ c.attr) (d : Int32) :
    (c.Renewed chs → chs.foldl c.driftAfter d = 0) ∧
      (¬ c.Renewed chs → chs.foldl c.driftAfter d = d) := by
  constructor
  · intro hr
    rw [foldl_driftAfter_of_renewed hr d 0]
    exact foldl_driftAfter_zero h
  · intro hr
    rw [foldl_driftAfter_of_not hr, total_of_not_mem h, Int32.add_zero]

theorem foldl_driftAfter_self (c : Computed) (level : UInt32) (v d : Int32) :
    (changes res level 3 c.attr v).foldl c.driftAfter d = d + v := by
  rw [changes_of_not_free 2 c.isFree_attr]
  by_cases hv : v = 0
  · rw [if_pos hv, hv, Int32.add_zero]
    rfl
  · rw [if_neg hv]
    show c.driftAfter d (c.attr, v) = d + v
    unfold Computed.driftAfter
    rw [if_neg (c.not_feeds_attr c), if_pos rfl]

/-- **What the pair leaves of a computed attribute.** -/
theorem pair_drift_iff (hw : w.toInt = -v.toInt) (hdivides : Divides res a v) (c : Computed)
    (between : List (RoleAttrType × Int32)) (d : Int32) :
    (changes res l₂ 3 a w).foldl c.driftAfter
        (between.foldl c.driftAfter ((changes res l₁ 3 a v).foldl c.driftAfter d))
      = between.foldl c.driftAfter d ↔
    (a = c.attr → v ≠ 0 → ¬ c.Renewed between) ∧
      (c.Renewed (changes res l₁ 3 a v) → between.foldl c.driftAfter d = 0) := by
  have hneg := neg_of_toInt hw
  by_cases ha : a = c.attr
  · -- the attribute itself
    subst ha
    have hnever : ¬ c.Renewed (changes res l₁ 3 c.attr v) := by
      intro hr
      obtain ⟨ch, hch, hfeeds⟩ := hr
      obtain heq | ⟨-, hless⟩ := mem_changes hch
      · exact c.not_feeds_attr c (heq ▸ hfeeds)
      · cases c <;> cases hless
    rw [foldl_driftAfter_self, foldl_driftAfter_self, hneg]
    by_cases hbetween : c.Renewed between
    · -- the first change is forgotten, the second is not
      rw [foldl_driftAfter_of_renewed hbetween (d + v) d]
      constructor
      · intro h
        have hv : v = 0 := by grind
        exact ⟨fun _ hne => absurd hv hne, fun hr => absurd hr hnever⟩
      · intro h
        by_cases hv : v = 0
        · rw [hv]
          grind
        · exact absurd hbetween (h.1 rfl hv)
    · refine iff_of_true ?_ ⟨fun _ _ => hbetween, fun hr => absurd hr hnever⟩
      rw [foldl_driftAfter_of_not hbetween, foldl_driftAfter_of_not hbetween]
      grind
  · have hfirst := foldl_driftAfter_others (changes_ne_attr ha res l₁ 3 v)
    have hsecond := foldl_driftAfter_others (changes_ne_attr ha res l₂ 3 w)
    -- another attribute: both changes renew the value, or none does
    have hboth : c.Renewed (changes res l₂ 3 a w) ↔ c.Renewed (changes res l₁ 3 a v) :=
      renewed_pair res l₁ l₂ c hw hdivides
    by_cases hr : c.Renewed (changes res l₁ 3 a v)
    · rw [(hsecond _).1 (hboth.mpr hr)]
      constructor
      · intro h
        exact ⟨fun he => absurd he ha, fun _ => h.symm⟩
      · intro h
        exact (h.2 hr).symm
    · rw [(hsecond _).2 fun h => hr (hboth.mp h), (hfirst d).2 hr]
      exact iff_of_true rfl ⟨fun he => absurd he ha, fun h => absurd h hr⟩

end Pair

/-! ## §4. Taken off again. -/

/-- The pair of calls leaves no trace: the amounts that a rank or a strength is converted to are
    opposite; a computed attribute is not computed again between changes of itself; and one that
    the pair computes again has no drift that would be forgotten. -/
structure TakenOff (res : SceneRes) (role : Role) (l₁ l₂ : UInt32) (a : RoleAttrType)
    (v w : Int32) (between : List RoleCall) : Prop where
  amounts : OppositeAmounts res l₁ l₂ a v w
  itself : ∀ c : Computed, a = c.attr → v ≠ 0 →
    ¬ c.Renewed (allChanges res role.player between)
  noDrift : ∀ c : Computed, c.Renewed (changes res l₁ 3 a v) →
    (allChanges res role.player between).foldl c.driftAfter (drift role.attributes c) = 0

/-- Equal attributes, but for the current hit points: equal free ones and equal drifts. -/
theorem attributes_eq_iff (f g : RoleAttrType → Int32) :
    (∀ x, x ≠ .currHp → f x = g x) ↔
      (∀ x, x.isFree = true → f x = g x) ∧ ∀ c, drift f c = drift g c := by
  constructor
  · intro h
    have hattr : ∀ c : Computed, f c.attr = g c.attr := by
      intro c
      exact h _ fun he => by cases c <;> cases he
    have hfree : ∀ x, x.isFree = true → f x = g x := fun x hx => h x (ne_of_isFree hx rfl)
    refine ⟨hfree, ?_⟩
    intro c
    unfold drift
    rw [hattr c, hfree _ c.isFree_base, hfree _ c.isFree_percent]
  · intro h x hx
    obtain ⟨hfree, hdrift⟩ := h
    obtain hf | ⟨c, rfl⟩ | hcurr := isFree_or_computed x
    · exact hfree x hf
    · have hc := hdrift c
      unfold drift at hc
      rw [hfree _ c.isFree_base, hfree _ c.isFree_percent] at hc
      grind
    · exact absurd hcurr hx

/-- Resources with a ratio of 8192 ten-thousandths. -/
def wideRes : SceneRes :=
  { smallRes.toSceneRes with war := { smallRes.war with strAtt := 8192 } }

end Steppingstone.Level
