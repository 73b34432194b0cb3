/-
  Steppingstone.Level.Changes — a call of `modifyRoleAttr` as a list of single changes.

  The calls inside come first, and none of them touches the attribute that is changed last; so a
  call is the list of the single changes that it makes, one after the other.  A free attribute gets
  the sum of its changes.  A computed attribute is that of its base and percentage, up to a drift
  that only changes of itself make and that every change of its base or percentage ends.
-/
import Steppingstone.Level.PathFree

namespace Steppingstone.Level

variable {attr a : RoleAttrType} {value : Int32}

/-! ## §1. The changes of a call. -/

/-- The changes that a call makes, those of the calls inside first; a call by 0 makes none. -/
def changes (res : SceneRes) (level : UInt32) :
    (depth : Nat) → RoleAttrType → Int32 → List (RoleAttrType × Int32)
  | 0, _, _ => []
  | depth + 1, attr, value =>
      if value = 0 then []
      else (innerCalls res level attr value).flatMap
        (fun call => changes res level depth call.1 call.2) ++ [(attr, value)]

/-- One change of an attribute, without calls inside. -/
def Role.change (role : Role) (ch : RoleAttrType × Int32) : Role :=
  { (role.compute ch.1 (role.attributes ch.1 + ch.2)).setAttributes ch.1
      (role.attributes ch.1 + ch.2) with updateFightPower := 0 }

/-- What the changes add to an attribute. -/
def total (chs : List (RoleAttrType × Int32)) (a : RoleAttrType) : Int32 :=
  (chs.map fun ch => if ch.1 = a then ch.2 else 0).sum

/-- The total with one change more. -/
theorem total_cons (ch : RoleAttrType × Int32) (chs : List (RoleAttrType × Int32))
    (a : RoleAttrType) : total (ch :: chs) a = (if ch.1 = a then ch.2 else 0) + total chs a := by
  unfold total
  rw [List.map_cons, List.sum_cons]

/-- The total of two lists. -/
theorem total_append (chs chs' : List (RoleAttrType × Int32)) (a : RoleAttrType) :
    total (chs ++ chs') a = total chs a + total chs' a := by
  induction chs with
  | nil => exact (Int32.zero_add _).symm
  | cons ch chs ih =>
      rw [List.cons_append, total_cons, total_cons, ih]
      exact (Int32.add_assoc ..).symm

/-- The order of the changes does not matter for the sum. -/
theorem total_perm {chs chs' : List (RoleAttrType × Int32)} (h : chs.Perm chs')
    (a : RoleAttrType) : total chs a = total chs' a := by
  induction h with
  | nil => rfl
  | cons ch _ ih => rw [total_cons, total_cons, ih]
  | swap ch ch' chs =>
      rw [total_cons, total_cons, total_cons, total_cons]
      grind
  | trans _ _ ih ih' => exact ih.trans ih'

theorem total_of_not_mem {chs : List (RoleAttrType × Int32)} (h : ∀ ch ∈ chs, ch.1 ≠ a) :
    total chs a = 0 := by
  induction chs with
  | nil => rfl
  | cons ch chs ih =>
      rw [total_cons, if_neg (h ch List.mem_cons_self),
        ih fun c hc => h c (List.mem_cons_of_mem _ hc)]
      rfl

/-- A call changes its attribute, and free ones that call less. -/
theorem mem_changes {res : SceneRes} {level : UInt32} {depth : Nat}
    {ch : RoleAttrType × Int32} (h : ch ∈ changes res level depth attr value) :
    ch.1 = attr ∨ (ch.1.isFree = true ∧ ch.1.calls < attr.calls) := by
  induction depth generalizing attr value with
  | zero => cases h
  | succ depth ih =>
      unfold changes at h
      by_cases hvalue : value = 0
      · rw [if_pos hvalue] at h
        cases h
      · rw [if_neg hvalue] at h
        obtain h | h := List.mem_append.mp h
        · obtain ⟨call, hcall, hch⟩ := List.mem_flatMap.mp h
          have hlt := calls_lt_of_mem hcall
          right
          obtain heq | ⟨hfree, hless⟩ := ih hch
          · rw [heq]
            exact ⟨(innerCalls_isFree hcall).1, hlt⟩
          · exact ⟨hfree, by omega⟩
        · rw [List.mem_singleton.mp h]
          exact .inl rfl

/-- Only a free attribute calls. -/
theorem innerCalls_of_not_free {res : SceneRes} {level : UInt32} (h : attr.isFree = false) :
    innerCalls res level attr value = [] := by
  unfold innerCalls
  split <;> first | rfl | cases h

/-- A computed attribute changes alone. -/
theorem changes_of_not_free {res : SceneRes} {level : UInt32} (depth : Nat)
    (h : attr.isFree = false) :
    changes res level (depth + 1) attr value = if value = 0 then [] else [(attr, value)] := by
  unfold changes
  rw [innerCalls_of_not_free h]
  rfl

/-! ## §2. Free attributes. -/

theorem change_isFree (role : Role) (ch : RoleAttrType × Int32) (ha : a.isFree = true) :
    (role.change ch).attributes a = role.attributes a + if ch.1 = a then ch.2 else 0 := by
  show ((role.compute ch.1 (role.attributes ch.1 + ch.2)).setAttributes ch.1
    (role.attributes ch.1 + ch.2)).attributes a = _
  by_cases he : ch.1 = a
  · rw [if_pos he, ← he]
    exact setAttributes_self ..
  · rw [if_neg he, Int32.add_zero]
    exact (setAttributes_of_ne _ _ (Ne.symm he)).trans (compute_of_isFree _ _ _ ha)

/-- **A free attribute** gets the sum of its changes. -/
theorem foldl_change_isFree (role : Role) (chs : List (RoleAttrType × Int32))
    (ha : a.isFree = true) :
    (chs.foldl Role.change role).attributes a = role.attributes a + total chs a := by
  induction chs generalizing role with
  | nil => exact (Int32.add_zero _).symm
  | cons ch chs ih =>
      rw [List.foldl_cons, ih, change_isFree role ch ha, total_cons]
      exact Int32.add_assoc ..

/-- The calls inside leave the attribute that is changed last. -/
theorem foldl_inner (res : SceneRes) (level : UInt32) (depth : Nat) (role : Role)
    (attr : RoleAttrType) (value : Int32) :
    (((innerCalls res level attr value).flatMap
      fun call => changes res level depth call.1 call.2).foldl Role.change role).attributes attr
      = role.attributes attr := by
  cases hfree : attr.isFree with
  | false => rw [innerCalls_of_not_free hfree]; rfl
  | true =>
      have hother : ∀ ch ∈ (innerCalls res level attr value).flatMap
          (fun call => changes res level depth call.1 call.2), ch.1 ≠ attr := by
        intro ch hch heq
        obtain ⟨call, hcall, hmem⟩ := List.mem_flatMap.mp hch
        have hlt := calls_lt_of_mem hcall
        obtain hsame | ⟨-, hless⟩ := mem_changes hmem
        · rw [← hsame, heq] at hlt
          omega
        · rw [heq] at hless
          omega
      rw [foldl_change_isFree role _ hfree, total_of_not_mem hother, Int32.add_zero]

/-- **A call is its changes.** -/
theorem modifyWithin_eq_changes (res : SceneRes) (level : UInt32) (depth : Nat) (role : Role)
    (attr : RoleAttrType) (value : Int32) :
    modifyWithin res (some level) depth role attr value
      = (changes res level depth attr value).foldl Role.change role := by
  induction depth generalizing role attr value with
  | zero => rfl
  | succ depth ih =>
      rw [modifyWithin_succ]
      unfold changes
      by_cases hvalue : value = 0
      · rw [if_pos hvalue, if_pos hvalue]
        rfl
      · rw [if_neg hvalue, if_neg hvalue, List.foldl_append]
        have hkept := foldl_inner res level depth role attr value
        rw [List.foldl_flatMap] at hkept ⊢
        simp only [ih]
        generalize (innerCalls res level attr value).foldl _ role = inner at hkept ⊢
        rw [← hkept]
        rfl

/-! ## §3. Computed attributes. -/

/-- How far a computed attribute is from that of its base and percentage. -/
def drift (f : RoleAttrType → Int32) (c : Computed) : Int32 :=
  f c.attr - scaled (f c.base) (f c.percent)

/-- Is the attribute the base or the percentage? -/
def Computed.Feeds (c : Computed) (a : RoleAttrType) : Prop :=
  a = c.base ∨ a = c.percent

instance feedsDecidable (c : Computed) (a : RoleAttrType) : Decidable (c.Feeds a) :=
  inferInstanceAs (Decidable (a = c.base ∨ a = c.percent))

/-- The drift after a change. -/
def Computed.driftAfter (c : Computed) (d : Int32) (ch : RoleAttrType × Int32) : Int32 :=
  if c.Feeds ch.1 then 0 else if ch.1 = c.attr then d + ch.2 else d

theorem Computed.feeds_isFree {c : Computed} (h : c.Feeds a) : a.isFree = true := by
  obtain rfl | rfl := h
  · exact c.isFree_base
  · exact c.isFree_percent

theorem Computed.not_feeds_attr (c c' : Computed) : ¬ c.Feeds c'.attr := by
  intro h
  have hfree := feeds_isFree h
  rw [c'.isFree_attr] at hfree
  cases hfree

/-- A change of something else leaves a computed attribute. -/
theorem change_of_ne (role : Role) {c : Computed} {ch : RoleAttrType × Int32}
    (hfeeds : ¬ c.Feeds ch.1) (hne : ch.1 ≠ c.attr) :
    (role.change ch).attributes c.attr = role.attributes c.attr :=
  (setAttributes_of_ne _ _ (Ne.symm hne)).trans
    (compute_of_ne role _ (fun h => hfeeds (.inl h)) fun h => hfeeds (.inr h))

/-- A direct change of a computed attribute. -/
theorem change_attr (role : Role) (c : Computed) (value : Int32) :
    (role.change (c.attr, value)).attributes c.attr = role.attributes c.attr + value :=
  setAttributes_self ..

/-- A change of what it is computed from computes it anew. -/
theorem change_feeds (role : Role) {c : Computed} {ch : RoleAttrType × Int32}
    (hfeeds : c.Feeds ch.1) :
    (role.change ch).attributes c.attr
      = scaled ((role.change ch).attributes c.base) ((role.change ch).attributes c.percent) := by
  have hne : c.attr ≠ ch.1 := by
    intro h
    exact c.not_feeds_attr c (h ▸ hfeeds)
  have hother : c.percent ≠ c.base := by
    cases c <;> exact fun h => by cases h
  have hset : (role.change ch).attributes c.attr
      = (role.compute ch.1 (role.attributes ch.1 + ch.2)).attributes c.attr :=
    setAttributes_of_ne _ _ hne
  rw [hset, change_isFree role ch c.isFree_base, change_isFree role ch c.isFree_percent]
  obtain hbase | hpercent := hfeeds
  · rw [hbase, if_pos rfl, if_neg hother.symm, Int32.add_zero]
    exact compute_base role c _
  · rw [hpercent, if_neg hother, if_pos rfl, Int32.add_zero]
    exact compute_percent role c _

/-- How a change drives it away from what it should be. -/
theorem drift_change (role : Role) (c : Computed) (ch : RoleAttrType × Int32) :
    drift (role.change ch).attributes c = c.driftAfter (drift role.attributes c) ch := by
  unfold Computed.driftAfter
  by_cases hfeeds : c.Feeds ch.1
  · rw [if_pos hfeeds]
    unfold drift
    rw [change_feeds role hfeeds]
    exact Int32.sub_self _
  · have hbase : ch.1 ≠ c.base := fun h => hfeeds (.inl h)
    have hpercent : ch.1 ≠ c.percent := fun h => hfeeds (.inr h)
    rw [if_neg hfeeds]
    unfold drift
    rw [change_isFree role ch c.isFree_base, change_isFree role ch c.isFree_percent, if_neg hbase,
      if_neg hpercent, Int32.add_zero, Int32.add_zero]
    by_cases hattr : ch.1 = c.attr
    · obtain ⟨x, value⟩ := ch
      obtain rfl : x = c.attr := hattr
      rw [if_pos rfl, change_attr]
      grind
    · rw [if_neg hattr, change_of_ne role hfeeds hattr]

/-- **The drift** after changes. -/
theorem drift_foldl (role : Role) (c : Computed) (chs : List (RoleAttrType × Int32)) :
    drift (chs.foldl Role.change role).attributes c
      = chs.foldl c.driftAfter (drift role.attributes c) := by
  induction chs generalizing role with
  | nil => rfl
  | cons ch chs ih => rw [List.foldl_cons, List.foldl_cons, ih, drift_change]

/-- Is the computed attribute computed again? -/
def Computed.Renewed (c : Computed) (chs : List (RoleAttrType × Int32)) : Prop :=
  ∃ ch ∈ chs, c.Feeds ch.1

/-- Computing it again forgets the drift before. -/
theorem foldl_driftAfter_of_renewed {c : Computed} {chs : List (RoleAttrType × Int32)}
    (h : c.Renewed chs) (d d' : Int32) :
    chs.foldl c.driftAfter d = chs.foldl c.driftAfter d' := by
  induction chs generalizing d d' with
  | nil =>
      obtain ⟨ch, hch, -⟩ := h
      cases hch
  | cons ch chs ih =>
      rw [List.foldl_cons, List.foldl_cons]
      by_cases hrest : c.Renewed chs
      · exact ih hrest _ _
      · -- the first change computes it
        have hfeeds : c.Feeds ch.1 := by
          obtain ⟨ch', hmem, hfeeds⟩ := h
          obtain rfl | hmem := List.mem_cons.mp hmem
          · exact hfeeds
          · exact absurd ⟨ch', hmem, hfeeds⟩ hrest
        unfold Computed.driftAfter
        rw [if_pos hfeeds, if_pos hfeeds]

/-- Otherwise the drift grows by the changes of the attribute itself. -/
theorem foldl_driftAfter_of_not {c : Computed} {chs : List (RoleAttrType × Int32)}
    (h : ¬ c.Renewed chs) (d : Int32) :
    chs.foldl c.driftAfter d = d + total chs c.attr := by
  induction chs generalizing d with
  | nil => exact (Int32.add_zero d).symm
  | cons ch chs ih =>
      have hfeeds : ¬ c.Feeds ch.1 := fun hf => h ⟨ch, List.mem_cons_self, hf⟩
      have hrest : ¬ c.Renewed chs := by
        intro hr
        obtain ⟨ch', hmem, hf⟩ := hr
        exact h ⟨ch', List.mem_cons_of_mem _ hmem, hf⟩
      rw [List.foldl_cons, ih hrest, total_cons]
      unfold Computed.driftAfter
      rw [if_neg hfeeds]
      by_cases hattr : ch.1 = c.attr
      · rw [if_pos hattr, if_pos hattr]
        exact Int32.add_assoc ..
      · rw [if_neg hattr, if_neg hattr, Int32.zero_add]

/-! ## §4. Sequences of calls. -/

/-- A call of `modifyRoleAttr`, with the scene it is made in. -/
structure RoleCall where
  scene : SceneImp
  attr : RoleAttrType
  value : Int32

/-- The changes that the call makes to a role of the player. -/
def RoleCall.changes (res : SceneRes) (player : UInt64) (call : RoleCall) :
    List (RoleAttrType × Int32) :=
  match call.scene.playerLevel player with
  | none => []
  | some level => Level.changes res level 3 call.attr call.value

/-- Calls one after the other. -/
def modifyEach (res : SceneRes) (role : Role) (calls : List RoleCall) : Role :=
  calls.foldl (fun role call => modifyRoleAttr res call.scene role call.attr call.value) role

/-- What the calls change. -/
def allChanges (res : SceneRes) (player : UInt64) (calls : List RoleCall) :
    List (RoleAttrType × Int32) :=
  calls.flatMap (·.changes res player)

theorem RoleCall.changes_of_known (res : SceneRes) {player : UInt64} (call : RoleCall)
    {level : UInt32} (h : call.scene.playerLevel player = some level) :
    call.changes res player = Level.changes res level 3 call.attr call.value := by
  unfold RoleCall.changes
  rw [h]

/-- A call is the list of its changes. -/
theorem modifyRoleAttr_eq_changes (res : SceneRes) (role : Role) (call : RoleCall) :
    modifyRoleAttr res call.scene role call.attr call.value
      = (call.changes res role.player).foldl Role.change role := by
  unfold modifyRoleAttr RoleCall.changes
  cases call.scene.playerLevel role.player with
  | some level => exact modifyWithin_eq_changes res level 3 role call.attr call.value
  | none =>
      rw [modifyWithin_succ]
      split <;> rfl

/-- **A sequence of calls** is the fold of its changes. -/
theorem modifyEach_eq (res : SceneRes) (role : Role) (calls : List RoleCall) :
    modifyEach res role calls = (allChanges res role.player calls).foldl Role.change role := by
  induction calls generalizing role with
  | nil => rfl
  | cons call calls ih =>
      have hplayer : (modifyRoleAttr res call.scene role call.attr call.value).player
          = role.player := modifyWithin_player ..
      show modifyEach res (modifyRoleAttr res call.scene role call.attr call.value) calls
        = (call.changes res role.player ++ allChanges res role.player calls).foldl _ _
      rw [ih, hplayer, List.foldl_append, modifyRoleAttr_eq_changes]

end Steppingstone.Level
