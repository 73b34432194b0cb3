/-
  Steppingstone.DayChange.Counted — every day and every week is counted once
  for every player.

  A map that is behind the line reads the missing days one by one.  A player
  that comes online on a map which is not behind its stored day is brought to
  the day of the map, and from then on goes with it.
-/
import Mathlib.Algebra.BigOperators.Ring.List
import Steppingstone.DayChange.Model

namespace Steppingstone.DayChange

open Catchup

/-! ## §1. One player. -/

variable {μ ρ : Type} {midnight : Nat}

/-- Days are whole days apart. -/
theorem Change.dayInterval_mul (c : Change) (hle : c.before ≤ c.after)
    (hbefore : IsDay midnight c.before) (hafter : IsDay midnight c.after) :
    c.dayInterval.toNat * (24 * 60 * 60) = c.after.toNat - c.before.toNat := by
  have hinterval : c.dayInterval.toNat = (c.after.toNat - c.before.toNat) / (24 * 60 * 60) := by
    show ((c.after - c.before) / (24 * 60 * 60)).toUInt32.toNat = _
    rw [UInt64.toNat_toUInt32, UInt64.toNat_div, UInt64.toNat_sub_of_le _ _ hle]
    show (c.after.toNat - c.before.toNat) / (24 * 60 * 60) % 2 ^ 32 = _
    refine Nat.mod_eq_of_lt (lt_of_le_of_lt (Nat.div_le_div_right (Nat.sub_le ..)) hafter.2)
  obtain ⟨hbefore, -⟩ := hbefore
  obtain ⟨hafter, -⟩ := hafter
  rw [hinterval]
  omega

/-- **The notices of a player** move its stored times forward, one after the other. -/
structure Player.Counted (midnight : Nat) (p : Player μ) : Prop where
  forward : ∀ k, ∀ c ∈ p.changes k, c.before < c.after
  linked : ∀ k, Linked ((p.changes k).map (·.toMove)) (p.lastClean k)
  interval : ∀ c ∈ p.changes .day,
    c.dayInterval.toNat * (24 * 60 * 60) = c.after.toNat - c.before.toNat
  new : p.announce = false → ∀ k, p.changes k = []
  isDay : p.announce = true → IsDay midnight (p.lastClean .day)

theorem Player.Counted.toNat_lt {p : Player μ} (h : p.Counted midnight) (k : Period) :
    ∀ m ∈ (p.changes k).map (·.toMove), m.before.toNat < m.after.toNat := by
  intro m hm
  obtain ⟨c, hc, rfl⟩ := List.mem_map.mp hm
  exact h.forward k c hc

theorem Player.Counted.place {p : Player μ} (h : p.Counted midnight) (place : Option μ) :
    ({ p with place } : Player μ).Counted midnight :=
  ⟨h.forward, h.linked, h.interval, h.new, h.isDay⟩

/-- A later time is one more move. -/
theorem Player.Counted.change {p : Player μ} (h : p.Counted midnight)
    (hannounce : p.announce = true) {k : Period} {current : UInt64} (hlt : p.lastClean k < current)
    (hday : k = .day → IsDay midnight current) (status : Nat) :
    (p.change k current status).Counted midnight where
  forward := by
    intro k' c hc
    rw [Player.change_changes] at hc
    split at hc
    · obtain rfl | hc := List.mem_cons.mp hc
      · exact hlt
      · exact h.forward k c hc
    · exact h.forward k' c hc
  linked := by
    intro k'
    rw [Player.change_changes, Player.change_lastClean]
    split
    · exact ⟨rfl, h.linked k⟩
    · exact h.linked k'
  interval := by
    intro c hc
    rw [Player.change_changes] at hc
    split at hc
    · next hk =>
        obtain rfl := hk
        obtain rfl | hc := List.mem_cons.mp hc
        · exact Change.dayInterval_mul _ (UInt64.le_of_lt hlt) (h.isDay hannounce) (hday rfl)
        · exact h.interval c hc
    · exact h.interval c hc
  new := by
    intro hnew
    rw [show (p.change k current status).announce = p.announce from rfl, hannounce] at hnew
    cases hnew
  isDay := by
    intro _
    rw [Player.change_lastClean]
    split
    · next hk => exact hday hk.symm
    · exact h.isDay hannounce

/-- A check brings a player that is not ahead to the time of the map. -/
theorem Player.Counted.check {p : Player μ} (h : p.Counted midnight) (hannounce : p.announce = true)
    {k : Period} {current : UInt64} (hle : p.lastClean k ≤ current)
    (hday : k = .day → IsDay midnight current) :
    ∃ q, (if p.lastClean k < current then p.change k current 2 else p) = q ∧
      q.Counted midnight ∧ q.announce = true ∧ q.lastClean k = current ∧
      ∀ k' ≠ k, q.lastClean k' = p.lastClean k' := by
  by_cases hlt : p.lastClean k < current
  · refine ⟨_, if_pos hlt, h.change hannounce hlt hday 2, hannounce, ?_, ?_⟩
    · rw [Player.change_lastClean, if_pos rfl]
    · intro k' hk
      rw [Player.change_lastClean, if_neg hk]
  · have heq : p.lastClean k = current :=
      UInt64.le_antisymm hle (UInt64.not_lt.mp hlt)
    exact ⟨_, if_neg hlt, h, hannounce, heq, fun _ _ => rfl⟩

/-- Both checks. -/
theorem Player.Counted.checked {p : Player μ} (h : p.Counted midnight)
    (hannounce : p.announce = true) {current : Period → UInt64}
    (hle : ∀ k, p.lastClean k ≤ current k) (hday : IsDay midnight (current .day)) :
    ∃ q, (p.checkPlayerCleanDay (current .day)).checkPlayerCleanWeek (current .week) = q ∧
      q.Counted midnight ∧ q.announce = true ∧ ∀ k, q.lastClean k = current k := by
  obtain ⟨q, hq, hcounted, hannounce, hdone, hother⟩ :=
    h.check hannounce (hle .day) (fun _ => hday)
  have hweek : q.lastClean .week ≤ current .week := by
    rw [hother .week nofun]
    exact hle .week
  obtain ⟨q', hq', hcounted, hannounce, hdone', hother'⟩ :=
    hcounted.check hannounce hweek nofun
  refine ⟨q', ?_, hcounted, hannounce, ?_⟩
  · rw [show p.checkPlayerCleanDay (current .day) = q from hq]
    exact hq'
  · intro k
    cases k with
    | day => rw [hother' .day nofun, hdone]
    | week => exact hdone'

/-- The first login gives the stored day its first value. -/
theorem Player.Counted.loaded {p : Player μ} (h : p.Counted midnight) {day : UInt64}
    {role guid : Bool}
    (hfirst : p.announce = false → role = true ∧ guid = true ∧ IsDay midnight day) :
    (p.loaded day role guid).Counted midnight ∧ (p.loaded day role guid).announce = true := by
  unfold Player.loaded
  by_cases hannounce : p.announce = true
  · rw [if_pos hannounce]
    exact ⟨h, hannounce⟩
  · rw [if_neg hannounce]
    have hnew := Bool.eq_false_iff.mpr hannounce
    obtain ⟨rfl, rfl, hday⟩ := hfirst hnew
    have hnone : ∀ k, p.changes k = [] := h.new hnew
    unfold Player.firstInitPlayer
    rw [if_pos rfl]
    refine ⟨⟨?_, ?_, ?_, ?_, ?_⟩, Bool.or_true _⟩
    · exact h.forward
    · intro k
      show Linked ((p.changes k).map _) _
      rw [hnone k]
      trivial
    · exact h.interval
    · exact fun _ => hnone
    · intro _
      show IsDay midnight (Function.update p.lastClean .day day .day)
      rw [Function.update_self]
      exact hday

/-! ## §2. The line and its maps. -/

/-- The times of one kind among the messages that a map has not come to. -/
def outstanding (input : List (Period × UInt64)) (k : Period) : List UInt64 :=
  (input.filter (·.1 = k)).map (·.2)

theorem outstanding_cons (k' : Period) (new : UInt64) (rest : List (Period × UInt64)) (k : Period) :
    outstanding ((k', new) :: rest) k =
      if k' = k then new :: outstanding rest k else outstanding rest k := by
  unfold outstanding
  by_cases hk : k' = k
  · rw [if_pos hk, List.filter_cons, if_pos (decide_eq_true hk), List.map_cons]
  · rw [if_neg hk, List.filter_cons, if_neg (fun hd => hk (of_decide_eq_true hd))]

/-- What two lists still have to say. -/
theorem outstanding_append (input rest : List (Period × UInt64)) (k : Period) :
    outstanding (input ++ rest) k = outstanding input k ++ outstanding rest k := by
  unfold outstanding
  rw [List.filter_append, List.map_append]

/-- **The invariant.** -/
structure State.Counted (midnight : Nat) (s : State μ ρ) : Prop where
  unread : ∀ m k, Behind ((s.map m).current k) (outstanding (s.map m).input k) (s.line k)
  line : IsDay midnight (s.line .day)
  current : ∀ m, IsDay midnight ((s.map m).current .day)
  input : ∀ m, ∀ x ∈ (s.map m).input, x.1 = .day → IsDay midnight x.2
  player : ∀ g, (s.player g).Counted midnight
  /-- An online player has the times of its map. -/
  online : ∀ g m, (s.player g).place = some m →
    (s.player g).announce = true ∧ (s.player g).lastClean = (s.map m).current

variable {s : State μ ρ}

/-- A change that the line publishes. -/
theorem State.Counted.publish (h : s.Counted midnight) {k : Period} {new : UInt64}
    (hlt : s.line k < new) (hday : k = .day → IsDay midnight new) :
    (s.publish k new).Counted midnight where
  unread := by
    intro m k'
    show Behind _ (outstanding ((s.map m).input ++ [(k, new)]) k') (Function.update s.line k new k')
    rw [outstanding_append, outstanding_cons, Function.update_apply]
    by_cases hk : k = k'
    · obtain rfl := hk
      rw [if_pos rfl, if_pos rfl]
      exact (h.unread m k).publish hlt
    · rw [if_neg hk, if_neg (Ne.symm hk)]
      show Behind _ (_ ++ []) _
      rw [List.append_nil]
      exact h.unread m k'
  line := by
    show IsDay midnight (Function.update s.line k new .day)
    rw [Function.update_apply]
    split
    · next hk => exact hday hk.symm
    · exact h.line
  current := h.current
  input := by
    intro m x hx
    obtain hx | hx := List.mem_append.mp hx
    · exact h.input m x hx
    · rw [List.mem_singleton.mp hx]
      exact hday
  player := h.player
  online := h.online

/-- `update` publishes the later of two times, if any. -/
theorem State.Counted.update (h : s.Counted midnight) {currDay : UInt64} (currWeek : UInt64)
    (hday : IsDay midnight currDay) : (s.update currDay currWeek).Counted midnight := by
  unfold State.update
  split
  · next hlt =>
      have hnew := h.publish hlt (fun _ => hday)
      unfold State.checkWeekChange
      split
      · next hweek => exact hnew.publish hweek nofun
      · exact hnew
  · exact h

variable [DecidableEq μ] [DecidableEq ρ]

omit [DecidableEq ρ] in
/-- A change that a map takes over. -/
theorem State.Counted.lmsgChange (h : s.Counted midnight) {m : μ} {k : Period} {new : UInt64}
    {rest : List (Period × UInt64)} (hin : (s.map m).input = (k, new) :: rest) :
    (s.lmsgChange m k new rest).Counted midnight := by
  have hbehind : ∀ k', Behind ((s.map m).current k')
      (if k = k' then new :: outstanding rest k' else outstanding rest k') (s.line k') := by
    intro k'
    rw [← outstanding_cons, ← hin]
    exact h.unread m k'
  have hlt : (s.map m).current k < new := by
    have hk := hbehind k
    rw [if_pos rfl] at hk
    exact hk.take.1
  have hday : k = .day → IsDay midnight new := by
    intro hk
    exact h.input m (k, new) (hin ▸ List.mem_cons_self) hk
  have hmap : ∀ m' ≠ m, (s.lmsgChange m k new rest).map m' = s.map m' :=
    fun m' hm => Function.update_of_ne hm ..
  have hself : (s.lmsgChange m k new rest).map m =
      { current := Function.update (s.map m).current k new, input := rest } :=
    Function.update_self ..
  refine ⟨?_, h.line, ?_, ?_, ?_, ?_⟩
  · intro m' k'
    by_cases hm : m' = m
    · subst hm
      rw [hself]
      have hk' := hbehind k'
      show Behind (Function.update (s.map m').current k new k') (outstanding rest k') (s.line k')
      rw [Function.update_apply]
      by_cases hk : k = k'
      · rw [if_pos hk] at hk'
        rw [if_pos hk.symm]
        exact hk'.take.2
      · rw [if_neg hk] at hk'
        rw [if_neg (Ne.symm hk)]
        exact hk'
    · rw [hmap m' hm]
      exact h.unread m' k'
  · intro m'
    by_cases hm : m' = m
    · subst hm
      rw [hself]
      show IsDay midnight (Function.update (s.map m').current k new .day)
      rw [Function.update_apply]
      split
      · next hk => exact hday hk.symm
      · exact h.current m'
    · rw [hmap m' hm]
      exact h.current m'
  · intro m' x hx
    by_cases hm : m' = m
    · subst hm
      rw [hself] at hx
      exact h.input m' x (hin ▸ List.mem_cons_of_mem _ hx)
    · rw [hmap m' hm] at hx
      exact h.input m' x hx
  · intro g
    show (if (s.player g).place = some m then _ else _ : Player μ).Counted midnight
    split
    · next hplace =>
        obtain ⟨hannounce, htimes⟩ := h.online g m hplace
        exact (h.player g).change hannounce (by rw [htimes]; exact hlt) hday 1
    · exact h.player g
  · intro g m' hplace
    have hg : (s.lmsgChange m k new rest).player g =
        if (s.player g).place = some m then (s.player g).change k new 1 else s.player g := rfl
    rw [hg] at hplace ⊢
    by_cases hm : (s.player g).place = some m
    · rw [if_pos hm] at hplace ⊢
      obtain rfl : m = m' := Option.some.inj (hm.symm.trans hplace)
      obtain ⟨hannounce, htimes⟩ := h.online g m hm
      refine ⟨hannounce, ?_⟩
      rw [hself]
      show Function.update (s.player g).lastClean k new = Function.update _ k new
      rw [htimes]
    · rw [if_neg hm] at hplace ⊢
      have hne : m' ≠ m := by
        rintro rfl
        exact hm hplace
      rw [hmap m' hne]
      exact h.online g m' hplace

omit [DecidableEq μ] in
/-- A player that comes online is checked. -/
theorem State.Counted.comesOnline (h : s.Counted midnight) (m : μ) (g : ρ) {p : Player μ}
    (hp : p.Counted midnight) (hannounce : p.announce = true)
    (hle : ∀ k, p.lastClean k ≤ (s.map m).current k) : (s.online m g p).Counted midnight := by
  obtain ⟨q, hq, hcounted, hannounce, htimes⟩ := hp.checked hannounce hle (h.current m)
  have hplayer : (s.online m g p).player =
      Function.update s.player g { q with place := some m } := by
    unfold State.online
    rw [hq]
  refine ⟨h.unread, h.line, h.current, h.input, ?_, ?_⟩
  · intro g'
    rw [hplayer, Function.update_apply]
    split
    · exact hcounted.place _
    · exact h.player g'
  · intro g' m' hplace
    rw [hplayer, Function.update_apply] at hplace ⊢
    split at hplace
    · next hg =>
        rw [if_pos hg]
        obtain rfl : m = m' := Option.some.inj hplace
        exact ⟨hannounce, funext htimes⟩
    · next hg =>
        rw [if_neg hg]
        exact h.online g' m' hplace

/-! ## §3. Runs. -/

/-- **Coming online in step**: the map is not behind what the player has stored, the first login
finds the first role and a guid, and the clock shows the beginning of a day. -/
def InStep (midnight : Nat) (s : State μ ρ) : Action μ ρ → Prop
  | .update currDay _ => IsDay midnight currDay
  | .playerDataLoadFinish m g day role guid =>
      ((s.player g).announce = false → role = true ∧ guid = true ∧ IsDay midnight day) ∧
        ((s.player g).loaded day role guid).lastClean .day ≤ (s.map m).current .day ∧
        ((s.player g).loaded day role guid).lastClean .week ≤ (s.map m).current .week
  | .jumpMapReady m g =>
      (s.player g).announce = true ∧
        (s.player g).lastClean .day ≤ (s.map m).current .day ∧
        (s.player g).lastClean .week ≤ (s.map m).current .week
  | _ => True

instance (midnight : Nat) (s : State μ ρ) (a : Action μ ρ) : Decidable (InStep midnight s a) := by
  cases a <;> simp only [InStep] <;> infer_instance

/-- One step keeps the invariant. -/
theorem State.Counted.step (h : s.Counted midnight) {a : Action μ ρ} {s' : State μ ρ}
    (ha : InStep midnight s a) (hst : DayChange.step s a = some s') : s'.Counted midnight := by
  cases a with
  | update currDay currWeek =>
      obtain rfl := Option.some.inj hst
      exact h.update currWeek ha
  | sceneInput m =>
      simp only [DayChange.step] at hst
      split at hst
      · cases hst
      · next hin =>
          obtain rfl := Option.some.inj hst
          exact h.lmsgChange hin
  | playerDataLoadFinish m g day role guid =>
      simp only [DayChange.step] at hst
      split at hst
      · obtain rfl := Option.some.inj hst
        obtain ⟨hfirst, hday, hweek⟩ := ha
        obtain ⟨hcounted, hannounce⟩ := (h.player g).loaded hfirst
        refine h.comesOnline m g hcounted hannounce ?_
        intro k
        cases k with
        | day => exact hday
        | week => exact hweek
      · cases hst
  | jumpMapReady m g =>
      simp only [DayChange.step] at hst
      split at hst
      · obtain rfl := Option.some.inj hst
        obtain ⟨hannounce, hday, hweek⟩ := ha
        refine h.comesOnline m g (h.player g) hannounce ?_
        intro k
        cases k with
        | day => exact hday
        | week => exact hweek
      · cases hst
  | playerIsOffline g =>
      obtain rfl := Option.some.inj hst
      refine ⟨h.unread, h.line, h.current, h.input, ?_, ?_⟩
      · intro g'
        dsimp only
        rw [Function.update_apply]
        split
        · exact (h.player g).place none
        · exact h.player g'
      · intro g' m hplace
        dsimp only at hplace ⊢
        rw [Function.update_apply] at hplace ⊢
        split at hplace
        · cases hplace
        · next hg =>
            rw [if_neg hg]
            exact h.online g' m hplace

/-- It holds at the start. -/
theorem counted_of_started (h : (system midnight).init s) : s.Counted midnight := by
  obtain ⟨hstarted, hline, hdays⟩ := h
  refine ⟨?_, hline, ?_, ?_, ?_, ?_⟩
  · intro m k
    obtain ⟨hcurrent, hinput⟩ := hstarted.map m
    rw [hinput, hcurrent]
    rfl
  · intro m
    rw [(hstarted.map m).1]
    exact hline
  · intro m x hx
    rw [(hstarted.map m).2] at hx
    cases hx
  · intro g
    obtain ⟨-, hnone⟩ := hstarted.player g
    refine ⟨?_, ?_, ?_, fun _ => hnone, hdays g⟩
    · intro k c hc
      rw [hnone k] at hc
      cases hc
    · intro k
      rw [hnone k]
      trivial
    · intro c hc
      rw [hnone .day] at hc
      cases hc
  · intro g m hplace
    rw [(hstarted.player g).1] at hplace
    cases hplace

/-- Started on day 10; player 0 was online last on day 8, and no other player ever was. -/
def startedOnDay10 : State Bool Nat where
  line
    | .day => 10 * 86400
    | .week => 7 * 86400
  map _ :=
    { current := fun
        | .day => 10 * 86400
        | .week => 7 * 86400
      input := [] }
  player g :=
    { lastClean := fun
        | .day => 8 * 86400
        | .week => 7 * 86400
      announce := g = 0
      place := none
      changes := fun _ => [] }

/-- Midnight passes while player 0 is on one map, and player 1 comes for the first time. -/
def midnightRun : List (Action Bool Nat) :=
  [.playerDataLoadFinish false 0 (10 * 86400) true true, .update (11 * 86400) (7 * 86400),
    .sceneInput true, .sceneInput false, .playerIsOffline 0, .jumpMapReady true 0,
    .playerDataLoadFinish true 1 (11 * 86400) true true]

theorem startedOnDay10_init : (system 0).init startedOnDay10 := by
  refine ⟨⟨?_, ?_⟩, by decide, ?_⟩
  · intro m
    exact ⟨rfl, rfl⟩
  · intro g
    exact ⟨rfl, fun _ => rfl⟩
  · intro g _
    show IsDay 0 (8 * 86400)
    decide

/-- On a map that has not come to the new day yet, a player from another map is told of that day
once more. -/
example : (((system 0).run startedOnDay10
    [.playerDataLoadFinish false 0 (10 * 86400) true true, .update (11 * 86400) (7 * 86400),
      .sceneInput false, .playerIsOffline 0, .jumpMapReady true 0, .sceneInput true]).map
        fun s => ((s.player 0).changes .day).map (·.dayInterval)) = some [0, 1, 2] := by
  decide +kernel

end Steppingstone.DayChange
