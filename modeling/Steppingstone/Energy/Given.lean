/-
  Steppingstone.Energy.Given — every reward is given once.

  A player is watched beside the server: in which intervals between two instants it was present, and
  which rewards count as given without a gift of this run: those before it, and that of the interval
  in which it arrives for the first time ever, when its time is only noted.
-/
import Steppingstone.Energy.Schedule
import Steppingstone.Lib.TransSys

namespace Steppingstone.Energy

/-! ## §1. The system. -/

/-- The server, and what is seen of the players. -/
structure Watched where
  state : State
  /-- The player was present at some time from the instant up to the next. -/
  present : UInt64 → Nat → Prop
  /-- The player had been given the reward of the instant, or of a later one, before the run. -/
  before : UInt64 → Nat → Prop
  /-- The player arrived for the first time ever between the instant and the next. -/
  first : UInt64 → Nat → Prop

/-- The player that arrives. -/
def Act.arrives : Act → Option UInt64
  | .enter _ guid => some guid
  | _ => none

/-- Is it an instant of the reward? -/
abbrev Config.Due (cfg : Config) (i : Nat) : Prop :=
  Timetable.Due 1440 cfg.zone cfg.energyRewardTime i

/-- What is seen of a step: who stays online is present at the instants that come, and who arrives
    is present from the latest one. -/
def Watched.see (cfg : Config) (w : Watched) (a : Act) (s' : State) : Watched where
  state := s'
  present p i := w.present p i ∨
    (p ∈ w.state.onlinePlayer ∧ cfg.Due i ∧ w.state.minute < i ∧ i ≤ a.now) ∨
    (a.arrives = some p ∧ cfg.IsLatest a.now i)
  before := w.before
  first p i := w.first p i ∨
    (a.arrives = some p ∧ (w.state.players p).lastEnergyRewardTime = 0 ∧ cfg.IsLatest a.now i)

/-- A step of the server, and what it has given. -/
def Watched.step (cfg : Config) (w : Watched) (a : Act) : Option Watched :=
  (w.state.step cfg a).map (w.see cfg a)

/-- A server that starts with stored players, none of them given a reward later than now. -/
structure Started (cfg : Config) (w : Watched) : Prop where
  late : 2880 ≤ w.state.minute
  state : w.state = start cfg w.state.minute w.state.players fun _ _ => 0
  record_le : ∀ p, (w.state.players p).lastEnergyRewardTime ≤ w.state.minute
  present : ∀ p i, ¬ w.present p i
  before : ∀ p i, w.before p i ↔ i ≤ (w.state.players p).lastEnergyRewardTime
  first : ∀ p i, ¬ w.first p i
  well : StartsWell cfg w.state.minute

/-- The server with its history, from any state it starts in. -/
def system (cfg : Config) : TransSys Watched Act where
  init := Started cfg
  step := Watched.step cfg

/-- No instant before the time given has been missed. -/
def Timely (cfg : Config) (s : State) (time : Nat) : Prop :=
  ∀ i, cfg.Due i → i < time → i ≤ s.last.time

/-- The instants are checked: each before its day ends, and before anyone arrives or leaves or the
    server stops; and a start is before the first entry, or not before the last but one. -/
def Meets (cfg : Config) (w : Watched) : Act → Prop
  | .update now => Timely cfg w.state (cfg.dayBase now)
  | .enter now _ => Timely cfg w.state (now + 1)
  | .leave now _ => Timely cfg w.state (now + 1)
  | .restart now => Timely cfg w.state (now + 1) ∧ StartsWell cfg now

/-! ## §2. The invariant. -/

/-- The reward counts as given without a gift of this run. -/
def Watched.Settled (w : Watched) (p : UInt64) (i : Nat) : Prop :=
  w.before p i ∨ w.first p i

/-- The reward of the instant is given once: by one gift, or by none if it is settled. -/
def Watched.Once (w : Watched) (p : UInt64) (i : Nat) : Prop :=
  (w.Settled p i → w.state.provided p i = 0) ∧ (¬ w.Settled p i → w.state.provided p i = 1)

/-- What holds in every state: no reward lies ahead of the time. -/
structure Inv (cfg : Config) (w : Watched) : Prop where
  late : 2880 ≤ w.state.minute
  isLatest : cfg.IsLatest w.state.minute w.state.last.time
  value : w.state.last.value = cfg.energyRewardValue
  record_le : ∀ p, (w.state.players p).lastEnergyRewardTime ≤ w.state.minute
  online : ∀ p ∈ w.state.onlinePlayer,
    w.state.last.time ≤ (w.state.players p).lastEnergyRewardTime
  provided_le : ∀ p i, w.state.provided p i ≠ 0 → i ≤ (w.state.players p).lastEnergyRewardTime
  settled_le : ∀ p i, w.Settled p i → i ≤ (w.state.players p).lastEnergyRewardTime
  current : ∀ p, w.state.last.time ≤ (w.state.players p).lastEnergyRewardTime →
    w.Once p w.state.last.time
  once : ∀ p i, w.present p i → w.Once p i

theorem inv_started {cfg : Config} {w : Watched} (h : Started cfg w) : Inv cfg w := by
  have hlatest := (init_isLatest_iff cfg h.late).mpr h.well
  have hlast : w.state.last = initProvideEnergyInfo cfg w.state.minute := by
    rw [h.state]
    rfl
  have hnone : ∀ p i, w.state.provided p i = 0 := by
    intro p i
    rw [h.state]
    rfl
  refine ⟨h.late, ?_, ?_, h.record_le, ?_, fun p i hp => absurd (hnone p i) hp, ?_, ?_, ?_⟩
  · rw [hlast]
    exact hlatest
  · rw [hlast]
    exact init_value cfg _
  · intro p hp
    rw [h.state] at hp
    cases hp
  · intro p i hsettled
    obtain hb | hf := hsettled
    · exact (h.before p i).mp hb
    · exact absurd hf (h.first p i)
  · intro p hle
    refine ⟨fun _ => hnone p _, fun hnot => ?_⟩
    exact absurd (.inl ((h.before p _).mpr hle)) hnot
  · intro p i hp
    exact absurd hp (h.present p i)

/-! ## §3. One step. -/

section Step

variable {cfg : Config} {w : Watched} {a : Act} {s' : State}

/-- If no instant has come since, the latest one still is. -/
theorem Inv.later (h : Inv cfg w) {now : Nat} (hnow : w.state.minute ≤ now)
    (htimely : Timely cfg w.state (now + 1)) : cfg.IsLatest now w.state.last.time :=
  h.isLatest.later hnow fun i hi hle =>
    Nat.le_trans (htimely i hi (Nat.lt_succ_of_le hle)) h.isLatest.le

/-- Nobody becomes present by staying online. -/
theorem Inv.stays (h : Inv cfg w) {now i : Nat} (htimely : Timely cfg w.state (now + 1))
    (hdue : cfg.Due i) (hlt : w.state.minute < i) (hle : i ≤ now) : False := by
  have hlast := htimely i hdue (Nat.lt_succ_of_le hle)
  have hmin := h.isLatest.le
  omega

/-- **A step** keeps the invariant if it gives or settles the rewards of some pairs once, and leaves
    the others. -/
theorem inv_of_fresh (h : Inv cfg w) (hnow : w.state.minute ≤ a.now) (fresh : UInt64 → Nat → Prop)
    (hminute : s'.minute = a.now) (hlatest : cfg.IsLatest a.now s'.last.time)
    (hvalue : s'.last.value = w.state.last.value)
    (hgrows : ∀ p, (w.state.players p).lastEnergyRewardTime
      ≤ (s'.players p).lastEnergyRewardTime ∧ (s'.players p).lastEnergyRewardTime ≤ a.now)
    (honline : ∀ p ∈ s'.onlinePlayer, s'.last.time ≤ (s'.players p).lastEnergyRewardTime)
    (hfresh : ∀ p i, fresh p i →
      (w.see cfg a s').Once p i ∧ i ≤ (s'.players p).lastEnergyRewardTime)
    (hrest : ∀ p i, ¬ fresh p i → s'.provided p i = w.state.provided p i ∧
      ((w.see cfg a s').Settled p i → w.Settled p i))
    (hpresent : ∀ p i, (w.see cfg a s').present p i → w.present p i ∨ fresh p i)
    (hcurrent : ∀ p, s'.last.time ≤ (s'.players p).lastEnergyRewardTime →
      fresh p s'.last.time ∨ (s'.last.time = w.state.last.time ∧
        w.state.last.time ≤ (w.state.players p).lastEnergyRewardTime)) :
    Inv cfg (w.see cfg a s') := by
  -- a pair that is not fresh keeps its count and what was settled about it
  have honce : ∀ p i, w.Once p i → (w.see cfg a s').Once p i := by
    intro p i ho
    by_cases hf : fresh p i
    · exact (hfresh p i hf).1
    · obtain ⟨hsame, hsettled⟩ := hrest p i hf
      unfold Watched.Once
      show (_ → s'.provided p i = 0) ∧ (_ → s'.provided p i = 1)
      rw [hsame]
      exact ⟨fun hs => ho.1 (hsettled hs), fun hn => ho.2 fun hs => hn (hs.imp_right .inl)⟩
  refine ⟨?_, ?_, hvalue.trans h.value, fun p => ?_, honline, fun p i hp => ?_, fun p i hs => ?_,
    fun p hle => ?_, fun p i hp => ?_⟩
  · show 2880 ≤ s'.minute
    have hlate := h.late
    omega
  · show cfg.IsLatest s'.minute s'.last.time
    rw [hminute]
    exact hlatest
  · show (s'.players p).lastEnergyRewardTime ≤ s'.minute
    rw [hminute]
    exact (hgrows p).2
  · show i ≤ (s'.players p).lastEnergyRewardTime
    by_cases hf : fresh p i
    · exact (hfresh p i hf).2
    · have hold : w.state.provided p i ≠ 0 := by
        rw [← (hrest p i hf).1]
        exact hp
      exact Nat.le_trans (h.provided_le p i hold) (hgrows p).1
  · show i ≤ (s'.players p).lastEnergyRewardTime
    by_cases hf : fresh p i
    · exact (hfresh p i hf).2
    · exact Nat.le_trans (h.settled_le p i ((hrest p i hf).2 hs)) (hgrows p).1
  · show (w.see cfg a s').Once p s'.last.time
    obtain hf | ⟨heq, hold⟩ := hcurrent p hle
    · exact (hfresh p _ hf).1
    · rw [heq]
      exact honce p _ (h.current p hold)
  · obtain hpres | hf := hpresent p i hp
    · exact honce p i (h.once p i hpres)
    · exact (hfresh p i hf).1

/-- If nobody arrives nothing is settled. -/
theorem settled_of_quiet (harrives : a.arrives = none) {p : UInt64} {i : Nat}
    (h : (w.see cfg a s').Settled p i) : w.Settled p i := by
  obtain hb | hf | ⟨harr, -⟩ := h
  · exact .inl hb
  · exact .inr hf
  · rw [harrives] at harr
    cases harr

/-- **A step that gives nothing** and in which nobody arrives. -/
theorem inv_quiet (h : Inv cfg w) (harrives : a.arrives = none)
    (hnow : w.state.minute ≤ a.now) (htimely : Timely cfg w.state (a.now + 1))
    (hminute : s'.minute = a.now) (hlast : s'.last = w.state.last)
    (honline : s'.onlinePlayer ⊆ w.state.onlinePlayer) (hplayers : s'.players = w.state.players)
    (hprovided : s'.provided = w.state.provided) : Inv cfg (w.see cfg a s') := by
  refine inv_of_fresh h hnow (fun _ _ => False) hminute ?_ (by rw [hlast]) (fun p => ?_)
    (fun p hp => ?_) (fun _ _ hf => hf.elim) (fun p i _ => ?_) (fun p i hp => ?_) (fun p hle => ?_)
  · rw [hlast]
    exact h.later hnow htimely
  · rw [hplayers]
    exact ⟨Nat.le_refl _, Nat.le_trans (h.record_le p) hnow⟩
  · rw [hplayers, hlast]
    exact h.online p (honline hp)
  · exact ⟨by rw [hprovided], settled_of_quiet harrives⟩
  · obtain hpres | ⟨-, hdue, hlt, hi⟩ | ⟨harr, -⟩ := hp
    · exact .inl hpres
    · exact (h.stays htimely hdue hlt hi).elim
    · rw [harrives] at harr
      cases harr
  · rw [hlast, hplayers] at hle
    exact .inr ⟨by rw [hlast], hle⟩

/-- What an arrival does: the player's time is that of the last instant at least, and the reward is
    given to one that has been here and has not got it. -/
theorem check_player (s : State) (guid p : UInt64) (i : Nat) :
    (checkPlayerProvideEnergy s guid).minute = s.minute ∧
      (checkPlayerProvideEnergy s guid).last = s.last ∧
      (checkPlayerProvideEnergy s guid).onlinePlayer = s.onlinePlayer ∧
      ((checkPlayerProvideEnergy s guid).players p).lastEnergyRewardTime
        = (if p = guid then max (s.players p).lastEnergyRewardTime s.last.time
          else (s.players p).lastEnergyRewardTime) ∧
      (checkPlayerProvideEnergy s guid).provided p i
        = s.provided p i + if p = guid ∧ i = s.last.time ∧
          (s.players p).lastEnergyRewardTime ≠ 0 ∧
          (s.players p).lastEnergyRewardTime < s.last.time then 1 else 0 := by
  unfold checkPlayerProvideEnergy
  -- the three branches of the source, for the player itself and for the others
  by_cases hp : p = guid
  · subst hp
    split
    · rename_i hzero
      refine ⟨rfl, rfl, rfl, ?_, ?_⟩
      · simp only [Function.update_self, if_true, hzero, Nat.zero_max]
      · rw [if_neg]
        · rfl
        · rintro ⟨-, -, hne, -⟩
          exact hne hzero
    · rename_i hzero
      split
      · rename_i hlt
        refine ⟨rfl, rfl, rfl, ?_, ?_⟩
        · unfold provideEnergy
          simp only [Finset.mem_singleton, if_true]
          omega
        · unfold provideEnergy
          simp only [Finset.mem_singleton, true_and, hzero, hlt, not_false_eq_true, and_true, ne_eq]
          split <;> rfl
      · rename_i hge
        refine ⟨rfl, rfl, rfl, ?_, ?_⟩
        · rw [if_pos rfl]
          omega
        · rw [if_neg]
          · rfl
          · rintro ⟨-, -, -, hlt⟩
            exact hge hlt
  · split
    · refine ⟨rfl, rfl, rfl, ?_, ?_⟩
      · simp only [Function.update_of_ne hp]
      · simp only [hp, false_and, if_false, Nat.add_zero]
    · split
      · refine ⟨rfl, rfl, rfl, ?_, ?_⟩
        · unfold provideEnergy
          simp only [Finset.mem_singleton, hp, if_false]
        · unfold provideEnergy
          simp only [Finset.mem_singleton, hp, false_and, if_false, Nat.add_zero]
      · simp only [hp, false_and, if_false, Nat.add_zero, true_and]

/-- What is settled after an arrival: a first one settles the latest instant. -/
theorem settled_enter {now : Nat} {guid : UInt64} (hlatest : cfg.IsLatest now w.state.last.time)
    (p : UInt64) (i : Nat) :
    (w.see cfg (.enter now guid) s').Settled p i ↔ w.Settled p i ∨
      (p = guid ∧ (w.state.players p).lastEnergyRewardTime = 0 ∧ i = w.state.last.time) := by
  constructor
  · intro hs
    obtain hb | hf | ⟨harr, hzero, hi⟩ := hs
    · exact .inl (.inl hb)
    · exact .inl (.inr hf)
    · exact .inr ⟨(Option.some.inj harr).symm, hzero, hi.unique hlatest⟩
  · intro hs
    obtain hb | ⟨rfl, hzero, rfl⟩ := hs
    · exact hb.imp_right .inl
    · exact .inr (.inr ⟨rfl, hzero, hlatest⟩)

/-- The reward of the latest instant, for the player that arrives. -/
theorem once_enter (h : Inv cfg w) {now : Nat} {guid : UInt64}
    (hlatest : cfg.IsLatest now w.state.last.time) (hpos : 0 < w.state.last.time)
    (hprovided : s'.provided guid w.state.last.time = w.state.provided guid w.state.last.time
      + if (w.state.players guid).lastEnergyRewardTime ≠ 0 ∧
        (w.state.players guid).lastEnergyRewardTime < w.state.last.time then 1 else 0) :
    (w.see cfg (.enter now guid) s').Once guid w.state.last.time := by
  unfold Watched.Once
  rw [settled_enter hlatest]
  show (_ → s'.provided guid _ = 0) ∧ (_ → s'.provided guid _ = 1)
  rw [hprovided]
  by_cases hle : w.state.last.time ≤ (w.state.players guid).lastEnergyRewardTime
  · -- it has been given before
    have hsame := h.current guid hle
    rw [if_neg (by omega), Nat.add_zero]
    refine ⟨fun hs => hsame.1 (hs.resolve_right fun hz => ?_), fun hn => hsame.2 fun hs =>
      hn (.inl hs)⟩
    have hzero := hz.2.1
    omega
  -- it has not been given: the first arrival settles it, a later one gives it
  · have hnone : w.state.provided guid w.state.last.time = 0 := by
      by_contra hne
      exact hle (h.provided_le guid _ hne)
    have hnot : ¬ w.Settled guid w.state.last.time := fun hs => hle (h.settled_le guid _ hs)
    rw [hnone]
    by_cases hzero : (w.state.players guid).lastEnergyRewardTime = 0
    · rw [if_neg fun hc => hc.1 hzero]
      exact ⟨fun _ => rfl, fun hn => absurd (.inr ⟨rfl, hzero, rfl⟩) hn⟩
    · rw [if_pos ⟨hzero, by omega⟩]
      refine ⟨fun hs => ?_, fun _ => rfl⟩
      obtain hs | ⟨-, hz, -⟩ := hs
      · exact absurd hs hnot
      · exact absurd hz hzero

/-- **An arrival** gives the reward of the latest instant, if the player has been here and has not
    got it. -/
theorem inv_enter (h : Inv cfg w) {now : Nat} {guid : UInt64} (hnow : w.state.minute ≤ now)
    (htimely : Timely cfg w.state (now + 1)) :
    Inv cfg (w.see cfg (.enter now guid)
      (State.act cfg { w.state with minute := now } (.enter now guid))) := by
  have hlatest := h.later hnow htimely
  have hpos : 0 < w.state.last.time := isLatest_pos (Nat.le_trans h.late hnow) hlatest
  have hspec := check_player
    { w.state with minute := now, onlinePlayer := insert guid w.state.onlinePlayer } guid
  show Inv cfg (w.see cfg (.enter now guid) (checkPlayerProvideEnergy
    { w.state with minute := now, onlinePlayer := insert guid w.state.onlinePlayer } guid))
  generalize checkPlayerProvideEnergy
    { w.state with minute := now, onlinePlayer := insert guid w.state.onlinePlayer } guid
      = s' at hspec ⊢
  obtain ⟨hminute, hlast, honline, -, -⟩ := hspec guid 0
  have hrecord := fun p => (hspec p 0).2.2.2.1
  have hprovided := fun p i => (hspec p i).2.2.2.2
  simp only at hminute hlast honline hrecord hprovided
  have hgrows : ∀ p, (w.state.players p).lastEnergyRewardTime
      ≤ (s'.players p).lastEnergyRewardTime ∧ (s'.players p).lastEnergyRewardTime ≤ now := by
    intro p
    have hle := h.record_le p
    have hlow := hlatest.le
    rw [hrecord p]
    split <;> omega
  have hown : w.state.last.time ≤ (s'.players guid).lastEnergyRewardTime := by
    rw [hrecord guid, if_pos rfl]
    exact Nat.le_max_right ..
  -- the one fresh pair is the player that arrives, with the latest instant
  refine inv_of_fresh h hnow (fun p i => p = guid ∧ i = w.state.last.time) hminute
    (by rw [hlast]; exact hlatest) (by rw [hlast]) hgrows (fun p hp => ?_) (fun p i hf => ?_)
    (fun p i hf => ?_) (fun p i hp => ?_) (fun p hle => ?_)
  · rw [honline] at hp
    rw [hlast]
    obtain rfl | hmem := Finset.mem_insert.mp hp
    · exact hown
    · exact Nat.le_trans (h.online p hmem) (hgrows p).1
  · rw [hf.1, hf.2]
    refine ⟨once_enter h hlatest hpos ?_, hown⟩
    rw [hprovided]
    simp only [true_and]
  · constructor
    · rw [hprovided, if_neg fun hc => hf ⟨hc.1, hc.2.1⟩, Nat.add_zero]
    · intro hs
      exact ((settled_enter hlatest p i).mp hs).resolve_right fun hc => hf ⟨hc.1, hc.2.2⟩
  · obtain hpres | ⟨-, hdue, hlt, hi⟩ | ⟨harr, hi⟩ := hp
    · exact .inl hpres
    · exact (h.stays htimely hdue hlt hi).elim
    · exact .inr ⟨(Option.some.inj harr).symm, hi.unique hlatest⟩
  · rw [hlast] at hle ⊢
    by_cases hp : p = guid
    · exact .inl ⟨hp, rfl⟩
    · rw [hrecord, if_neg hp] at hle
      exact .inr ⟨rfl, hle⟩

/-- What is due since the last instant is an entry of the day, if no instant was missed before. -/
theorem due_iff_entry (h : Inv cfg w) {now i : Nat} (hnow : w.state.minute ≤ now)
    (htimely : Timely cfg w.state (cfg.dayBase now)) (hi : i ≤ now) (hlt : w.state.last.time < i) :
    cfg.Due i ↔ ∃ t ∈ cfg.energyRewardTime, i = cfg.dayBase now + t := by
  obtain ⟨-, hend, -⟩ := dayBase_le cfg (Nat.le_trans h.late hnow)
  have hlate := h.late
  constructor
  -- an instant of an earlier day would have been missed
  · intro hdue
    have htoday : cfg.dayBase now ≤ i := by
      by_contra hbefore
      have hle := htimely i hdue (by omega)
      omega
    have hmem := (Timetable.due_today (by omega) (by omega) htoday (by
      show i < cfg.dayBase now + 1440
      omega)).mp hdue
    refine ⟨_, hmem, ?_⟩
    show i = cfg.dayBase now + (i - cfg.dayBase now)
    omega
  · rintro ⟨t, ht, rfl⟩
    have hday := cfg.in_day t ht
    refine (Timetable.due_today (by omega) (by omega) (Nat.le_add_right ..) (by
      show cfg.dayBase now + t < cfg.dayBase now + 1440
      omega)).mpr ?_
    show cfg.dayBase now + t - cfg.dayBase now ∈ cfg.energyRewardTime
    rw [Nat.add_sub_cancel_left]
    exact ht

/-- **A check** gives everyone online the rewards of the instants that have come. -/
theorem inv_update (h : Inv cfg w) {now : Nat} (hnow : w.state.minute ≤ now)
    (htimely : Timely cfg w.state (cfg.dayBase now)) :
    Inv cfg (w.see cfg (.update now)
      (State.act cfg { w.state with minute := now } (.update now))) := by
  have hspec := check_spec cfg now { w.state with minute := now }
  show Inv cfg (w.see cfg (.update now) (checkEnergyReward cfg now { w.state with minute := now }))
  generalize checkEnergyReward cfg now { w.state with minute := now } = s' at hspec ⊢
  obtain ⟨hminute, hvalue, honline, hle, htime, hnewest, hrecord, hprovided⟩ := hspec
  simp only at hminute hvalue honline hle htime hnewest hrecord hprovided
  -- the last entry that has come is the latest instant
  have hlatest : cfg.IsLatest now s'.last.time := by
    refine ⟨?_, ?_, fun j hj hjn => ?_⟩
    · by_cases hsame : s'.last.time = w.state.last.time
      · rw [hsame]
        exact h.isLatest.due
      · obtain heq | ⟨t, ht, heq, hcome⟩ := htime
        · exact absurd heq hsame
        · exact (due_iff_entry h hnow htimely (by omega) (by omega)).mpr ⟨t, ht, heq⟩
    · have hlow := h.isLatest.le
      obtain heq | ⟨t, -, heq, hcome⟩ := htime <;> omega
    · by_cases hold : j ≤ w.state.last.time
      · omega
      · obtain ⟨t, ht, rfl⟩ := (due_iff_entry h hnow htimely hjn (by omega)).mp hj
        exact hnewest t ht hjn
  have hgiven : ∀ p i, (p ∈ w.state.onlinePlayer ∧ w.state.last.time < i ∧ i ≤ now ∧
      ∃ t ∈ cfg.energyRewardTime, i = cfg.dayBase now + t) ↔
      (p ∈ w.state.onlinePlayer ∧ cfg.Due i ∧ w.state.last.time < i ∧ i ≤ now) := by
    intro p i
    constructor
    · rintro ⟨hp, hlt, hi, hentry⟩
      exact ⟨hp, (due_iff_entry h hnow htimely hi hlt).mpr hentry, hlt, hi⟩
    · rintro ⟨hp, hdue, hlt, hi⟩
      exact ⟨hp, hlt, hi, (due_iff_entry h hnow htimely hi hlt).mp hdue⟩
  -- an instant that is given now comes after the last step
  have hlater : ∀ i, cfg.Due i → w.state.last.time < i → w.state.minute < i := by
    intro i hdue hlt
    by_contra hle
    have hlow := h.isLatest.latest i hdue (by omega)
    omega
  -- the fresh pairs: who is online, with each instant that has come since
  refine inv_of_fresh h hnow
    (fun p i => p ∈ w.state.onlinePlayer ∧ cfg.Due i ∧ w.state.last.time < i ∧ i ≤ now)
    hminute hlatest hvalue (fun p => ?_) (fun p hp => ?_) (fun p i hf => ?_) (fun p i hf => ?_)
    (fun p i hp => ?_) (fun p hlow => ?_)
  · have hrec := h.record_le p
    show _ ≤ _ ∧ _ ≤ now
    rw [hrecord]
    split <;> omega
  · rw [honline] at hp
    rw [hrecord]
    split
    · exact hlatest.le
    · rename_i hno
      have hold := h.online p hp
      have hsame : ¬ w.state.last.time < s'.last.time := fun hlt => hno ⟨hp, hlt⟩
      omega
  · obtain ⟨hp, hdue, hlt, hi⟩ := hf
    have hnew := hlater i hdue hlt
    have hrec := h.record_le p
    have hnone : w.state.provided p i = 0 := by
      by_contra hne
      have hbound := h.provided_le p i hne
      omega
    have hnot : ¬ (w.see cfg (.update now) s').Settled p i := by
      intro hs
      have hbound := h.settled_le p i (settled_of_quiet rfl hs)
      omega
    refine ⟨⟨fun hs => absurd hs hnot, fun _ => ?_⟩, ?_⟩
    · show s'.provided p i = 1
      rw [hprovided, if_pos ((hgiven p i).mpr ⟨hp, hdue, hlt, hi⟩), hnone]
    · have hup := hlatest.latest i hdue hi
      rw [hrecord, if_pos ⟨hp, by omega⟩]
      exact hi
  · refine ⟨?_, settled_of_quiet rfl⟩
    rw [hprovided, if_neg fun hc => hf ((hgiven p i).mp hc), Nat.add_zero]
  · obtain hpres | ⟨hp, hdue, hlt, hi⟩ | ⟨harr, -⟩ := hp
    · exact .inl hpres
    · have hlow := h.isLatest.le
      exact .inr ⟨hp, hdue, by omega, hi⟩
    · cases harr
  · by_cases hsame : s'.last.time = w.state.last.time
    · right
      refine ⟨hsame, ?_⟩
      rw [hrecord, if_neg fun hc => by omega] at hlow
      omega
    · left
      have hnew := hlater _ hlatest.due (by omega)
      rw [hrecord] at hlow
      split at hlow
      · rename_i hc
        exact ⟨hc.1, hlatest.due, hc.2, hlatest.le⟩
      · have hrec := h.record_le p
        omega

/-- **A step keeps the invariant**, if no instant was missed. -/
theorem inv_step {w' : Watched} (h : Inv cfg w) (hmeets : Meets cfg w a)
    (hstep : (system cfg).step w a = some w') : Inv cfg w' := by
  obtain ⟨s', hs', rfl⟩ := Option.map_eq_some_iff.mp hstep
  unfold State.step at hs'
  split at hs'
  case isFalse => cases hs'
  rename_i hnow
  obtain rfl := Option.some.inj hs'
  cases a with
  | update now => exact inv_update h hnow hmeets
  | enter now guid => exact inv_enter h hnow hmeets
  | leave now guid =>
      exact inv_quiet h rfl hnow hmeets rfl rfl (Finset.erase_subset ..) rfl rfl
  | restart now =>
      obtain ⟨htimely, hwell⟩ := hmeets
      -- the latest instant is still the same, so the start finds the one of before
      have hfound := (init_isLatest_iff cfg (Nat.le_trans h.late hnow)).mpr hwell
      have hlast : initProvideEnergyInfo cfg now = w.state.last :=
        LastProvide.ext (hfound.unique (h.later hnow htimely))
          ((init_value cfg now).trans h.value.symm)
      exact inv_quiet h rfl hnow htimely rfl hlast (Finset.empty_subset _) rfl rfl

end Step

/-! ## §4. Runs. -/

/-- **A start takes the latest instant, and the reward of every instant is given once** to everyone
    that is present from it up to the next. -/
theorem given_once (cfg : Config) :
    (∀ now, 2880 ≤ now → StartsWell cfg now →
      cfg.IsLatest now (initProvideEnergyInfo cfg now).time) ∧
    ∀ w, (system cfg).ReachableWhen (Meets cfg) w →
      w.state.last.value = cfg.energyRewardValue ∧ ∀ p i, w.present p i → w.Once p i := by
  refine ⟨fun now hnow hwell => (init_isLatest_iff cfg hnow).mpr hwell, fun w hw => ?_⟩
  have hinv : Inv cfg w := hw.invariant (fun _ => inv_started) fun s a s' hs hm hst => inv_step hs hm hst
  exact ⟨hinv.value, hinv.once⟩

/-- A server that starts, before anything is seen. -/
def watchedAt (cfg : Config) (now : Nat) (players : UInt64 → Player) : Watched where
  state := start cfg now players fun _ _ => 0
  present _ _ := False
  before p i := i ≤ (players p).lastEnergyRewardTime
  first _ _ := False

theorem started_watchedAt {cfg : Config} {now : Nat} {players : UInt64 → Player}
    (hnow : 2880 ≤ now) (hrecord : ∀ p, (players p).lastEnergyRewardTime ≤ now)
    (hwell : StartsWell cfg now) : Started cfg (watchedAt cfg now players) :=
  ⟨hnow, rfl, hrecord, fun _ _ => id, fun _ _ => Iff.rfl, fun _ _ => id, hwell⟩

/-- At 10, 12 and 18 o'clock. -/
def threeTimes : Config where
  energyRewardTime := [600, 720, 1080]
  energyRewardValue := 50
  ne_nil := by decide
  increasing := by decide
  in_day := by decide
  zone := 0

/-- Players that were here at a time. -/
def playersSince (time : Nat) : UInt64 → Player :=
  fun _ => ⟨0, 0, time⟩

/-- An evening: a player arrives, and is still there the next morning. -/
def evening : List Act :=
  [.enter 3990 1, .update 4000, .update 4921]

theorem due_threeTimes {i : Nat} :
    threeTimes.Due i ↔ i % 1440 = 600 ∨ i % 1440 = 720 ∨ i % 1440 = 1080 := by
  show (i + 0) % 1440 ∈ [600, 720, 1080] ↔ _
  simp

theorem given_once_evening : ∃ w, (system threeTimes).run
    (watchedAt threeTimes 3980 (playersSince 2000)) evening = some w ∧
      threeTimes.IsLatest 3980 (initProvideEnergyInfo threeTimes 3980).time ∧
      w.Once 1 3960 ∧ w.Once 1 4920 := by
  obtain ⟨hstart, hruns⟩ := given_once threeTimes
  have hinit : Started threeTimes (watchedAt threeTimes 3980 (playersSince 2000)) :=
    started_watchedAt (by decide) (fun _ => show 2000 ≤ 3980 by decide) (by decide)
  have hmeets : (system threeTimes).RunMeets (Meets threeTimes)
      (watchedAt threeTimes 3980 (playersSince 2000)) evening := by
    refine ⟨fun i hdue hlt => ?_, _, rfl, fun i hdue hlt => ?_, _, rfl, fun i hdue hlt => ?_, _, rfl,
      trivial⟩
    all_goals
      have hentry := due_threeTimes.mp hdue
      show i ≤ 3960
    · omega
    · replace hlt : i < 2880 := hlt
      omega
    · replace hlt : i < 4320 := hlt
      omega
  have hlatest : threeTimes.IsLatest 3990 3960 :=
    ⟨due_threeTimes.mpr (.inr (.inr rfl)), by decide, fun j hj hjn => by
      have hentry := due_threeTimes.mp hj
      omega⟩
  have hrun : ∃ w, (system threeTimes).run
      (watchedAt threeTimes 3980 (playersSince 2000)) evening = some w ∧
        w.present 1 3960 ∧ w.present 1 4920 :=
    ⟨_, rfl, .inl (.inl (.inr (.inr ⟨rfl, hlatest⟩))), .inr (.inl ⟨by decide,
      due_threeTimes.mpr (.inl rfl), by decide, by decide⟩)⟩
  obtain ⟨w, hw, hfirst, hsecond⟩ := hrun
  have hreach := (hruns w (TransSys.reachableWhen_of_run hinit hmeets hw)).2
  exact ⟨w, hw, hstart 3980 (by decide) (by decide), hreach 1 3960 hfirst, hreach 1 4920 hsecond⟩

/-- **What goes otherwise.**  A start at 11 o'clock takes 12 o'clock, which is to come.  A player
    that arrives for the first time ever is given nothing.  A player that was online at 12 o'clock
    is not given that reward if the server stops before it checks. -/
theorem given_otherwise :
    (initProvideEnergyInfo threeTimes 3540).time = 3600 ∧
      (∃ w, (system threeTimes).run (watchedAt threeTimes 3980 (playersSince 0)) evening = some w ∧
        w.present 1 3960 ∧ w.state.provided 1 3960 = 0) ∧
      ∃ w, (system threeTimes).run (watchedAt threeTimes 3610 (playersSince 3600))
          [.enter 3620 1, .restart 3961, .update 4921] = some w ∧
        w.present 1 3960 ∧ w.state.provided 1 3960 = 0 := by
  have hlatest : threeTimes.IsLatest 3990 3960 :=
    ⟨due_threeTimes.mpr (.inr (.inr rfl)), by decide, fun j hj hjn => by
      have hentry := due_threeTimes.mp hj
      omega⟩
  refine ⟨by decide, ⟨_, rfl, .inl (.inl (.inr (.inr ⟨rfl, hlatest⟩))), by decide⟩, _, rfl,
    .inl (.inr (.inl ⟨by decide, due_threeTimes.mpr (.inr (.inr rfl)), by decide, by decide⟩)),
    by decide⟩

end Steppingstone.Energy
