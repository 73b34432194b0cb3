/-
  Steppingstone.Report.Ids — the ids of battle reports, over restarts of the line servers.

  Models `ManageBattleReport` of several lines: the counter in memory, the file `report_index.txt`
  with the index up to which ids may be out, and the id made of platform, line and counter.  A line
  can stop at any moment, also while it writes the file.
-/
import Mathlib.Data.List.TakeWhile
import Mathlib.Data.Nat.Digits.Lemmas
import Mathlib.Tactic.Ring
import Steppingstone.Dbc.Text
import Steppingstone.Lib.HighWater
import Steppingstone.Lib.TransSys

namespace Steppingstone.Report

open Dbc (Bytes digitsValue isDigit atoi)

/-! ## §1. The id. -/

/-- `MAKE_REPORT_ID` -/
def makeReportId (platformId lineId : Int32) (reportIndex : UInt64) : UInt64 :=
  ((platformId.toInt64.toUInt64 <<< (48 : UInt64)) &&& (0xFF00000000000000 : UInt64))
    ||| ((lineId.toInt64.toUInt64 <<< (32 : UInt64)) &&& (0x00FF000000000000 : UInt64))
    ||| (reportIndex &&& (0x00000000FFFFFFFF : UInt64))

/-- `REPORT_MAX_NUMBER` -/
def reportMaxNumber : UInt64 := 0xFFFFFFFF

/-- `report_id_assign_interval` -/
def reportIdAssignInterval : UInt64 := 10000

/-! ## §2. One line. -/

/-- `m_report_index` and `m_report_assign_index` -/
structure ManageBattleReport where
  reportIndex : UInt64
  reportAssignIndex : UInt64
  deriving DecidableEq, Repr

/-- `boost::lexical_cast<string>` of a `uint64` -/
def lexicalCast (n : UInt64) : Bytes :=
  if n = 0 then [48] else (Nat.digits 10 n.toNat).reverse.map fun d => UInt8.ofNat (48 + d)

/-- `getline` into a buffer of 100 chars, up to the NUL. -/
def firstLine (content : Bytes) : Bytes :=
  (content.take 99).takeWhile fun c => c ≠ 10 && c ≠ 0

/-- `ManageBattleReport::loadReportId`; without a file the index 0 is written to a new one. -/
def loadReportId (file : Option Bytes) : ManageBattleReport × Bytes :=
  match file with
  | some content =>
      let reportIndex := UInt64.ofInt (atoi (firstLine content))
      ({ reportIndex, reportAssignIndex := reportIndex }, content)
  | none => ({ reportIndex := 0, reportAssignIndex := 0 }, lexicalCast 0)

/-- The next id is in no lease: `saveReportId` is called. -/
def ManageBattleReport.Empty (m : ManageBattleReport) : Prop :=
  m.reportAssignIndex ≤ m.reportIndex

instance (m : ManageBattleReport) : Decidable m.Empty := inferInstanceAs (Decidable (_ ≤ _))

/-- The indexes when `saveReportId` is called. -/
def ManageBattleReport.assign (m : ManageBattleReport) : ManageBattleReport :=
  let assignIndex := m.reportAssignIndex + reportIdAssignInterval
  if assignIndex ≥ reportMaxNumber then
    { reportIndex := 0, reportAssignIndex := 0 + reportIdAssignInterval }
  else { m with reportAssignIndex := assignIndex }

/-- `ManageBattleReport::getBattleReportId`: the indexes, the file, and the id. -/
def getBattleReportId (platformId lineId : Int32) (m : ManageBattleReport) (file : Option Bytes) :
    ManageBattleReport × Option Bytes × UInt64 :=
  let assigned := if m.Empty then m.assign else m
  let file := if m.Empty then some (lexicalCast assigned.reportAssignIndex) else file
  let reportIndex := assigned.reportIndex + 1
  ({ assigned with reportIndex }, file, makeReportId platformId lineId reportIndex)

/-! ## §3. The lines. -/

/-- What the configuration says of a line. -/
structure ServerCfg where
  platformId : Int32
  lineId : Int32
  deriving DecidableEq, Repr

section

variable {κ : Type} [DecidableEq κ]

/-- The lines that run, their files, and all ids so far, each with its line. -/
structure State (κ : Type) where
  running : κ → Option ManageBattleReport := fun _ => none
  file : κ → Option Bytes := fun _ => none
  issued : List (κ × UInt64) := []

/-- `stop` is the end of the process at any moment between two calls; the others end it in a call
after `n` bytes of the file were written. -/
inductive Action (κ : Type) where
  | start (k : κ)
  | getBattleReportId (k : κ)
  | stop (k : κ)
  | dieStarting (k : κ) (n : Nat)
  | dieSaving (k : κ) (n : Nat)
  deriving DecidableEq, Repr

/-- A server starts or stops, or makes an id. -/
def step (cfg : κ → ServerCfg) (s : State κ) : Action κ → Option (State κ)
  | .start k =>
      match s.running k with
      | some _ => none
      | none =>
          let (m, content) := loadReportId (s.file k)
          some
            { s with
              running := Function.update s.running k (some m)
              file := Function.update s.file k (some content) }
  | .getBattleReportId k =>
      match s.running k with
      | none => none
      | some m =>
          let (m, file, id) :=
            getBattleReportId (cfg k).platformId (cfg k).lineId m (s.file k)
          some
            { running := Function.update s.running k (some m)
              file := Function.update s.file k file
              issued := s.issued ++ [(k, id)] }
  | .stop k => some { s with running := Function.update s.running k none }
  | .dieStarting k n =>
      match s.running k, s.file k with
      | none, none =>
          some { s with file := Function.update s.file k (some ((lexicalCast 0).take n)) }
      | _, _ => none
  | .dieSaving k n =>
      match s.running k with
      | none => none
      | some m =>
          if m.Empty then some
            { s with
              running := Function.update s.running k none
              file := Function.update s.file k
                (some ((lexicalCast m.assign.reportAssignIndex).take n)) }
          else none

/-- The servers and their files, step by step. -/
def system (cfg : κ → ServerCfg) : TransSys (State κ) (Action κ) where
  init := fun s => s = {}
  step := step cfg

end

/-! ## §4. What is in an id. -/

/-- A mask of one byte. -/
theorem and_byte (x m : Nat) : x &&& ((2 ^ 8 - 1) <<< m) = 2 ^ m * (x / 2 ^ m % 2 ^ 8) := by
  have hshift : x &&& ((2 ^ 8 - 1) <<< m) = (x >>> m &&& (2 ^ 8 - 1)) <<< m := by
    refine Nat.eq_of_testBit_eq fun i => ?_
    rw [Nat.testBit_and, Nat.testBit_shiftLeft, Nat.testBit_shiftLeft, Nat.testBit_and,
      Nat.testBit_shiftRight]
    by_cases hi : m ≤ i
    · rw [Nat.add_sub_cancel' hi]
      simp [hi]
    · simp [hi]
  rw [hshift, Nat.and_two_pow_sub_one_eq_mod, Nat.shiftLeft_eq, Nat.shiftRight_eq_div_pow,
    Nat.mul_comm]

/-- A byte of `x`, moved to the highest or the second byte. -/
theorem byte_toNat (x : UInt64) :
    ((x <<< (48 : UInt64)) &&& (0xFF00000000000000 : UInt64)).toNat
        = 2 ^ 56 * (x.toNat / 2 ^ 8 % 2 ^ 8) ∧
      ((x <<< (32 : UInt64)) &&& (0x00FF000000000000 : UInt64)).toNat
        = 2 ^ 48 * (x.toNat / 2 ^ 16 % 2 ^ 8) := by
  rw [UInt64.toNat_and, UInt64.toNat_and, UInt64.toNat_shiftLeft, UInt64.toNat_shiftLeft]
  show (x.toNat <<< 48) % 2 ^ 64 &&& ((2 ^ 8 - 1) <<< 56) = _ ∧
    (x.toNat <<< 32) % 2 ^ 64 &&& ((2 ^ 8 - 1) <<< 48) = _
  rw [and_byte, and_byte, Nat.shiftLeft_eq, Nat.shiftLeft_eq]
  omega

/-- An id, byte by byte. -/
theorem makeReportId_toNat (platformId lineId : Int32) (reportIndex : UInt64) :
    (makeReportId platformId lineId reportIndex).toNat
      = 2 ^ 56 * (platformId.toInt64.toUInt64.toNat / 2 ^ 8 % 2 ^ 8)
        + 2 ^ 48 * (lineId.toInt64.toUInt64.toNat / 2 ^ 16 % 2 ^ 8)
        + reportIndex.toNat % 2 ^ 32 := by
  have hindex : (reportIndex &&& (0x00000000FFFFFFFF : UInt64)).toNat
      = reportIndex.toNat % 2 ^ 32 := by
    rw [UInt64.toNat_and]
    exact Nat.and_two_pow_sub_one_eq_mod reportIndex.toNat 32
  -- the three parts have no bit in common
  have hhigh : ∀ a b c : Nat, b < 2 ^ 8 → c < 2 ^ 48 →
      2 ^ 56 * a ||| 2 ^ 48 * b ||| c = 2 ^ 56 * a + 2 ^ 48 * b + c := by
    intro a b c hb hc
    have hab := Nat.two_pow_add_eq_or_of_lt (i := 56) (b := 2 ^ 48 * b) (by omega) a
    have habc := Nat.two_pow_add_eq_or_of_lt hc (2 ^ 8 * a + b)
    have hsum : 2 ^ 56 * a + 2 ^ 48 * b = 2 ^ 48 * (2 ^ 8 * a + b) := by ring
    rw [← hab, hsum, ← habc]
  unfold makeReportId
  rw [UInt64.toNat_or, UInt64.toNat_or, hindex, (byte_toNat _).1, (byte_toNat _).2]
  exact hhigh _ _ _ (Nat.mod_lt _ (by decide))
    (Nat.lt_of_lt_of_le (Nat.mod_lt _ (by decide)) (by decide))

/-- The bytes of platform and line that an id has. -/
def ServerCfg.slot (cfg : ServerCfg) : Nat × Nat :=
  (cfg.platformId.toInt64.toUInt64.toNat / 256 % 256,
    cfg.lineId.toInt64.toUInt64.toNat / 65536 % 256)

/-- **What is left in an id**: the second byte of the platform, the third of the line, and the index
modulo 2^32. -/
theorem makeReportId_eq_iff {cfg cfg' : ServerCfg} {i j : UInt64} :
    makeReportId cfg.platformId cfg.lineId i = makeReportId cfg'.platformId cfg'.lineId j ↔
      cfg.slot = cfg'.slot ∧ i.toNat % 2 ^ 32 = j.toNat % 2 ^ 32 := by
  rw [← UInt64.toNat_inj, makeReportId_toNat, makeReportId_toNat]
  unfold ServerCfg.slot
  rw [Prod.mk.injEq]
  omega

/-! ## §5. The file. -/

/-- A digit is read back. -/
theorem digit_byte {d : Nat} (hd : d < 10) :
    isDigit (UInt8.ofNat (48 + d)) = true ∧ (UInt8.ofNat (48 + d)).toNat - 48 = d := by
  have htoNat : (UInt8.ofNat (48 + d)).toNat = 48 + d := by
    rw [UInt8.toNat_ofNat']
    omega
  refine ⟨?_, by omega⟩
  simp only [isDigit, Bool.and_eq_true, decide_eq_true_eq, UInt8.le_iff_toNat_le, htoNat]
  show 48 ≤ 48 + d ∧ 48 + d ≤ 57
  omega

/-- A number is written in digits. -/
theorem lexicalCast_digits (n : UInt64) : ∀ c ∈ lexicalCast n, isDigit c = true := by
  intro c hc
  unfold lexicalCast at hc
  split at hc
  · rw [List.mem_singleton.mp hc]
    rfl
  · obtain ⟨d, hd, rfl⟩ := List.mem_map.mp hc
    exact (digit_byte (Nat.digits_lt_base (by decide) (List.mem_reverse.mp hd))).1

/-- They have its value. -/
theorem lexicalCast_value (n : UInt64) :
    Nat.ofDigits 10 ((lexicalCast n).reverse.map fun d => d.toNat - 48) = n.toNat := by
  unfold lexicalCast
  split
  · next h => rw [h]; rfl
  · rw [List.map_reverse, List.map_reverse, List.map_reverse, List.reverse_reverse, List.map_map]
    have hdigits : (Nat.digits 10 n.toNat).map
        ((fun d => d.toNat - 48) ∘ fun d => UInt8.ofNat (48 + d)) = Nat.digits 10 n.toNat := by
      refine (List.map_congr_left fun d hd => ?_).trans (List.map_id _)
      exact (digit_byte (Nat.digits_lt_base (by decide) hd)).2
    rw [hdigits, Nat.ofDigits_digits]

theorem lexicalCast_ne_nil (n : UInt64) : lexicalCast n ≠ [] := by
  unfold lexicalCast
  split
  · exact List.cons_ne_nil _ _
  · next h =>
      have hpos : n.toNat ≠ 0 := fun h0 => h (UInt64.toNat_inj.mp h0)
      simpa [Nat.digits_ne_nil_iff_ne_zero] using hpos

theorem lexicalCast_length (n : UInt64) : (lexicalCast n).length ≤ 20 := by
  unfold lexicalCast
  split
  · decide
  · rw [List.length_map, List.length_reverse]
    have hlt : n.toNat < 10 ^ 20 := Nat.lt_trans n.toNat_lt (by decide)
    exact (Nat.digits_length_le_iff (by decide) _).mpr hlt

theorem not_sign_of_digit {c : UInt8} (h : isDigit c = true) :
    c ≠ 45 ∧ c ≠ 43 ∧ c ≠ 10 ∧ c ≠ 0 := by
  refine ⟨?_, ?_, ?_, ?_⟩
  all_goals
    rintro rfl
    exact absurd h (by decide)

/-- The whole text is read. -/
theorem firstLine_lexicalCast (n : UInt64) : firstLine (lexicalCast n) = lexicalCast n := by
  have hlen := lexicalCast_length n
  unfold firstLine
  rw [List.take_of_length_le (by omega)]
  refine List.takeWhile_eq_self_iff.mpr fun c hc => ?_
  have hsign := not_sign_of_digit (lexicalCast_digits n c hc)
  simp [hsign.2.2.1, hsign.2.2.2]

/-- **The index that is saved** is the one that is loaded, as long as it is an `int`. -/
theorem atoi_lexicalCast {n : UInt64} (hn : n.toNat < 2 ^ 31) :
    atoi (lexicalCast n) = n.toNat := by
  have hmag : Dbc.magnitude (lexicalCast n) = lexicalCast n := by
    cases hcast : lexicalCast n with
    | nil => exact absurd hcast (lexicalCast_ne_nil n)
    | cons c rest =>
        have hc := not_sign_of_digit (lexicalCast_digits n c (hcast ▸ List.mem_cons_self))
        rw [Dbc.magnitude_cons, if_neg]
        rintro (h | h)
        · exact hc.1 h
        · exact hc.2.1 h
  have hvalue : Dbc.intValue (lexicalCast n) = n.toNat := by
    unfold Dbc.intValue
    rw [if_neg, hmag, lexicalCast_value]
    intro hhead
    exact (not_sign_of_digit (lexicalCast_digits n 45 (List.mem_of_head? hhead))).1 rfl
  rw [Dbc.atoi_eq, hvalue]
  refine ⟨hmag.symm ▸ lexicalCast_ne_nil n, hmag.symm ▸ lexicalCast_digits n, ?_, ?_⟩
  · rw [hvalue]
    omega
  · rw [hvalue]
    omega

end Steppingstone.Report
