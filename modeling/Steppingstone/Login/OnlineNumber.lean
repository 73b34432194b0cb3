/-
  Steppingstone.Login.OnlineNumber — the online number of the member system (`ManageOnlinePlayer`).

  The accounts of each line are kept in sets, and beside them the number of all.  A login and a
  report compute the number anew from the sets; a logoff takes the account out of its set and
  leaves the number.
-/
import Steppingstone.Lib.MapSum
import Steppingstone.Lib.TransSys
import Steppingstone.Login.Model

namespace Steppingstone.Login

open Std (TreeMap TreeSet)
open Steppingstone.Cross (Text)

/-! ## §1. The calls. -/

/-- The calls that the gates' packets lead to. -/
inductive OnlineCall where
  | playerLoginSuccess (lineNo : UInt32) (account : Text)
  | playerLoginoff (lineNo : UInt32) (account : Text)
  | handleReportOnlineNumber (onlineInfo : List (UInt32 × Text))
  deriving DecidableEq, Repr

/-- The sum of the sizes of the sets. -/
def OnlinePlayer.total (p : OnlinePlayer) : Nat := MapSum.total TreeSet.size p.onlinePlayer

/-- `ManageOnlinePlayer`, and the values that the sum has taken. -/
structure OnlineRecord where
  players : OnlinePlayer := {}
  /-- Ghost -/
  totals : List Nat := []

namespace OnlineRecord

variable (s : OnlineRecord)

/-- The sum is recorded. -/
def become (p : OnlinePlayer) : OnlineRecord where
  players := p
  totals := s.totals ++ [p.total]

/-- `playerLoginSuccess` -/
def loginSuccess (lineNo : UInt32) (account : Text) : OnlineRecord :=
  s.become (playerLoginSuccess s.players lineNo account)

/-- `handleReportOnlineNumber` -/
def report (onlineInfo : List (UInt32 × Text)) : OnlineRecord :=
  onlineInfo.foldl (fun s info => s.loginSuccess info.1 info.2) s

end OnlineRecord

/-- The record under any sequence of calls. -/
def onlineSystem : TransSys OnlineRecord OnlineCall where
  init s := s = {}
  step s
    | .playerLoginSuccess lineNo account => some (s.loginSuccess lineNo account)
    | .playerLoginoff lineNo account => some (s.become (playerLoginoff s.players lineNo account))
    | .handleReportOnlineNumber onlineInfo => some (s.report onlineInfo)

/-- **The online number is exact**, and the maximum is one. -/
structure OnlineRecord.Exact (s : OnlineRecord) : Prop where
  current : s.players.currentOnlineNumber = s.players.total
  maxNumber : s.players.total ≤ s.players.maxOnlineNumber ∧
    ∀ n ∈ s.totals, n ≤ s.players.maxOnlineNumber

/-- The condition on a call: a logoff does not find its account. -/
def FindsNobody (s : OnlineRecord) : OnlineCall → Prop
  | .playerLoginoff lineNo account => account ∉ s.players.onlineSet lineNo
  | _ => True

instance (s : OnlineRecord) (call : OnlineCall) : Decidable (FindsNobody s call) := by
  cases call <;> unfold FindsNobody <;> infer_instance

/-! ## §2. The sum. -/

/-- The size of a set that is replaced goes, and the new one comes. -/
theorem total_insert (p : OnlinePlayer) (lineNo : UInt32) (set : TreeSet Text) :
    MapSum.total TreeSet.size (p.onlinePlayer.insert lineNo set) + (p.onlineSet lineNo).size
      = p.total + set.size := by
  have hsum := MapSum.total_insert TreeSet.size p.onlinePlayer lineNo set
  have hold : ((p.onlinePlayer[lineNo]?).map TreeSet.size).getD 0
      = (p.onlineSet lineNo).size := by
    unfold OnlinePlayer.onlineSet
    cases p.onlinePlayer[lineNo]? with
    | none => rfl
    | some set => rfl
  rw [hold] at hsum
  exact hsum

/-- **A login computes the number anew.** -/
theorem current_playerLoginSuccess (p : OnlinePlayer) (lineNo : UInt32) (account : Text) :
    (playerLoginSuccess p lineNo account).currentOnlineNumber
      = (playerLoginSuccess p lineNo account).total := rfl

/-- **A logoff** lowers the sum by one exactly if it finds its account. -/
theorem total_playerLoginoff (p : OnlinePlayer) (lineNo : UInt32) (account : Text) :
    (playerLoginoff p lineNo account).total + (if account ∈ p.onlineSet lineNo then 1 else 0)
      = p.total := by
  have hsum := total_insert p lineNo ((p.onlineSet lineNo).erase account)
  have hsize : ((p.onlineSet lineNo).erase account).size
      = if (p.onlineSet lineNo).contains account = true then (p.onlineSet lineNo).size - 1
        else (p.onlineSet lineNo).size := TreeSet.size_erase
  have htotal : (playerLoginoff p lineNo account).total = MapSum.total TreeSet.size
      (p.onlinePlayer.insert lineNo ((p.onlineSet lineNo).erase account)) := rfl
  by_cases hfound : account ∈ p.onlineSet lineNo
  · -- a set with an element is not empty
    have hpos : (p.onlineSet lineNo).size ≠ 0 := by
      intro hzero
      have hempty : (p.onlineSet lineNo).isEmpty = true := by
        rw [TreeSet.isEmpty_eq_size_eq_zero, hzero]
        rfl
      exact TreeSet.not_mem_of_isEmpty hempty hfound
    rw [if_pos hfound]
    rw [if_pos (TreeSet.mem_iff_contains.mp hfound)] at hsize
    omega
  · rw [if_neg hfound]
    rw [if_neg (fun hc => hfound (TreeSet.mem_iff_contains.mpr hc))] at hsize
    omega

/-! ## §3. The maximum. -/

namespace OnlineRecord

variable {s s' : OnlineRecord}

/-- The maximum is one. -/
def Bounded (s : OnlineRecord) : Prop :=
  s.players.total ≤ s.players.maxOnlineNumber ∧ ∀ n ∈ s.totals, n ≤ s.players.maxOnlineNumber

theorem Bounded.become (h : s.Bounded) {p : OnlinePlayer}
    (hmax : s.players.maxOnlineNumber ≤ p.maxOnlineNumber) (htotal : p.total ≤ p.maxOnlineNumber) :
    (s.become p).Bounded := by
  refine ⟨htotal, fun n hn => ?_⟩
  match List.mem_append.mp hn with
  | Or.inl hold => exact Nat.le_trans (h.2 n hold) hmax
  | Or.inr hnew =>
      rw [List.mem_singleton.mp hnew]
      exact htotal

theorem Bounded.loginSuccess (h : s.Bounded) (lineNo : UInt32) (account : Text) :
    (s.loginSuccess lineNo account).Bounded :=
  h.become (Nat.le_max_left ..) (Nat.le_max_right ..)

theorem Bounded.loginoff (h : s.Bounded) (lineNo : UInt32) (account : Text) :
    (s.become (playerLoginoff s.players lineNo account)).Bounded := by
  have hsum := total_playerLoginoff s.players lineNo account
  have hle := h.1
  refine h.become (Nat.le_refl _) ?_
  show _ ≤ s.players.maxOnlineNumber
  omega

/-- A report is one login after the other. -/
theorem Bounded.report (h : s.Bounded) (onlineInfo : List (UInt32 × Text)) :
    (s.report onlineInfo).Bounded := by
  induction onlineInfo generalizing s with
  | nil => exact h
  | cons info onlineInfo ih => exact ih (h.loginSuccess info.1 info.2)

/-- **Every call** keeps the maximum. -/
theorem Bounded.step (h : s.Bounded) {call : OnlineCall}
    (hst : onlineSystem.step s call = some s') : s'.Bounded := by
  cases call with
  | playerLoginSuccess lineNo account =>
      rw [← Option.some.inj hst]
      exact h.loginSuccess lineNo account
  | playerLoginoff lineNo account =>
      rw [← Option.some.inj hst]
      exact h.loginoff lineNo account
  | handleReportOnlineNumber onlineInfo =>
      rw [← Option.some.inj hst]
      exact h.report onlineInfo

theorem Bounded.init : Bounded {} :=
  ⟨Nat.le_refl _, fun _ hn => absurd hn List.not_mem_nil⟩

end OnlineRecord

/-- **In every run** the maximum is at least every value that the sum has taken. -/
theorem reachable_maxNumber {s : OnlineRecord} (hs : onlineSystem.Reachable s) : s.Bounded := by
  refine hs.invariant ?_ ?_
  · intro s hs
    rw [show s = {} from hs]
    exact OnlineRecord.Bounded.init
  · intro s call s' h _ hst
    exact h.step hst

/-! ## §4. The number. -/

theorem current_report {s : OnlineRecord} (h : s.players.currentOnlineNumber = s.players.total)
    (onlineInfo : List (UInt32 × Text)) :
    (s.report onlineInfo).players.currentOnlineNumber = (s.report onlineInfo).players.total := by
  induction onlineInfo generalizing s with
  | nil => exact h
  | cons info onlineInfo ih =>
      exact ih (s := s.loginSuccess info.1 info.2)
        (current_playerLoginSuccess s.players info.1 info.2)

/-- **A call keeps the number exact** exactly if it is no logoff that finds its account. -/
theorem exact_step {s s' : OnlineRecord} {call : OnlineCall} (h : s.Exact)
    (hst : onlineSystem.step s call = some s') : s'.Exact ↔ FindsNobody s call := by
  have hmax : s'.Bounded := OnlineRecord.Bounded.step h.maxNumber hst
  have hexact : s'.Exact ↔ s'.players.currentOnlineNumber = s'.players.total :=
    ⟨fun h => h.current, fun h => ⟨h, hmax⟩⟩
  rw [hexact]
  cases call with
  | playerLoginSuccess lineNo account =>
      rw [← Option.some.inj hst]
      exact iff_of_true (current_playerLoginSuccess s.players lineNo account) trivial
  | playerLoginoff lineNo account =>
      rw [← Option.some.inj hst]
      have hsum := total_playerLoginoff s.players lineNo account
      have hcurrent := h.current
      show s.players.currentOnlineNumber = (playerLoginoff s.players lineNo account).total ↔
        account ∉ s.players.onlineSet lineNo
      by_cases hfound : account ∈ s.players.onlineSet lineNo
      · rw [if_pos hfound] at hsum
        refine iff_of_false ?_ (not_not_intro hfound)
        omega
      · rw [if_neg hfound] at hsum
        refine iff_of_true ?_ hfound
        omega
  | handleReportOnlineNumber onlineInfo =>
      rw [← Option.some.inj hst]
      exact iff_of_true (current_report h.current onlineInfo) trivial

theorem exact_init : OnlineRecord.Exact {} := ⟨rfl, OnlineRecord.Bounded.init⟩

/-- **The online number is exact** after each call, if and only if no logoff finds its account. -/
theorem online_number_exact_iff {calls : List OnlineCall} {s : OnlineRecord}
    (hrun : onlineSystem.run {} calls = some s) :
    (∀ done t, done <+: calls → onlineSystem.run {} done = some t → t.Exact) ↔
      onlineSystem.RunMeets FindsNobody {} calls :=
  TransSys.always_iff_runMeets (fun _ _ _ h hst => exact_step h hst) exact_init hrun

/-- Two players, one of them reported twice, and a logoff of somebody else. -/
def threeAccounts : List OnlineCall :=
  [.playerLoginSuccess 1 ['a'], .handleReportOnlineNumber [(2, ['b']), (2, ['b'])],
    .playerLoginoff 1 ['c']]

theorem online_number_exact_threeAccounts :
    ∃ s, onlineSystem.run {} threeAccounts = some s ∧ s.Exact := by
  obtain ⟨s, hs⟩ : ∃ s, onlineSystem.run {} threeAccounts = some s := ⟨_, rfl⟩
  have hmeets : onlineSystem.RunMeets FindsNobody {} threeAccounts :=
    ⟨trivial, _, rfl, trivial, _, rfl, by decide, _, rfl, trivial⟩
  exact ⟨s, hs, (online_number_exact_iff hs).mpr hmeets _ _ (List.prefix_refl _) hs⟩

/-- **The defect**: a logoff leaves the number. -/
theorem logoff_not_counted :
    ¬ ∀ calls s, onlineSystem.run {} calls = some s → s.Exact := by
  intro hall
  have hcurrent := (hall [.playerLoginSuccess 1 ['a'], .playerLoginoff 1 ['a']] _ rfl).current
  exact absurd hcurrent (by decide)

end Steppingstone.Login
