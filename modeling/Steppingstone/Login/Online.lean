/-
  Steppingstone.Login.Online — the online accounts of the member system and the sessions of a gate.

  The member system adds an account when a session is validated and takes it out when a session is
  closed; it does not count.  While another session of the account is open, the logoff of one takes
  the account out.
-/
import Steppingstone.Login.Bound
import Steppingstone.Login.Lines

namespace Steppingstone.Login

open Std (TreeMap TreeSet)
open Steppingstone.Cross (Text)
open Gate (SessionId AccountRoleInfo)

/-! ## §1. The member system. -/

theorem onlineSet_insert (p : TreeMap UInt32 (TreeSet Text)) (line line' : UInt32)
    (set : TreeSet Text) :
    ((p.insert line set)[line']?).getD {} = if line' = line then set else (p[line']?).getD {} := by
  rw [Lookup.getElem?_insert]
  by_cases h : line' = line
  · rw [if_pos h, if_pos h]
    rfl
  · rw [if_neg h, if_neg h]

/-- Who is online after a login. -/
theorem mem_playerLoginSuccess (p : OnlinePlayer) (line line' : UInt32) (account a : Text) :
    a ∈ (playerLoginSuccess p line account).onlineSet line' ↔
      (line' = line ∧ a = account) ∨ a ∈ p.onlineSet line' := by
  show a ∈ ((p.onlinePlayer.insert line ((p.onlineSet line).insert account))[line']?).getD {} ↔ _
  rw [onlineSet_insert]
  by_cases h : line' = line
  · rw [if_pos h, TreeSet.mem_insert, Std.LawfulEqCmp.compare_eq_iff_eq, h]
    constructor
    · intro hm
      exact hm.imp (fun heq => ⟨rfl, heq.symm⟩) id
    · intro hm
      exact hm.imp (fun heq => heq.2.symm) id
  · rw [if_neg h]
    constructor
    · intro hm
      exact .inr hm
    · intro hm
      exact hm.resolve_left fun heq => h heq.1

/-- Who is online after a log-off. -/
theorem mem_playerLoginoff (p : OnlinePlayer) (line line' : UInt32) (account a : Text) :
    a ∈ (playerLoginoff p line account).onlineSet line' ↔
      ¬ (line' = line ∧ a = account) ∧ a ∈ p.onlineSet line' := by
  show a ∈ ((p.onlinePlayer.insert line ((p.onlineSet line).erase account))[line']?).getD {} ↔ _
  rw [onlineSet_insert]
  by_cases h : line' = line
  · rw [if_pos h, TreeSet.mem_erase, Ne, Std.LawfulEqCmp.compare_eq_iff_eq, h]
    constructor
    · intro hm
      exact ⟨fun heq => hm.1 heq.2.symm, hm.2⟩
    · intro hm
      exact ⟨fun heq => hm.1 ⟨rfl, heq.symm⟩, hm.2⟩
  · rw [if_neg h]
    constructor
    · intro hm
      exact ⟨fun heq => h heq.1, hm⟩
    · intro hm
      exact hm.2

/-- The member system once it has received every notice that is on its way. -/
def State.delivered (s : State) : OnlinePlayer := s.loginStream.foldl OnlinePlayer.receive s.member

/-- The account is kept for the line. -/
def State.Kept (s : State) (account : Text) (line : UInt32) : Prop :=
  account ∈ s.delivered.onlineSet line

theorem delivered_append (s : State) (notices : List Notice) :
    (s.loginStream ++ notices).foldl OnlinePlayer.receive s.member =
      notices.foldl OnlinePlayer.receive s.delivered := List.foldl_append ..

/-- Who is online when the notices on their way have arrived. -/
theorem kept_moved (s : State) (gate : Gate.GateState) (notices : List Notice) (account : Text)
    (line : UInt32) : (s.moved gate notices).Kept account line ↔
      account ∈ (notices.foldl OnlinePlayer.receive s.delivered).onlineSet line := by
  show account ∈ ((s.loginStream ++ notices).foldl OnlinePlayer.receive s.member).onlineSet line ↔ _
  rw [delivered_append]

/-! ## §2. The gate. -/

/-- Session `i` is not closed. -/
def State.IsOpen (s : State) (i : SessionId) : Prop :=
  i ∉ s.gate.cleaned ∧ (s.gate.sessions i).isSome

/-- Session `i` is open, and validated for the account, on the line. -/
def State.Holds (s : State) (i : SessionId) (account : Text) (line : UInt32) : Prop :=
  (s.accounts i).validated = true ∧ (s.accounts i).accountId = account ∧ i ∉ s.gate.cleaned ∧
    (s.gate.sessions i).map (·.lineNo) = some line

/-- Another session than `i` holds the account. -/
def State.OtherHolds (s : State) (i : SessionId) (account : Text) (line : UInt32) : Prop :=
  ∃ j, j ≠ i ∧ s.Holds j account line

/-- **The member system agrees with the gate**: it keeps the accounts that some session holds. -/
def Agrees (s : State) : Prop :=
  ∀ account line, s.Kept account line ↔ ∃ i, s.Holds i account line

/-- Numbers of sessions are not used twice. -/
def Fresh (s : State) : Prop := ∀ i, s.gate.next ≤ i → s.gate.sessions i = none

theorem State.Holds.isOpen {s : State} {i : SessionId} {account : Text} {line : UInt32}
    (h : s.Holds i account line) : s.IsOpen i := by
  obtain ⟨-, -, hclean, hline⟩ := h
  obtain ⟨cs, hcs, -⟩ := Option.map_eq_some_iff.mp hline
  exact ⟨hclean, by rw [hcs]; rfl⟩

/-- A session holds one account on one line. -/
theorem State.Holds.unique {s : State} {i : SessionId} {account account' : Text}
    {line line' : UInt32} (h : s.Holds i account line) (h' : s.Holds i account' line') :
    account = account' ∧ line = line' :=
  ⟨h.2.1.symm.trans h'.2.1, Option.some.inj (h.2.2.2.symm.trans h'.2.2.2)⟩

/-- An account is held by session `i` or by another. -/
theorem holds_split (s : State) (i : SessionId) (account : Text) (line : UInt32) :
    (∃ j, s.Holds j account line) ↔ s.Holds i account line ∨ s.OtherHolds i account line := by
  constructor
  · intro h
    obtain ⟨j, hj⟩ := h
    by_cases heq : j = i
    · exact .inl (heq ▸ hj)
    · exact .inr ⟨j, heq, hj⟩
  · intro h
    cases h with
    | inl hi => exact ⟨i, hi⟩
    | inr hother =>
        obtain ⟨j, -, hj⟩ := hother
        exact ⟨j, hj⟩

/-- Two states in which a session holds the same. -/
theorem holds_congr (s s' : State) {j : SessionId} {account : Text} {line : UInt32}
    (haccounts : s'.accounts j = s.accounts j)
    (hclean : j ∈ s'.gate.cleaned ↔ j ∈ s.gate.cleaned)
    (hline : (s'.gate.sessions j).map (·.lineNo) = (s.gate.sessions j).map (·.lineNo)) :
    s'.Holds j account line ↔ s.Holds j account line := by
  unfold State.Holds
  rw [haccounts, hclean, hline]

/-- States in which every session holds the same and the same is kept agree alike. -/
theorem agrees_congr (s s' : State)
    (hholds : ∀ j account line, s'.Holds j account line ↔ s.Holds j account line)
    (hkept : ∀ account line, s'.Kept account line ↔ s.Kept account line) (h : Agrees s) :
    Agrees s' := by
  intro account line
  rw [hkept, h account line]
  exact exists_congr fun j => (hholds j account line).symm

/-! ## §3. What disturbs the agreement. -/

/-- A client that passes has an open session, unless its account is held already; and what its
    session held before is the same account on the same line, or held by another session too. -/
def ValidatesFresh (s : State) (i : SessionId) (account : Text) (line : UInt32) : Prop :=
  (s.IsOpen i ∨ s.OtherHolds i account line) ∧
    ∀ account' line', s.Holds i account' line' →
      (account' = account ∧ line' = line) ∨ s.OtherHolds i account' line'

/-- A session that is closed: the account it logs off is held by no other session; where it came
    online again, and logs off nothing, what it holds is held by another. -/
def ClosesLast (s : State) (i : SessionId) : Prop :=
  i ∉ s.gate.cleaned → ∀ cs, s.gate.sessions i = some cs →
    if cs.loginAgain then
      ∀ account line, s.Holds i account line → s.OtherHolds i account line
    else ¬ s.OtherHolds i (s.accounts i).accountId cs.lineNo

/-- A role enters its map on the line on which its session was validated, unless the account is held
    by other sessions on both lines. -/
def KeepsLine (s : State) (i : SessionId) (info : AccountRoleInfo) : Prop :=
  ∀ account line, s.Holds i account line →
    line = info.lineId ∨ (s.OtherHolds i account line ∧ s.OtherHolds i account info.lineId)

/-- The steps in which sessions of one account do not get into each other's way. -/
def Undisturbed (cfg : Config) (s : State) : Act → Prop
  | .validate guid account key now => ∀ i auth, Passes cfg s guid account key now i auth →
      ValidatesFresh s i account auth.lineId
  | .gate (.close i) => ClosesLast s i
  | .gate (.advance j _) => ∀ i info, routes s.gate j i info → KeepsLine s i info
  | _ => True

variable {cfg : Config} {s s' : State}

/-! ### Validation -/

/-- What sessions hold after session `i` was validated. -/
theorem holds_validated {guid : UInt64} {account key : Text} {now : UInt64} {i : SessionId}
    {auth : ClientAuth} (hp : Passes cfg s guid account key now i auth) (a : Text) (line : UInt32) :
    (∃ j, (handleValidationAccountPacket cfg s guid account key now).Holds j a line) ↔
      (s.IsOpen i ∧ a = account ∧ line = auth.lineId) ∨ s.OtherHolds i a line := by
  rw [handleValidationAccountPacket_passes hp, holds_split _ i]
  have hself : (validated (asked cfg s account key now i) guid i auth account key now).Holds i a line
      ↔ s.IsOpen i ∧ a = account ∧ line = auth.lineId := by
    have hinfo : (validated (asked cfg s account key now i) guid i auth account key now).accounts i
        = { s.accounts i with
            accountId := account
            validated := true
            openId := auth.openId
            openKey := auth.openKey
            pf := auth.pf
            openapiCallTime := now / 1000000
            addictionFlag := auth.addictionFlag } := Function.update_self ..
    have hsession : (validated (asked cfg s account key now i) guid i auth account key
        now).gate.sessions i = (s.gate.sessions i).map fun cs => { cs with lineNo := auth.lineId } :=
      sessions_modify_self ..
    unfold State.Holds
    rw [hinfo, hsession, Option.map_map]
    show true = true ∧ account = a ∧ i ∉ s.gate.cleaned ∧
      (s.gate.sessions i).map (fun _ => auth.lineId) = some line ↔ _
    constructor
    · intro h
      obtain ⟨-, ha, hclean, hline⟩ := h
      obtain ⟨cs, hcs, hline⟩ := Option.map_eq_some_iff.mp hline
      exact ⟨⟨hclean, by rw [hcs]; rfl⟩, ha.symm, hline.symm⟩
    · intro h
      obtain ⟨⟨hclean, hsome⟩, ha, hline⟩ := h
      obtain ⟨cs, hcs⟩ := Option.isSome_iff_exists.mp hsome
      exact ⟨rfl, ha.symm, hclean, by rw [hcs, hline]; rfl⟩
  -- the other sessions keep theirs
  have hother : (validated (asked cfg s account key now i) guid i auth account key now).OtherHolds i
      a line ↔ s.OtherHolds i a line := by
    apply exists_congr
    intro j
    apply and_congr_right
    intro hj
    refine holds_congr s _ (Function.update_of_ne hj ..) Iff.rfl ?_
    exact congrArg _ (sessions_modify_of_ne s.gate hj _)
  rw [hself, hother]

/-- The account of a client that passes is kept from then on. -/
theorem kept_validated {guid : UInt64} {account key : Text} {now : UInt64} {i : SessionId}
    {auth : ClientAuth} (hp : Passes cfg s guid account key now i auth) (a : Text) (line : UInt32) :
    (handleValidationAccountPacket cfg s guid account key now).Kept a line ↔
      (line = auth.lineId ∧ a = account) ∨ s.Kept a line := by
  rw [handleValidationAccountPacket_passes hp]
  have hdelivered : (validated (asked cfg s account key now i) guid i auth account key now).delivered
      = playerLoginSuccess s.delivered auth.lineId account :=
    delivered_append (asked cfg s account key now i) [.loginConfirm account auth.lineId]
  unfold State.Kept
  rw [hdelivered]
  exact mem_playerLoginSuccess ..

/-- A login keeps the agreement. -/
theorem agrees_validated {guid : UInt64} {account key : Text} {now : UInt64} {i : SessionId}
    {auth : ClientAuth} (hs : Agrees s) (hp : Passes cfg s guid account key now i auth) :
    Agrees (handleValidationAccountPacket cfg s guid account key now) ↔
      ValidatesFresh s i account auth.lineId := by
  constructor
  · intro h
    constructor
    · -- the new account is kept, so it is held
      have hheld := (h account auth.lineId).mp ((kept_validated hp _ _).mpr (.inl ⟨rfl, rfl⟩))
      exact ((holds_validated hp _ _).mp hheld).imp And.left id
    · intro a line hold
      have hkept : s.Kept a line := (hs a line).mpr ⟨i, hold⟩
      have hheld := (h a line).mp ((kept_validated hp _ _).mpr (.inr hkept))
      exact ((holds_validated hp _ _).mp hheld).imp And.right id
  · intro h a line
    obtain ⟨hopen, hbefore⟩ := h
    rw [kept_validated hp, holds_validated hp, hs a line, holds_split s i]
    constructor
    · intro hk
      rcases hk with ⟨hline, ha⟩ | hold | hother
      · exact hopen.imp (fun ho => ⟨ho, ha, hline⟩) fun ho => by rw [hline, ha]; exact ho
      · exact (hbefore a line hold).imp (fun heq => ⟨hold.isOpen, heq⟩) id
      · exact .inr hother
    · intro hk
      exact hk.imp (fun hnew => ⟨hnew.2.2, hnew.2.1⟩) .inr

/-! ### Closing -/

/-- A session that is closed holds nothing any more, and the others hold what they held. -/
theorem holds_closed {i : SessionId} {gate : Gate.GateState} {notices : List Notice}
    (hclean : gate.cleaned = s.gate.cleaned ++ [i])
    (hlines : ∀ k, (gate.sessions k).map (·.lineNo) = (s.gate.sessions k).map (·.lineNo))
    (a : Text) (line : UInt32) :
    (∃ j, (s.moved gate notices).Holds j a line) ↔ s.OtherHolds i a line := by
  apply exists_congr
  intro j
  by_cases hj : j = i
  · constructor
    · intro h
      refine absurd (?_ : j ∈ gate.cleaned) h.2.2.1
      rw [hclean, hj]
      exact List.mem_append_right _ List.mem_cons_self
    · intro h
      exact absurd hj h.1
  · have hin : j ∈ gate.cleaned ↔ j ∈ s.gate.cleaned := by
      rw [hclean, List.mem_append, List.mem_singleton]
      exact or_iff_left hj
    constructor
    · intro h
      exact ⟨hj, (holds_congr s (s.moved gate notices) rfl hin (hlines j)).mp h⟩
    · intro h
      exact (holds_congr s (s.moved gate notices) rfl hin (hlines j)).mpr h.2

/-- **A close keeps it** exactly if the session was the account's last. -/
theorem agrees_closed {i : SessionId} {gate : Gate.GateState} (hs : Agrees s)
    (hgate : Gate.step s.gate (.close i) = some gate) :
    Agrees (s.moved gate (closeNotice s i).toList) ↔ ClosesLast s i := by
  obtain ⟨cs, hcs, -, hlines, hclean⟩ := close_cases hgate
  by_cases hin : i ∈ s.gate.cleaned
  · -- closed before: nothing is sent, and nothing changes
    rw [if_pos hin] at hclean
    have hnotice : closeNotice s i = none := if_pos hin
    rw [hnotice]
    constructor
    · intro _ hnot
      exact absurd hin hnot
    · intro _
      refine agrees_congr s _ (fun j a line => holds_congr s _ rfl ?_ (hlines j)) ?_ hs
      · show j ∈ gate.cleaned ↔ j ∈ s.gate.cleaned
        rw [hclean]
      · exact kept_moved s gate []
  · rw [if_neg hin] at hclean
    -- open until now: what matters is whether it had been replaced
    have hlast : ClosesLast s i ↔ if cs.loginAgain then
        ∀ account line, s.Holds i account line → s.OtherHolds i account line
      else ¬ s.OtherHolds i (s.accounts i).accountId cs.lineNo := by
      constructor
      · intro h
        exact h hin cs hcs
      · intro h _ cs' hcs'
        obtain rfl : cs = cs' := Option.some.inj (hcs.symm.trans hcs')
        exact h
    have hkept := kept_moved s gate (closeNotice s i).toList
    rw [hlast]
    cases hagain : cs.loginAgain with
    | true =>
        -- replaced by a later login: no notice is sent
        have hnotice : closeNotice s i = none := by
          unfold closeNotice
          rw [if_neg hin, hcs]
          show (if cs.loginAgain then _ else _ : Option Notice) = none
          rw [hagain]
          rfl
        rw [if_pos rfl]
        constructor
        · intro h a line hold
          have hk := (hkept a line).mpr (by rw [hnotice]; exact (hs a line).mpr ⟨i, hold⟩)
          exact (holds_closed hclean hlines a line).mp ((h a line).mp hk)
        · intro h a line
          rw [hkept, holds_closed hclean hlines, hnotice]
          show s.Kept a line ↔ _
          rw [hs a line, holds_split s i]
          constructor
          · intro hk
            exact hk.elim (h a line) id
          · intro hk
            exact .inr hk
    | false =>
        -- the notice takes the account off its line, whoever else holds it
        have hnotice : closeNotice s i = some (.logoff (s.accounts i).accountId cs.lineNo) := by
          unfold closeNotice
          rw [if_neg hin, hcs]
          show (if cs.loginAgain then _ else _ : Option Notice) = _
          rw [hagain]
          rfl
        have hoff : ∀ a line, (s.moved gate (closeNotice s i).toList).Kept a line ↔
            ¬ (line = cs.lineNo ∧ a = (s.accounts i).accountId) ∧ s.Kept a line := by
          intro a line
          rw [hkept, hnotice]
          exact mem_playerLoginoff ..
        rw [if_neg Bool.false_ne_true]
        constructor
        · intro h hother
          have hk := (h _ _).mpr ((holds_closed hclean hlines _ _).mpr hother)
          exact ((hoff _ _).mp hk).1 ⟨rfl, rfl⟩
        · intro h a line
          rw [hoff, holds_closed hclean hlines, hs a line, holds_split s i]
          constructor
          · intro hk
            obtain ⟨hne, hold⟩ := hk
            refine hold.resolve_left fun hi => hne ⟨?_, hi.2.1.symm⟩
            have hline := hi.2.2.2
            rw [hcs] at hline
            exact (Option.some.inj hline).symm
          · intro hother
            refine ⟨?_, .inr hother⟩
            intro heq
            rw [heq.1, heq.2] at hother
            exact h hother

/-! ### Entering a map -/

theorem agrees_routed {i : SessionId} {info : AccountRoleInfo} {j : Nat} {found : Bool}
    {gate : Gate.GateState} (hs : Agrees s) (hr : routes s.gate j i info)
    (hgate : Gate.step s.gate (.advance j found) = some gate) :
    Agrees (s.moved gate []) ↔ KeepsLine s i info := by
  obtain ⟨hothers, hself, hclean, -⟩ := advance_route hr hgate
  -- the session moves to the line of the role, with its account
  have hheld : ∀ a line, (∃ k, (s.moved gate []).Holds k a line) ↔
        (line = info.lineId ∧ ∃ line', s.Holds i a line') ∨ s.OtherHolds i a line := by
    intro a line
    rw [holds_split _ i]
    apply or_congr
    · unfold State.Holds
      show (s.accounts i).validated = true ∧ (s.accounts i).accountId = a ∧ i ∉ gate.cleaned ∧
        (gate.sessions i).map (·.lineNo) = some line ↔ _
      rw [hclean, hself]
      constructor
      · intro h
        obtain ⟨hv, ha, hc, hline⟩ := h
        obtain ⟨cs, hcs, hline⟩ := Option.map_eq_some_iff.mp hline
        exact ⟨hline.symm, cs.lineNo, hv, ha, hc, by rw [hcs]; rfl⟩
      · intro h
        obtain ⟨hline, line', hv, ha, hc, hline'⟩ := h
        obtain ⟨cs, hcs, -⟩ := Option.map_eq_some_iff.mp hline'
        exact ⟨hv, ha, hc, by rw [hcs, hline]; rfl⟩
    · apply exists_congr
      intro k
      apply and_congr_right
      intro hk
      refine holds_congr s _ rfl ?_ (hothers k hk)
      show k ∈ gate.cleaned ↔ _
      rw [hclean]
  have hkept : ∀ a line, (s.moved gate []).Kept a line ↔ s.Kept a line := kept_moved s gate []
  constructor
  · intro h a line hold
    by_cases hline : line = info.lineId
    · exact .inl hline
    · right
      constructor
      · have hk := (h a line).mp ((hkept a line).mpr ((hs a line).mpr ⟨i, hold⟩))
        exact ((hheld a line).mp hk).resolve_left fun heq => hline heq.1
      · -- the account is held on its new line, so it was held there before
        have hk := (h a info.lineId).mpr ((hheld _ _).mpr (.inl ⟨rfl, line, hold⟩))
        have hbefore := (hs a info.lineId).mp ((hkept _ _).mp hk)
        exact ((holds_split s i _ _).mp hbefore).resolve_left fun hi => hline (hold.unique hi).2
  · intro h a line
    rw [hkept, hheld, hs a line, holds_split s i]
    constructor
    · intro hk
      cases hk with
      | inl hold =>
          exact (h a line hold).imp (fun heq => ⟨heq, line, hold⟩) And.left
      | inr hother => exact .inr hother
    · intro hk
      cases hk with
      | inl hnew =>
          obtain ⟨hline, line', hold⟩ := hnew
          cases h a line' hold with
          | inl heq => exact .inl (by rw [hline, ← heq]; exact hold)
          | inr hboth => exact .inr (by rw [hline]; exact hboth.2)
      | inr hother => exact .inr hother

/-! ## §4. Steps and runs. -/

/-- Steps that keep the lines, the closed sessions, the accounts and the notices keep all. -/
theorem agrees_sameLines (hs : Agrees s) (haccounts : s'.accounts = s.accounts)
    (hgate : SameLines s.gate s'.gate) (hdelivered : s'.delivered = s.delivered) : Agrees s' := by
  refine agrees_congr s s' (fun j a line => holds_congr s s' (by rw [haccounts]) ?_ (hgate.lines j)) ?_ hs
  · rw [hgate.cleaned]
  · intro a line
    unfold State.Kept
    rw [hdelivered]

theorem agrees_connected {ip : Text} (hf : Fresh s) (hs : Agrees s)
    (hst : step cfg s (.connect ip) = some s') : Agrees s' := by
  obtain ⟨gate, hgate, rfl⟩ := step_connect hst
  obtain ⟨hlines, hclean, -⟩ := connect_eq hgate
  refine agrees_congr s _ ?_ (fun _ _ => Iff.rfl) hs
  intro j a line
  by_cases hj : j = s.gate.next
  · -- the new session is not validated, and there was none before
    constructor
    · intro h
      have hval : (Function.update s.accounts s.gate.next ({ clientIp := ip } : AccountInfo)
          j).validated = true := h.1
      rw [hj, Function.update_self] at hval
      cases hval
    · intro h
      have hline := h.2.2.2
      rw [hj, hf s.gate.next (Nat.le_refl _)] at hline
      cases hline
  · refine holds_congr s _ (Function.update_of_ne hj ..) ?_ (hlines j hj)
    show j ∈ gate.cleaned ↔ _
    rw [hclean]

theorem agrees_expired {i : SessionId} {gate : Gate.GateState} (hs : Agrees s)
    (hgate : Gate.step s.gate (.expire i) = some gate) :
    Agrees (s.moved gate []) := by
  obtain ⟨hin, rfl⟩ := expire_eq hgate
  refine agrees_congr s _ ?_ (kept_moved s _ []) hs
  · intro j a line
    by_cases hj : j = i
    · constructor
      · intro h
        have hline : (Function.update s.gate.sessions i none j).map (·.lineNo) = some line :=
          h.2.2.2
        rw [hj, Function.update_self] at hline
        cases hline
      · intro h
        exact absurd (hj ▸ hin) h.2.2.1
    · refine holds_congr s _ rfl ?_ ?_
      · show j ∈ s.gate.cleaned.filter (· ≠ i) ↔ _
        rw [List.mem_filter, decide_eq_true hj]
        exact and_iff_left rfl
      · exact congrArg _ (Function.update_of_ne hj ..)

/-- A step of the gate keeps it exactly if it disturbs nobody. -/
theorem agrees_gate {a : Gate.Act} (hs : Agrees s) (hst : step cfg s (.gate a) = some s') :
    Agrees s' ↔ Undisturbed cfg s (.gate a) := by
  obtain ⟨gate, hconnect, hgate, rfl⟩ := step_gate hst
  have hsame : SameLines s.gate gate → gateNotices s a = [] →
      Agrees (s.moved gate (gateNotices s a)) := by
    intro hlines hnotices
    refine agrees_sameLines hs rfl hlines ?_
    unfold State.delivered
    show (s.loginStream ++ gateNotices s a).foldl OnlinePlayer.receive s.member = _
    rw [hnotices, List.append_nil]
  cases a with
  | close i => exact agrees_closed hs hgate
  | expire i => exact iff_of_true (agrees_expired hs hgate) trivial
  | advance j found =>
      by_cases hr : ∃ i info, routes s.gate j i info
      · obtain ⟨i, info, hr⟩ := hr
        -- a job routes one session
        have honly : Undisturbed cfg s (.gate (.advance j found)) ↔ KeepsLine s i info := by
          constructor
          · intro h
            exact h i info hr
          · intro h i' info' hr'
            obtain ⟨job, temp, hjob, hstage⟩ := hr
            obtain ⟨job', temp', hjob', hstage'⟩ := hr'
            obtain rfl : job = job' := Option.some.inj (hjob.symm.trans hjob')
            cases hstage.symm.trans hstage'
            exact h
        rw [honly]
        exact agrees_routed hs hr hgate
      · refine iff_of_true (hsame ?_ rfl) fun i info hr' => absurd ⟨i, info, hr'⟩ hr
        refine sameLines_step hgate hconnect (fun _ h => nomatch h) (fun _ h => nomatch h) ?_
        intro j' found' i info heq hr'
        cases heq
        exact hr ⟨i, info, hr'⟩
  | connect => exact absurd rfl hconnect
  | _ =>
      refine iff_of_true (hsame ?_ rfl) trivial
      exact sameLines_step hgate hconnect (fun _ h => nomatch h) (fun _ h => nomatch h)
        (fun _ _ _ _ h => nomatch h)

/-- **A step keeps the agreement exactly when it is undisturbed.** -/
theorem agrees_step_iff {a : Act} (hf : Fresh s) (hs : Agrees s) (hst : step cfg s a = some s') :
    Agrees s' ↔ Undisturbed cfg s a := by
  cases a with
  | memberLogin login now =>
      rw [← Option.some.inj hst]
      refine iff_of_true (agrees_sameLines hs rfl (.refl s.gate) ?_) trivial
      exact delivered_append s [.loginRespond login.requestIndex login.account login.networkType]
  | connect ip => exact iff_of_true (agrees_connected hf hs hst) trivial
  | validate guid account key now =>
      rw [← Option.some.inj hst]
      cases passes_or_rejects cfg s guid account key now with
      | inl hpass =>
          obtain ⟨i, auth, hp⟩ := hpass
          have honly : Undisturbed cfg s (.validate guid account key now) ↔
              ValidatesFresh s i account auth.lineId := by
            constructor
            · intro h
              exact h i auth hp
            · intro h i' auth' hp'
              obtain rfl : i = i' := Option.some.inj (hp.session.symm.trans hp'.session)
              obtain rfl : auth = auth' := Option.some.inj (hp.key.symm.trans hp'.key)
              exact h
          rw [honly]
          exact agrees_validated hs hp
      | inr hreject =>
          have hr := handleValidationAccountPacket_rejects hreject
          refine iff_of_true (agrees_sameLines hs hr.accounts ?_ ?_)
            fun i auth hp => absurd hp (hreject i auth)
          · cases hr.gate with
            | inl heq => rw [heq]; exact .refl s.gate
            | inr hput =>
                obtain ⟨i, heq⟩ := hput
                rw [heq]
                exact sameLines_putClientSession s.gate i
          · unfold State.delivered
            rw [hr.loginStream, hr.member]
  | master a =>
      rw [← Option.some.inj hst]
      exact iff_of_true (agrees_sameLines hs rfl (.refl s.gate) rfl) trivial
  | gate a => exact agrees_gate hs hst
  | deliver =>
      obtain ⟨notice, rest, hstream, rfl⟩ := step_deliver hst
      refine iff_of_true (agrees_sameLines hs rfl (.refl s.gate) ?_) trivial
      unfold State.delivered
      rw [hstream]
      rfl

/-- Session numbers stay unused above `next`. -/
theorem fresh_step {a : Act} (hf : Fresh s) (hst : step cfg s a = some s') : Fresh s' := by
  have hsame : ∀ {gate : Gate.GateState}, SameLines s.gate gate →
      ∀ i, gate.next ≤ i → gate.sessions i = none := by
    intro gate h i hi
    rw [h.next] at hi
    have hline := h.lines i
    rw [hf i hi] at hline
    exact Option.map_eq_none_iff.mp hline
  cases a with
  | memberLogin login now =>
      rw [← Option.some.inj hst]
      exact hf
  | master a =>
      rw [← Option.some.inj hst]
      exact hf
  | connect ip =>
      obtain ⟨gate, hgate, rfl⟩ := step_connect hst
      obtain ⟨hlines, -, hnext⟩ := connect_eq hgate
      intro i hi
      have hi' : s.gate.next + 1 ≤ i := hnext ▸ hi
      have hline := hlines i (Nat.ne_of_gt hi')
      rw [hf i (Nat.le_of_succ_le hi')] at hline
      exact Option.map_eq_none_iff.mp hline
  | validate guid account key now =>
      rw [← Option.some.inj hst]
      cases passes_or_rejects cfg s guid account key now with
      | inl hpass =>
          obtain ⟨i, auth, hp⟩ := hpass
          rw [handleValidationAccountPacket_passes hp]
          intro j hj
          show (s.gate.modify i fun cs => { cs with lineNo := auth.lineId }).sessions j = none
          by_cases heq : j = i
          · rw [heq, sessions_modify_self, ← heq, hf j hj]
            rfl
          · rw [sessions_modify_of_ne _ heq]
            exact hf j hj
      | inr hreject =>
          cases (handleValidationAccountPacket_rejects hreject).gate with
          | inl heq =>
              intro i hi
              rw [heq] at hi ⊢
              exact hf i hi
          | inr hput =>
              obtain ⟨i, heq⟩ := hput
              intro j hj
              rw [heq] at hj ⊢
              exact hsame (sameLines_putClientSession s.gate i) j hj
  | deliver =>
      obtain ⟨notice, rest, -, rfl⟩ := step_deliver hst
      exact hf
  | gate a =>
      obtain ⟨gate, hconnect, hgate, rfl⟩ := step_gate hst
      by_cases hclose : ∃ i, a = .close i
      · obtain ⟨i, rfl⟩ := hclose
        obtain ⟨cs, -, hnext, hlines, -⟩ := close_cases hgate
        intro j hj
        have hline := hlines j
        rw [hf j (hnext ▸ hj)] at hline
        exact Option.map_eq_none_iff.mp hline
      · by_cases hexpire : ∃ i, a = .expire i
        · obtain ⟨i, rfl⟩ := hexpire
          obtain ⟨-, rfl⟩ := expire_eq hgate
          intro j hj
          show Function.update s.gate.sessions i none j = none
          by_cases hji : j = i
          · rw [hji, Function.update_self]
          · rw [Function.update_of_ne hji]
            exact hf j hj
        · by_cases hroute : ∃ j found i info, a = .advance j found ∧ routes s.gate j i info
          · obtain ⟨j, found, i, info, rfl, hr⟩ := hroute
            obtain ⟨hothers, hself, -, hnext⟩ := advance_route hr hgate
            intro k hk
            have hnone := hf k (hnext ▸ hk)
            by_cases hki : k = i
            · rw [hki] at hnone ⊢
              rw [hnone] at hself
              exact Option.map_eq_none_iff.mp hself
            · have hline := hothers k hki
              rw [hnone] at hline
              exact Option.map_eq_none_iff.mp hline
          · exact hsame (sameLines_step hgate hconnect (fun i h => hclose ⟨i, h⟩)
              (fun i h => hexpire ⟨i, h⟩)
              fun j found i info h hr => hroute ⟨j, found, i, info, h, hr⟩)

theorem fresh_init : Fresh init := fun _ _ => rfl

theorem agrees_init : Agrees init := by
  intro account line
  constructor
  · intro h
    have hnone : account ∈ ((∅ : TreeMap UInt32 (TreeSet Text))[line]?).getD {} := h
    rw [TreeMap.getElem?_emptyc] at hnone
    exact absurd hnone TreeSet.not_mem_emptyc
  · intro h
    obtain ⟨i, hval, -⟩ := h
    cases hval

/-- **The member system agrees with the gate** in every state that undisturbed runs reach. -/
theorem reachable_agrees (hr : (system cfg).ReachableWhen (Undisturbed cfg) s) : Agrees s := by
  have hinv : Fresh s ∧ Agrees s := by
    apply hr.invariant (I := fun s => Fresh s ∧ Agrees s)
    · intro s hs
      obtain rfl : s = init := hs
      exact ⟨fresh_init, agrees_init⟩
    · intro s a s' hs hc hst
      exact ⟨fresh_step hs.1 hst, (agrees_step_iff hs.1 hs.2 hst).mpr hc⟩
  exact hinv.2

/-- One client logs in; the member system agrees. -/
theorem agrees_loginRun :
    ∃ s', (system {}).run init (loginRun bob) = some s' ∧ Agrees s' := by
  obtain ⟨s', hrun, -⟩ := Option.map_eq_some_iff.mp marks_loginRun
  refine ⟨s', hrun, reachable_agrees (TransSys.reachableWhen_of_run rfl ?_ hrun)⟩
  refine ⟨trivial, _, rfl, trivial, _, rfl, ?_, _, rfl, trivial⟩
  intro i auth hp
  obtain rfl : 0 = i := Option.some.inj hp.session
  constructor
  · exact .inl ⟨List.not_mem_nil, rfl⟩
  · intro account line hold
    -- the session is new, and holds nothing yet
    exact absurd hold.1 (by decide)

/-- Two clients log in with the key of `bob`, the first one is dropped and closed, and the member
    system receives all notices. -/
def twoSessions : List Act :=
  [.connect ['1'], .connect ['2'], .memberLogin bobLogin 0, .validate 1 bob ['K'] 1000000,
    .validate 2 bob ['K'] 2000000, .gate (.drop 1 false), .gate (.close 0),
    .deliver, .deliver, .deliver, .deliver]

/-- **A logoff takes a live login with it**: session 1 is open and validated for `bob`, and the
    member system keeps nobody. -/
theorem logoff_cancels_login :
    ∃ s', (system {}).run init twoSessions = some s' ∧ s'.loginStream = [] ∧
      s'.Holds 1 bob 1 ∧ ¬ s'.Kept bob 1 := by
  have hend : ((system {}).run init twoSessions).map (fun s => (s.loginStream.isEmpty,
      (s.accounts 1).validated, decide ((s.accounts 1).accountId = bob), s.gate.cleaned.contains 1,
      decide ((s.gate.sessions 1).map (·.lineNo) = some 1), (s.delivered.onlineSet 1).contains bob))
      = some (true, true, true, false, true, false) := by
    decide +kernel
  obtain ⟨s', hrun, hdata⟩ := Option.map_eq_some_iff.mp hend
  simp only [Prod.mk.injEq, decide_eq_true_eq] at hdata
  obtain ⟨hstream, hval, haccount, hclean, hline, hkept⟩ := hdata
  refine ⟨s', hrun, List.isEmpty_iff.mp hstream, ⟨hval, haccount, ?_, hline⟩, ?_⟩
  · intro hin
    rw [List.contains_iff_mem.mpr hin] at hclean
    cases hclean
  · intro hmem
    rw [TreeSet.mem_iff_contains.mp hmem] at hkept
    cases hkept

end Steppingstone.Login
