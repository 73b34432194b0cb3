/-
  Steppingstone.Access.Restart — what a restart keeps of the access tables.

  `saveForbidAccount` and `loadForbidAccount` agree, and an account is decided as before.
  `saveIPSetInfo` makes the elements of the addresses under the root, where `loadIPSetInfo` does not
  look for them: no address comes back, and none is refused any more.
-/
import Mathlib.Data.Fintype.EquivFin
import Mathlib.Data.Fintype.Pigeonhole
import Steppingstone.Access.Model
import Steppingstone.Cross.Archive
import Steppingstone.Lib.Lookup

namespace Steppingstone.Access

open Std (TreeMap TreeSet)
open Steppingstone.Cross (Text lexicalCast lexicalCastUInt64 lexicalCastUInt64_lexicalCast)

/-! ## §1. The address tables. -/

theorem children_foldl_addElement (es : List Element) (root : Element) :
    (es.foldl Element.addElement root).children = root.children ++ es := by
  induction es generalizing root with
  | nil => exact (List.append_nil root.children).symm
  | cons e es ih =>
      show (es.foldl Element.addElement (root.addElement e)).children = _
      rw [ih]
      show (root.children ++ [e]) ++ es = root.children ++ e :: es
      exact List.append_assoc root.children [e] es

/-- The two parents stand among the elements that should be theirs. -/
theorem children_ipSetRoot (s : MasterSession) :
    (ipSetRoot s).children = makeElement allowsName :: (s.allowIpSet.toList.map allowElement ++
      makeElement forbidsName :: s.forbidIpMap.toList.map forbidIpElement) := by
  unfold ipSetRoot
  rw [children_foldl_addElement]
  show (Element.children (List.foldl Element.addElement _ _) ++ [makeElement forbidsName]) ++ _ = _
  rw [children_foldl_addElement, List.append_assoc]
  rfl

/-- The element of the allowed addresses is found. -/
theorem getElement_allows (s : MasterSession) :
    (ipSetRoot s).getElement allowsName = some (makeElement allowsName) := by
  unfold Element.getElement
  rw [children_ipSetRoot]
  exact List.find?_cons_of_pos (beq_self_eq_true allowsName)

/-- So is the one of the forbidden. -/
theorem getElement_forbids (s : MasterSession) :
    (ipSetRoot s).getElement forbidsName = some (makeElement forbidsName) := by
  have hallow : (s.allowIpSet.toList.map allowElement).find?
      (fun child => child.name == forbidsName) = none := by
    apply List.find?_eq_none.mpr
    intro e he
    obtain ⟨ip, -, heq⟩ := List.mem_map.mp he
    rw [← heq]
    show ¬ (allowName == forbidsName) = true
    decide
  unfold Element.getElement
  rw [children_ipSetRoot, List.find?_cons_of_neg (by decide), List.find?_append, hallow,
    Option.none_or]
  exact List.find?_cons_of_pos (beq_self_eq_true forbidsName)

/-- **Nothing of the address tables is loaded**: both parents are there, and empty. -/
theorem loadIPSetInfo_saved (s : MasterSession) :
    loadIPSetInfo {} (some (ipSetRoot s)) = ({}, true) := by
  simp only [loadIPSetInfo, getElement_allows, getElement_forbids]
  rfl

/-! ## §2. The account table. -/

/-- What is kept under an account carries that account. -/
def Keyed (map : TreeMap Text ForbidAccountInfo) : Prop :=
  ∀ (account : Text) (info : ForbidAccountInfo), map[account]? = some info → info.accountId = account

/-- The account tables of two sessions find the same entries. -/
def SameAccounts (s t : MasterSession) : Prop :=
  ∀ account : Text, s.forbidAccountMap[account]? = t.forbidAccountMap[account]?

/-- An element that was written is read as the entry it was made of. -/
theorem loadAccount_forbidAccountElement (s : MasterSession) (info : ForbidAccountInfo) :
    loadAccount s (forbidAccountElement info) =
      { s with forbidAccountMap := s.forbidAccountMap.insertIfNew info.accountId info } := by
  have haccount : (forbidAccountElement info).getAttribute accountAttr = some info.accountId := rfl
  have htime : (forbidAccountElement info).getAttribute endTimeAttr
      = some (lexicalCast info.endTime) := rfl
  unfold loadAccount
  rw [haccount, htime]
  show MasterSession.mk _ _ _ _ = _
  rw [lexicalCastUInt64_lexicalCast]
  rfl

theorem foldl_loadAccount (infos : List ForbidAccountInfo) (s : MasterSession) :
    (infos.map forbidAccountElement).foldl loadAccount s =
      { s with
        forbidAccountMap := (infos.map fun info => (info.accountId, info)).foldl
          (fun m e => m.insertIfNew e.1 e.2) s.forbidAccountMap } := by
  induction infos generalizing s with
  | nil => rfl
  | cons info infos ih =>
      show (infos.map forbidAccountElement).foldl loadAccount
        (loadAccount s (forbidAccountElement info)) = _
      rw [loadAccount_forbidAccountElement, ih]
      rfl

/-- All the children of the account file are entries. -/
theorem getElements_forbidAccountRoot (s : MasterSession) :
    (forbidAccountRoot s).getElements forbidName =
      (s.forbidAccountMap.toList.map (·.2)).map forbidAccountElement := by
  unfold Element.getElements forbidAccountRoot
  rw [children_foldl_addElement, List.map_map]
  apply List.filter_eq_self.mpr
  intro e he
  obtain ⟨p, -, heq⟩ := List.mem_map.mp he
  rw [← heq]
  rfl

/-- The account table is loaded as it was saved. -/
theorem sameAccounts_loadForbidAccount {s : MasterSession} (hs : Keyed s.forbidAccountMap) :
    SameAccounts (loadForbidAccount {} (some (forbidAccountRoot s))) s := by
  have hself : (s.forbidAccountMap.toList.map (·.2)).map (fun info => (info.accountId, info))
      = s.forbidAccountMap.toList := by
    rw [List.map_map]
    conv_rhs => rw [← List.map_id s.forbidAccountMap.toList]
    apply List.map_congr_left
    intro e he
    have hkey : e.2.accountId = e.1 := hs e.1 e.2 ((Lookup.mem_toList _ e).mp he)
    show (e.2.accountId, e.2) = e
    rw [hkey]
  intro account
  show ((((forbidAccountRoot s).getElements forbidName).foldl loadAccount {}).forbidAccountMap)[
    account]? = _
  rw [getElements_forbidAccountRoot, foldl_loadAccount, hself]
  show ((s.forbidAccountMap.toList.foldl (fun m e => m.insertIfNew e.1 e.2)
    (∅ : TreeMap Text ForbidAccountInfo)))[account]? = _
  rw [Lookup.getElem?_foldl_insertIfNew, Lookup.find?_toList]
  show ((∅ : TreeMap Text ForbidAccountInfo)[account]?).or _ = _
  rw [TreeMap.getElem?_emptyc, Option.none_or]

/-! ## §3. What commands keep. -/

/-- What holds between commands: the entries carry their accounts, and the flag says whether `*` is
    forbidden. -/
structure Inv (s : MasterSession) : Prop where
  keyed : Keyed s.forbidAccountMap
  flag : s.forbidAllIp = true ↔ allIpStr ∈ s.forbidIpMap

theorem forbidAllIp_collectForbidIpFlag (s : MasterSession) :
    s.collectForbidIpFlag.forbidAllIp = true ↔ allIpStr ∈ s.forbidIpMap := by
  show (s.forbidIpMap.toList.any fun e => e.1 == allIpStr) = true ↔ _
  rw [List.any_eq_true]
  constructor
  · intro h
    obtain ⟨e, he, hkey⟩ := h
    have hfound : s.forbidIpMap[e.1]? = some e.2 := (Lookup.mem_toList _ e).mp he
    have hname : e.1 = allIpStr := beq_iff_eq.mp hkey
    rw [hname] at hfound
    exact TreeMap.mem_iff_isSome_getElem?.mpr (by rw [hfound]; rfl)
  · intro h
    obtain ⟨info, hinfo⟩ := Option.isSome_iff_exists.mp (TreeMap.mem_iff_isSome_getElem?.mp h)
    exact ⟨(allIpStr, info), (Lookup.mem_toList _ _).mpr hinfo, beq_self_eq_true allIpStr⟩

theorem keyed_forbidOne {map : TreeMap Text ForbidAccountInfo} (hs : Keyed map)
    (e : Text × UInt64) : Keyed (forbidOne map e) := by
  intro account info hinfo
  unfold forbidOne at hinfo
  cases hold : map[e.1]? with
  | some old =>
      have hinfo' : (map.insert e.1 { old with endTime := e.2 })[account]? = some info := by
        simpa only [hold] using hinfo
      rw [Lookup.getElem?_insert] at hinfo'
      by_cases hkey : account = e.1
      · rw [if_pos hkey] at hinfo'
        rw [← Option.some.inj hinfo', hkey]
        exact hs e.1 old hold
      · rw [if_neg hkey] at hinfo'
        exact hs account info hinfo'
  | none =>
      have hinfo' : (map.insert e.1 { endTime := e.2, accountId := e.1 })[account]? = some info := by
        simpa only [hold] using hinfo
      rw [Lookup.getElem?_insert] at hinfo'
      by_cases hkey : account = e.1
      · rw [if_pos hkey] at hinfo'
        rw [← Option.some.inj hinfo', hkey]
      · rw [if_neg hkey] at hinfo'
        exact hs account info hinfo'

theorem keyed_erase {map : TreeMap Text ForbidAccountInfo} (hs : Keyed map) (a : Text) :
    Keyed (map.erase a) := by
  intro account info hinfo
  have hinfo' : (map.erase a)[account]? = some info := hinfo
  rw [Lookup.getElem?_erase] at hinfo'
  by_cases hkey : account = a
  · rw [if_pos hkey] at hinfo'
    cases hinfo'
  · rw [if_neg hkey] at hinfo'
    exact hs account info hinfo'

theorem keyed_foldl_forbidOne (infos : List (Text × UInt64))
    {map : TreeMap Text ForbidAccountInfo} (hs : Keyed map) :
    Keyed (infos.foldl forbidOne map) := by
  induction infos generalizing map with
  | nil => exact hs
  | cons e infos ih => exact ih (keyed_forbidOne hs e)

theorem keyed_foldl_removeOne (accounts : List Text)
    {p : TreeMap Text ForbidAccountInfo × List (Text × Nat)} (hs : Keyed p.1) :
    Keyed (accounts.foldl removeOne p).1 := by
  induction accounts generalizing p with
  | nil => exact hs
  | cons a accounts ih =>
      show Keyed (accounts.foldl removeOne (removeOne p a)).1
      apply ih
      unfold removeOne
      split
      · exact keyed_erase hs a
      · exact hs

/-- `validatedAccount` touches nothing but the entry it may take out. -/
theorem session_validatedAccount (h : Host) (account : Text) (now : UInt64) :
    (validatedAccount h account now).2.session = h.session ∨
      (validatedAccount h account now).2.session =
        { h.session with forbidAccountMap := h.session.forbidAccountMap.erase account } := by
  unfold validatedAccount
  split
  · exact .inl rfl
  · split
    · exact .inr rfl
    · exact .inl rfl

theorem Inv.validatedAccount {h : Host} (hi : Inv h.session) (account : Text) (now : UInt64) :
    Inv (validatedAccount h account now).2.session := by
  cases session_validatedAccount h account now with
  | inl heq => rw [heq]; exact hi
  | inr heq =>
      rw [heq]
      exact ⟨keyed_erase hi.keyed account, hi.flag⟩

/-- A login changes what `validatedAccount` changes. -/
theorem snd_isValidatedAccountAndIP (h : Host) (account ip : Text) (now : UInt64) :
    (isValidatedAccountAndIP h account ip now).2 = (validatedAccount h account now).2 := by
  unfold isValidatedAccountAndIP
  split
  · next heq => rw [heq]
  · next heq => rw [heq]

/-- **Every command keeps the invariant.** -/
theorem Inv.step {h : Host} (hi : Inv h.session) (a : Act) : Inv (step h a).session := by
  cases a with
  | allowIP ips => exact ⟨hi.keyed, hi.flag⟩
  | allowIPRemove ips => exact ⟨hi.keyed, hi.flag⟩
  | forbidIP ips endTimes =>
      show Inv (handleForbidIP h ips endTimes).session
      unfold handleForbidIP
      split
      · exact ⟨hi.keyed, forbidAllIp_collectForbidIpFlag _⟩
      · exact hi
  | forbidIPRemove ips => exact ⟨hi.keyed, forbidAllIp_collectForbidIpFlag _⟩
  | forbidAccount infos => exact ⟨keyed_foldl_forbidOne infos hi.keyed, hi.flag⟩
  | forbidAccountRemove accounts => exact ⟨keyed_foldl_removeOne accounts hi.keyed, hi.flag⟩
  | login account ip now =>
      show Inv (isValidatedAccountAndIP h account ip now).2.session
      rw [snd_isValidatedAccountAndIP]
      exact hi.validatedAccount account now

theorem inv_empty : Inv {} := by
  constructor
  · intro account info hinfo
    have hnone : ({} : TreeMap Text ForbidAccountInfo)[account]? = none := TreeMap.getElem?_emptyc
    rw [show (({} : MasterSession).forbidAccountMap)[account]? = none from hnone] at hinfo
    cases hinfo
  · show false = true ↔ allIpStr ∈ ({} : TreeMap Text ForbidIPInfo)
    constructor
    · intro h
      cases h
    · intro h
      exact absurd h TreeMap.not_mem_emptyc

/-- **In every run** the tables are as they are read. -/
theorem reachable_inv {h : Host} (hr : system.Reachable h) : Inv h.session := by
  apply hr.invariant (I := fun h => Inv h.session)
  · intro h hinit
    have hempty : h = {} := hinit
    rw [hempty]
    exact inv_empty
  · intro h a h' hi _ hst
    rw [← Option.some.inj hst]
    exact hi.step a

/-! ## §4. Before and after. -/

/-- A restart: the session that was loaded has no address table, and the flag is down. -/
theorem restart_eq (h : Host) : (restart h).session =
    loadForbidAccount {} (some (forbidAccountRoot h.session)) := by
  have hload : loadIPSetInfo {} (saveForbidAccount (saveIPSetInfo h)).files.ipsetConfig = _ :=
    loadIPSetInfo_saved ..
  unfold restart init
  rw [hload]
  rfl

/-- **The account table is loaded as it was.** -/
theorem sameAccounts_restart {h : Host} (hi : Inv h.session) :
    SameAccounts (restart h).session h.session := by
  rw [restart_eq]
  exact sameAccounts_loadForbidAccount hi.keyed

/-- A loaded account changes no address table. -/
theorem forbidIpMap_loadAccount (s : MasterSession) (e : Element) :
    (loadAccount s e).forbidIpMap = s.forbidIpMap ∧
      (loadAccount s e).forbidAllIp = s.forbidAllIp := by
  unfold loadAccount
  split <;> exact ⟨rfl, rfl⟩

theorem foldl_loadAccount_ip (es : List Element) (s : MasterSession) :
    (es.foldl loadAccount s).forbidIpMap = s.forbidIpMap ∧
      (es.foldl loadAccount s).forbidAllIp = s.forbidAllIp := by
  induction es generalizing s with
  | nil => exact ⟨rfl, rfl⟩
  | cons e es ih =>
      obtain ⟨hmap, hflag⟩ := ih (loadAccount s e)
      obtain ⟨hmap', hflag'⟩ := forbidIpMap_loadAccount s e
      exact ⟨hmap.trans hmap', hflag.trans hflag'⟩

/-- A session that forbids no address admits them all. -/
def Open (s : MasterSession) (now : UInt64) : Prop :=
  ∀ ip t, now ≤ t → validatedIpAddr s ip t = true

theorem open_restart (h : Host) (now : UInt64) : Open (restart h).session now := by
  intro ip t _
  obtain ⟨hmap, hflag⟩ := foldl_loadAccount_ip ((forbidAccountRoot h.session).getElements forbidName)
    {}
  have hnone : (restart h).session.forbidIpMap[ip]? = none := by
    rw [restart_eq]
    show (((forbidAccountRoot h.session).getElements forbidName).foldl loadAccount {}).forbidIpMap[ip]?
      = none
    rw [hmap]
    exact TreeMap.getElem?_emptyc
  have hdown : (restart h).session.forbidAllIp = false := by
    rw [restart_eq]
    exact hflag
  unfold validatedIpAddr
  rw [hnone, hdown]
  rfl

/-- The tables forbid no address from `now` on: `*` is not in them, not even with an end that has
    passed, and every entry has run out. -/
def NoForbiddenIp (s : MasterSession) (now : UInt64) : Prop :=
  allIpStr ∉ s.forbidIpMap ∧
    ∀ (ip : Text) (info : ForbidIPInfo), s.forbidIpMap[ip]? = some info → info.outOfTime now = true

/-- What has run out stays so. -/
theorem outOfTime_mono {endTime now t : UInt64} (h : outOfTime endTime now = true) (ht : now ≤ t) :
    outOfTime endTime t = true := by
  unfold outOfTime at h ⊢
  obtain ⟨hne, hlt⟩ := Bool.and_eq_true_iff.mp h
  rw [hne]
  exact decide_eq_true (UInt64.lt_of_lt_of_le (of_decide_eq_true hlt) ht)

/-- Texts are without end, and a set of them is not. -/
theorem exists_not_mem (set : TreeSet Text) : ∃ ip : Text, set.contains ip = false := by
  have hnodup : set.toList.Nodup := by
    apply set.distinct_toList.imp
    intro a b h he
    rw [he] at h
    exact h Std.ReflCmp.compare_self
  obtain ⟨ip, hip⟩ := Infinite.exists_notMem_finset (⟨set.toList, hnodup⟩ : Finset Text)
  refine ⟨ip, ?_⟩
  cases hc : set.contains ip with
  | false => rfl
  | true =>
      have hmem : ip ∈ set.toList := TreeSet.mem_toList.mpr (TreeSet.mem_iff_contains.mpr hc)
      exact absurd hmem hip

/-- **The address tables admit everybody** exactly when they forbid nobody. -/
theorem open_iff {s : MasterSession} (hi : Inv s) (now : UInt64) :
    Open s now ↔ NoForbiddenIp s now := by
  constructor
  · intro hopen
    constructor
    -- an address that nobody has allowed is refused while the flag is set
    · intro hstar
      obtain ⟨ip, hip⟩ := exists_not_mem s.allowIpSet
      have htrue := hopen ip now (UInt64.le_refl now)
      unfold validatedIpAddr at htrue
      rw [hi.flag.mpr hstar, hip] at htrue
      revert htrue
      split <;> intro h <;> cases h
    · intro ip info hinfo
      have htrue := hopen ip now (UInt64.le_refl now)
      unfold validatedIpAddr at htrue
      rw [hinfo] at htrue
      cases hout : info.outOfTime now with
      | true => rfl
      | false =>
          rw [show (some info).any (fun info => ! info.outOfTime now) = true by
            show (! info.outOfTime now) = true
            rw [hout]; rfl] at htrue
          cases htrue
  · intro hnone ip t ht
    obtain ⟨hstar, hout⟩ := hnone
    have hflag : s.forbidAllIp = false := by
      cases hf : s.forbidAllIp with
      | false => rfl
      | true => exact absurd (hi.flag.mp hf) hstar
    -- an entry that has run out stays so at every later time
    have hentry : (s.forbidIpMap[ip]?).any (fun info => ! info.outOfTime t) = false := by
      cases hinfo : s.forbidIpMap[ip]? with
      | none => rfl
      | some info =>
          show (! info.outOfTime t) = false
          rw [show info.outOfTime t = true from outOfTime_mono (hout ip info hinfo) ht]
          rfl
    unfold validatedIpAddr
    rw [hentry, hflag]
    rfl

/-! ## §5. Answers. -/

/-- An account without an entry may log in. -/
theorem validatedAccount_of_none {h : Host} {account : Text} {now : UInt64}
    (hinfo : h.session.forbidAccountMap[account]? = none) :
    validatedAccount h account now = (true, h) := by
  simp only [Access.validatedAccount, hinfo]

/-- An account with one may when its time is over. -/
theorem validatedAccount_of_some {h : Host} {account : Text} {now : UInt64} {info : ForbidAccountInfo}
    (hinfo : h.session.forbidAccountMap[account]? = some info) :
    validatedAccount h account now =
      if info.outOfTime now then
        (true, saveForbidAccount { h with
          session := { h.session with
            forbidAccountMap := h.session.forbidAccountMap.erase account } })
      else (false, h) := by
  simp only [Access.validatedAccount, hinfo]

/-- Sessions with the same account table answer about an account alike, and keep the same table. -/
theorem SameAccounts.validatedAccount {h h' : Host} (hs : SameAccounts h.session h'.session)
    (account : Text) (now : UInt64) :
    (validatedAccount h account now).1 = (validatedAccount h' account now).1 ∧
      SameAccounts (validatedAccount h account now).2.session
        (validatedAccount h' account now).2.session := by
  cases hinfo : h'.session.forbidAccountMap[account]? with
  | none =>
      rw [validatedAccount_of_none hinfo, validatedAccount_of_none ((hs account).trans hinfo)]
      exact ⟨rfl, hs⟩
  | some info =>
      rw [validatedAccount_of_some hinfo, validatedAccount_of_some ((hs account).trans hinfo)]
      cases hout : info.outOfTime now with
      | false => exact ⟨rfl, hs⟩
      | true =>
          refine ⟨rfl, ?_⟩
          intro a
          show (h.session.forbidAccountMap.erase account)[a]?
            = (h'.session.forbidAccountMap.erase account)[a]?
          rw [Lookup.getElem?_erase, Lookup.getElem?_erase, hs a]

/-- What an account is asked does not open or close the gate to an address. -/
theorem open_validatedAccount {h : Host} {start : UInt64} (ho : Open h.session start)
    (account : Text) (now : UInt64) : Open (validatedAccount h account now).2.session start := by
  cases session_validatedAccount h account now with
  | inl heq => rw [heq]; exact ho
  | inr heq => rw [heq]; exact ho

/-- Two open sessions with the same account table answer alike. -/
theorem answers_eq {h h' : Host} {now : UInt64} (hs : SameAccounts h.session h'.session)
    (ho : Open h.session now) (ho' : Open h'.session now) (qs : List Query)
    (hqs : ∀ q ∈ qs, now ≤ q.now) : answers h qs = answers h' qs := by
  induction qs generalizing h h' with
  | nil => rfl
  | cons q qs ih =>
      have hrest : ∀ q ∈ qs, now ≤ q.now := fun x hx => hqs x (List.mem_cons_of_mem q hx)
      cases q with
      | ip ip t =>
          have ht : now ≤ t := hqs (.ip ip t) List.mem_cons_self
          show validatedIpAddr h.session ip t :: answers h qs
            = validatedIpAddr h'.session ip t :: answers h' qs
          rw [ho ip t ht, ho' ip t ht, ih hs ho ho' hrest]
      | account account t =>
          obtain ⟨hanswer, hsame⟩ := hs.validatedAccount account t
          show (validatedAccount h account t).1 :: answers (validatedAccount h account t).2 qs
            = (validatedAccount h' account t).1 :: answers (validatedAccount h' account t).2 qs
          rw [hanswer, ih hsame (open_validatedAccount ho account t)
            (open_validatedAccount ho' account t) hrest]

/-- **A restart keeps every decision** about addresses and accounts, whatever is asked from then on
    and in whatever order, exactly when the tables forbid no address. -/
theorem restart_decides_iff {h : Host} (hr : system.Reachable h) (now : UInt64) :
    (∀ qs : List Query, (∀ q ∈ qs, now ≤ q.now) → answers (restart h) qs = answers h qs) ↔
      NoForbiddenIp h.session now := by
  have hi : Inv h.session := reachable_inv hr
  constructor
  · intro hall
    apply (open_iff hi now).mp
    intro ip t ht
    -- one question is enough: after the restart it is answered with yes
    have hone := hall [.ip ip t] (by
      intro q hq
      rw [List.mem_singleton.mp hq]
      exact ht)
    have hhead : validatedIpAddr (restart h).session ip t = validatedIpAddr h.session ip t :=
      (List.cons.inj hone).1
    rw [← hhead]
    exact open_restart h now ip t ht
  · intro hnone qs hqs
    exact answers_eq (sameAccounts_restart hi) (open_restart h now) ((open_iff hi now).mpr hnone)
      qs hqs

/-- `1.2.3.4` -/
def someIp : Text := ['1', '.', '2', '.', '3', '.', '4']

/-- A gate that forbids one address up to 5 seconds, and an account for good. -/
def expiredHost : Host :=
  step (step {} (.forbidIP [someIp] [5])) (.forbidAccount [(['b', 'o', 'b'], 0)])

theorem reachable_expiredHost : system.Reachable expiredHost :=
  TransSys.reachable_of_run rfl (show system.run {}
    [.forbidIP [someIp] [5], .forbidAccount [(['b', 'o', 'b'], 0)]] = some expiredHost from rfl)

theorem noForbiddenIp_expiredHost : NoForbiddenIp expiredHost.session 10 := by
  have hmap : expiredHost.session.forbidIpMap
      = (∅ : TreeMap Text ForbidIPInfo).insert someIp { endTime := 5, ipAddr := someIp } := rfl
  constructor
  · show allIpStr ∉ expiredHost.session.forbidIpMap
    decide +kernel
  · intro ip info hinfo
    rw [hmap, Lookup.getElem?_insert] at hinfo
    by_cases hip : ip = someIp
    · rw [if_pos hip] at hinfo
      rw [← Option.some.inj hinfo]
      decide
    · rw [if_neg hip, TreeMap.getElem?_emptyc] at hinfo
      cases hinfo

/-- At ten seconds that gate restarts, and answers as before. -/
theorem expiredHost_restart :
    answers (restart expiredHost) [.ip someIp 12, .account ['b', 'o', 'b'] 13]
      = answers expiredHost [.ip someIp 12, .account ['b', 'o', 'b'] 13] :=
  (restart_decides_iff reachable_expiredHost 10).mpr noForbiddenIp_expiredHost
    [.ip someIp 12, .account ['b', 'o', 'b'] 13] (by
      intro q hq
      revert q
      decide)

/-- **An address that is forbidden for good is admitted** once the gate has restarted. -/
theorem forbidden_admitted :
    system.Reachable (step {} (.forbidIP [someIp] [0])) ∧
      answers (step {} (.forbidIP [someIp] [0])) [.ip someIp 5] = [false] ∧
      answers (restart (step {} (.forbidIP [someIp] [0]))) [.ip someIp 5] = [true] := by
  refine ⟨?_, ?_, ?_⟩
  · exact TransSys.reachable_of_run rfl
      (show system.run {} [.forbidIP [someIp] [0]] = some _ from rfl)
  · decide +kernel
  · decide +kernel

end Steppingstone.Access
