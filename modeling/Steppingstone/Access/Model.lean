/-
  Steppingstone.Access.Model — who may log in: the tables of `ManageMasterSession`.

  The master's commands allow and forbid addresses and forbid accounts, each until a time.  After a
  command the tables are written to two xml files, and a gate that starts reads them.  The xml
  library is taken to keep the elements it is given, so that a file is the tree that was saved.
  Times are in seconds.
-/
import Steppingstone.Cross.Model
import Steppingstone.Lib.TransSys

namespace Steppingstone.Access

open Std (TreeMap TreeSet)
open Steppingstone.Cross (Text lexicalCast castDigits lexicalCastUInt64)

/-! ## §1. Elements. -/

/-- `TiElement`: attributes and children in the order in which they were added. -/
structure Element where
  name : Text
  attributes : List (Text × Text) := []
  children : List Element := []

/-- `make_element` without a parent. -/
def makeElement (name : Text) : Element := { name := name }

namespace Element

/-- `add_element` -/
def addElement (e child : Element) : Element := { e with children := e.children ++ [child] }

/-- `get_element` -/
def getElement (e : Element) (name : Text) : Option Element :=
  e.children.find? fun child => child.name == name

/-- `get_elements` -/
def getElements (e : Element) (name : Text) : List Element :=
  e.children.filter fun child => child.name == name

/-- `get_attribute` -/
def getAttribute (e : Element) (name : Text) : Option Text :=
  (e.attributes.find? fun attr => attr.1 == name).map (·.2)

/-- The first attribute of the name gets the value, or a new one is added. -/
def setIn (name value : Text) : List (Text × Text) → List (Text × Text)
  | [] => [(name, value)]
  | attr :: attrs =>
      if attr.1 = name then (name, value) :: attrs else attr :: setIn name value attrs

/-- `set_attribute` -/
def setAttribute (e : Element) (name value : Text) : Element :=
  { e with attributes := setIn name value e.attributes }

end Element

/-- `boost::lexical_cast<int>` -/
def lexicalCastInt : Text → Option Int32
  | '+' :: s => (castDigits s).bind fun n => if n ≤ 2147483647 then some n.toUInt32.toInt32 else none
  | '-' :: s => (castDigits s).bind fun n => if n ≤ 2147483648 then some (-n.toUInt32.toInt32) else none
  | s => (castDigits s).bind fun n => if n ≤ 2147483647 then some n.toUInt32.toInt32 else none

/-- `Attribute::as_int`, which gives `-1` for what is no number. -/
def asInt (value : Text) : Int32 := (lexicalCastInt value).getD (-1)

/-! ## §2. The tables. -/

/-- Both kinds of entries run out in one way; an end of zero is never. -/
def outOfTime (endTime now : UInt64) : Bool := endTime ≠ 0 && endTime < now

/-- `ForbidIPInfo`: an address and the end of its ban. -/
structure ForbidIPInfo where
  endTime : UInt64 := 0
  ipAddr : Text := []
  deriving DecidableEq, Repr

/-- `ForbidIPInfo::outOfTime` -/
def ForbidIPInfo.outOfTime (info : ForbidIPInfo) (now : UInt64) : Bool :=
  Access.outOfTime info.endTime now

/-- `ForbidAccountInfo`: an account and the end of its ban. -/
structure ForbidAccountInfo where
  endTime : UInt64 := 0
  accountId : Text := []
  deriving DecidableEq, Repr

/-- `ForbidAccountInfo::outOfTime` -/
def ForbidAccountInfo.outOfTime (info : ForbidAccountInfo) (now : UInt64) : Bool :=
  Access.outOfTime info.endTime now

/-- `ManageMasterSession` -/
structure MasterSession where
  forbidAllIp : Bool := false
  forbidIpMap : TreeMap Text ForbidIPInfo := {}
  allowIpSet : TreeSet Text := {}
  forbidAccountMap : TreeMap Text ForbidAccountInfo := {}

/-- `ipset_config.xml` and `forbid_account.xml`, where they exist. -/
structure Files where
  ipsetConfig : Option Element := none
  forbidAccount : Option Element := none

/-- The session of a gate, and its files. -/
structure Host where
  session : MasterSession := {}
  files : Files := {}

/-- `all_ip_str` -/
def allIpStr : Text := ['*']

/-- `collectForbidIpFlag` -/
def MasterSession.collectForbidIpFlag (s : MasterSession) : MasterSession :=
  { s with forbidAllIp := s.forbidIpMap.toList.any fun e => e.1 == allIpStr }

/-! ## §3. Saving and loading. -/

/-- The element names and attribute names of the files. -/
def ipsetName : Text := ['i', 'p', 's', 'e', 't']
/-- The element of the allowed addresses. -/
def allowsName : Text := ['a', 'l', 'l', 'o', 'w', 's']
/-- The element of one allowed address. -/
def allowName : Text := ['a', 'l', 'l', 'o', 'w']
/-- The element of the forbidden addresses. -/
def forbidsName : Text := ['f', 'o', 'r', 'b', 'i', 'd', 's']
/-- The element of one forbidden address. -/
def forbidName : Text := ['f', 'o', 'r', 'b', 'i', 'd']
/-- The element of one forbidden account. -/
def forbidAccountName : Text :=
  ['f', 'o', 'r', 'b', 'i', 'd', '_', 'a', 'c', 'c', 'o', 'u', 'n', 't']
/-- The attribute that has the address. -/
def ipAttr : Text := ['i', 'p']
/-- The attribute that has the end of the ban. -/
def endTimeAttr : Text := ['e', 'n', 'd', '_', 't', 'i', 'm', 'e']
/-- The attribute that has the account. -/
def accountAttr : Text := ['a', 'c', 'c', 'o', 'u', 'n', 't']

/-- The `allow` of an address. -/
def allowElement (ip : Text) : Element := (makeElement allowName).setAttribute ipAttr ip

/-- The `forbid` of an address. -/
def forbidIpElement (e : Text × ForbidIPInfo) : Element :=
  ((makeElement forbidName).setAttribute ipAttr e.1).setAttribute endTimeAttr
    (lexicalCast e.2.endTime)

/-- The root that `saveIPSetInfo` builds: every element is made with `root_ele` as its parent, those
    of the addresses too. -/
def ipSetRoot (s : MasterSession) : Element :=
  let root := (makeElement ipsetName).addElement (makeElement allowsName)
  let root := (s.allowIpSet.toList.map allowElement).foldl Element.addElement root
  let root := root.addElement (makeElement forbidsName)
  (s.forbidIpMap.toList.map forbidIpElement).foldl Element.addElement root

/-- `saveIPSetInfo` -/
def saveIPSetInfo (h : Host) : Host :=
  { h with files := { h.files with ipsetConfig := some (ipSetRoot h.session) } }

/-- The first loop of `loadIPSetInfo`. -/
def loadAllows (s : MasterSession) : List Element → MasterSession × Bool
  | [] => (s, true)
  | e :: es =>
      match e.getAttribute ipAttr with
      | none => (s, false)
      | some ip => loadAllows { s with allowIpSet := s.allowIpSet.insert ip } es

/-- The second loop of `loadIPSetInfo`. -/
def loadForbids (s : MasterSession) : List Element → MasterSession × Bool
  | [] => (s, true)
  | e :: es =>
      match e.getAttribute ipAttr, e.getAttribute endTimeAttr with
      | some ip, some time =>
          let info : ForbidIPInfo := { endTime := (asInt time).toInt64.toUInt64, ipAddr := ip }
          loadForbids { s with forbidIpMap := s.forbidIpMap.insert ip info } es
      | _, _ => (s, false)

/-- `loadIPSetInfo`; a file that is not there is no error. -/
def loadIPSetInfo (s : MasterSession) (file : Option Element) : MasterSession × Bool :=
  match file with
  | none => (s, true)
  | some root =>
      match root.getElement allowsName with
      | none => (s, false)
      | some allows =>
          match loadAllows s (allows.getElements allowName) with
          | (s, false) => (s, false)
          | (s, true) =>
              match root.getElement forbidsName with
              | none => (s, false)
              | some forbids => loadForbids s (forbids.getElements forbidName)

/-- The `forbid` of an account. -/
def forbidAccountElement (info : ForbidAccountInfo) : Element :=
  ((makeElement forbidName).setAttribute accountAttr info.accountId).setAttribute endTimeAttr
    (lexicalCast info.endTime)

/-- The root that `saveForbidAccount` builds. -/
def forbidAccountRoot (s : MasterSession) : Element :=
  (s.forbidAccountMap.toList.map fun e => forbidAccountElement e.2).foldl Element.addElement
    (makeElement forbidAccountName)

/-- `saveForbidAccount` -/
def saveForbidAccount (h : Host) : Host :=
  { h with files := { h.files with forbidAccount := some (forbidAccountRoot h.session) } }

/-- One turn of the loop of `loadForbidAccount`; an end that is no number stays zero, and
    `std::map::insert` keeps what is there. -/
def loadAccount (s : MasterSession) (e : Element) : MasterSession :=
  match e.getAttribute accountAttr, e.getAttribute endTimeAttr with
  | some account, some time =>
      let info : ForbidAccountInfo :=
        { endTime := (lexicalCastUInt64 time).getD 0, accountId := account }
      { s with forbidAccountMap := s.forbidAccountMap.insertIfNew account info }
  | _, _ => s

/-- `loadForbidAccount` -/
def loadForbidAccount (s : MasterSession) (file : Option Element) : MasterSession :=
  match file with
  | none => s
  | some root => (root.getElements forbidName).foldl loadAccount s

/-- `ManageMasterSession::init` of a fresh session; `false` where it gives up. -/
def init (files : Files) : Host × Bool :=
  match loadIPSetInfo {} files.ipsetConfig with
  | (s, false) => ({ session := s, files := files }, false)
  | (s, true) => ({ session := loadForbidAccount s files.forbidAccount, files := files }, true)

/-- Both tables are saved, and a fresh session loads them. -/
def restart (h : Host) : Host := (init (saveForbidAccount (saveIPSetInfo h)).files).1

/-! ## §4. Decisions. -/

/-- `validatedAccount`: an entry that has run out is taken out, and the table saved. -/
def validatedAccount (h : Host) (account : Text) (now : UInt64) : Bool × Host :=
  match h.session.forbidAccountMap[account]? with
  | none => (true, h)
  | some info =>
      if info.outOfTime now then
        (true, saveForbidAccount { h with
          session := { h.session with
            forbidAccountMap := h.session.forbidAccountMap.erase account } })
      else (false, h)

/-- `validatedIpAddr` -/
def validatedIpAddr (s : MasterSession) (ip : Text) (now : UInt64) : Bool :=
  if (s.forbidIpMap[ip]?).any fun info => ! info.outOfTime now then false
  else if ! s.forbidAllIp then true
  else s.allowIpSet.contains ip

/-- `isValidatedAccountAndIP` -/
def isValidatedAccountAndIP (h : Host) (account ip : Text) (now : UInt64) : Bool × Host :=
  match validatedAccount h account now with
  | (false, h) => (false, h)
  | (true, h) => (validatedIpAddr h.session ip now, h)

/-! ## §5. Commands. -/

/-- `handleAllowIP` -/
def handleAllowIP (h : Host) (ips : List Text) : Host :=
  saveIPSetInfo { h with
    session := { h.session with allowIpSet := ips.foldl (·.insert ·) h.session.allowIpSet } }

/-- `handleAllowIPRemove` -/
def handleAllowIPRemove (h : Host) (ips : List Text) : Host :=
  saveIPSetInfo { h with
    session := { h.session with allowIpSet := ips.foldl (·.erase ·) h.session.allowIpSet } }

/-- `handleForbidIP`; the end goes through an `int`. -/
def handleForbidIP (h : Host) (ips : List Text) (endTimes : List UInt64) : Host :=
  if ips.length = endTimes.length then
    let map := (ips.zip endTimes).foldl (fun (map : TreeMap Text ForbidIPInfo) e =>
      map.insert e.1 { endTime := e.2.toUInt32.toInt32.toInt64.toUInt64, ipAddr := e.1 })
      h.session.forbidIpMap
    saveIPSetInfo { h with
      session := { h.session with forbidIpMap := map }.collectForbidIpFlag }
  else h

/-- `handleForbidIPRemove` -/
def handleForbidIPRemove (h : Host) (ips : List Text) : Host :=
  saveIPSetInfo { h with
    session := { h.session with
      forbidIpMap := ips.foldl (·.erase ·) h.session.forbidIpMap }.collectForbidIpFlag }

/-- One account of `handleForbidAccount`. -/
def forbidOne (map : TreeMap Text ForbidAccountInfo) (e : Text × UInt64) :
    TreeMap Text ForbidAccountInfo :=
  match map[e.1]? with
  | some info => map.insert e.1 { info with endTime := e.2 }
  | none => map.insert e.1 { endTime := e.2, accountId := e.1 }

/-- `handleForbidAccount` -/
def handleForbidAccount (h : Host) (infos : List (Text × UInt64)) : Host :=
  saveForbidAccount { h with
    session := { h.session with
      forbidAccountMap := infos.foldl forbidOne h.session.forbidAccountMap } }

/-- One account of `handleForbidAccountRemove`, with its result in the answer. -/
def removeOne (p : TreeMap Text ForbidAccountInfo × List (Text × Nat)) (account : Text) :
    TreeMap Text ForbidAccountInfo × List (Text × Nat) :=
  if p.1.contains account then (p.1.erase account, p.2 ++ [(account, 1)])
  else (p.1, p.2 ++ [(account, 2)])

/-- `handleForbidAccountRemove`: the host, and the answer. -/
def handleForbidAccountRemove (h : Host) (accounts : List Text) : Host × List (Text × Nat) :=
  let p := accounts.foldl removeOne (h.session.forbidAccountMap, [])
  (saveForbidAccount { h with session := { h.session with forbidAccountMap := p.1 } }, p.2)

/-- What happens at a gate: the master's commands, and logins at a time. -/
inductive Act
  | allowIP (ips : List Text)
  | allowIPRemove (ips : List Text)
  | forbidIP (ips : List Text) (endTimes : List UInt64)
  | forbidIPRemove (ips : List Text)
  | forbidAccount (infos : List (Text × UInt64))
  | forbidAccountRemove (accounts : List Text)
  | login (account ip : Text) (now : UInt64)
  deriving Repr

/-- A command of the master server, or a login. -/
def step (h : Host) : Act → Host
  | .allowIP ips => handleAllowIP h ips
  | .allowIPRemove ips => handleAllowIPRemove h ips
  | .forbidIP ips endTimes => handleForbidIP h ips endTimes
  | .forbidIPRemove ips => handleForbidIPRemove h ips
  | .forbidAccount infos => handleForbidAccount h infos
  | .forbidAccountRemove accounts => (handleForbidAccountRemove h accounts).1
  | .login account ip now => (isValidatedAccountAndIP h account ip now).2

/-- A gate as a transition system; it starts without files. -/
def system : TransSys Host Act where
  init h := h = {}
  step h a := some (step h a)

/-! ## §6. Questions after a restart. -/

/-- What is asked of a session, and when. -/
inductive Query
  | ip (ip : Text) (now : UInt64)
  | account (account : Text) (now : UInt64)
  deriving Repr

/-- The time at which the question is asked. -/
def Query.now : Query → UInt64
  | .ip _ now => now
  | .account _ now => now

/-- The answer to a question, and what looking it up does to the lists. -/
def answer (h : Host) : Query → Bool × Host
  | .ip ip now => (validatedIpAddr h.session ip now, h)
  | .account account now => validatedAccount h account now

/-- The answers to questions that are asked one after the other. -/
def answers : Host → List Query → List Bool
  | _, [] => []
  | h, q :: qs => (answer h q).1 :: answers (answer h q).2 qs

end Steppingstone.Access
