/-
  Steppingstone.Cross.Model — `ManageCrossPlayerData` (`ManageCrossPlayerData.cpp`).

  A cross server keeps what the servers of other platforms deliver of their players: in memory by
  a key, and in files `cross_player_data/<platform>/<line id>/<player guid>/<entity guid>.data`.
  Strings are lists of characters, the disk is a `FileTree`, and `extractEntity` with
  `SerializeAsString` is a `Codec`; an exception ends a run with `none`.
-/
import Mathlib.Data.Set.Function
import Steppingstone.Lib.FileTree
import Steppingstone.Pool.Model

namespace Steppingstone.Cross

open Std (TreeMap)
open FileTree (Disk Listing Name Path resolve IsName)
open Pool (guidType etPlayer)

/-- A `std::string` of characters. -/
abbrev Text := List Char

/-- A `std::string` of bytes. -/
abbrev Bytes := List UInt8

/-! ## §1. Texts. -/

/-- `CROSS_PLAYER_PATH`: `./cross_player_data/`. -/
def crossPlayerPath : Text :=
  ['.', '/', 'c', 'r', 'o', 's', 's', '_', 'p', 'l', 'a', 'y', 'e', 'r', '_', 'd', 'a', 't', 'a', '/']

/-- `.data`. -/
def dataExt : Text := ['.', 'd', 'a', 't', 'a']

/-- `boost::lexical_cast<string>` of a guid. -/
def lexicalCast (guid : UInt64) : Text := Nat.toDigits 10 guid.toNat

/-- The value of a text of digits; `none` where the cast throws. -/
def castDigits (s : Text) : Option UInt64 :=
  if s ≠ [] ∧ s.all Char.isDigit then
    if Nat.ofDigitChars 10 s 0 < UInt64.size then some (.ofNat (Nat.ofDigitChars 10 s 0)) else none
  else none

/-- `boost::lexical_cast<uint64>`: a sign may stand in front, and a minus wraps around. -/
def lexicalCastUInt64 : Text → Option UInt64
  | '+' :: s => castDigits s
  | '-' :: s => (castDigits s).map fun value => -value
  | s => castDigits s

/-- `path::extension` of a file name. -/
def extension (name : Name) : Text :=
  if '.' ∈ name then '.' :: (name.reverse.takeWhile (· ≠ '.')).reverse else []

/-- `path::filename`. -/
def filename (path : Text) : Name := (path.reverse.takeWhile (· ≠ '/')).reverse

/-- `extractGuid`: what stands before the first dot. -/
def extractGuid (fileName : Name) : Option UInt64 :=
  match fileName.splitOn '.' with
  | first :: _ :: _ => lexicalCastUInt64 first
  | _ => some 0

/-- `getKey`. -/
def getKey (lineId platform : Text) (playerGuid : UInt64) : Text :=
  platform ++ lineId ++ lexicalCast playerGuid

/-! ## §2. The manager. -/

/-- Entities as they are parsed and serialized, `extractEntity` by the type in the guid. -/
structure Codec (E : Type) where
  extractEntity : UInt64 → Bytes → Option E
  serializeAsString : E → Bytes

/-- What is serialized is read back. -/
def Codec.Faithful {E : Type} (codec : Codec E) : Prop :=
  ∀ guid stream entity, codec.extractEntity guid stream = some entity →
    codec.extractEntity guid (codec.serializeAsString entity) = some entity

variable {E : Type}

/-- `CrossPlayerDataInfo`. -/
structure CrossPlayerDataInfo (E : Type) where
  platform : Text
  lineId : Text
  playerGuid : UInt64 := 0
  key : Text := ['d', 'e', 'f', 'a', 'u', 'l', 't']
  msgMap : TreeMap UInt64 E := {}

/-- `m_cross_player_data_info_map` owns the infos; `m_cross_player_guid_data_info_map` points to
    them and is kept as their keys. -/
structure ManageCrossPlayerData (E : Type) where
  infoMap : TreeMap Text (CrossPlayerDataInfo E) := {}
  guidInfoMap : TreeMap UInt64 Text := {}

namespace ManageCrossPlayerData

/-- `collectCrossPlayerData`. -/
def collectCrossPlayerData (codec : Codec E) (m : ManageCrossPlayerData E)
    (lineId platform : Text) (playerGuid entityGuid : UInt64) (entityStream : Bytes) :
    ManageCrossPlayerData E :=
  let key := getKey lineId platform playerGuid
  let info := (m.infoMap[key]?).getD { platform, lineId, playerGuid, key }
  let info :=
    match codec.extractEntity entityGuid entityStream with
    | some entity => { info with msgMap := info.msgMap.insert entityGuid entity }
    | none => info
  { m with infoMap := m.infoMap.insert key info }

/-- `createDir`. -/
def createDir (tree : Disk Bytes) (fileDir : Text) : Option (Disk Bytes) :=
  tree.createDirectory (resolve fileDir)

/-- `saveFile`. -/
def saveFile (tree : Disk Bytes) (fileName : Text) (fileStream : Bytes) : Disk Bytes :=
  tree.writeFile (resolve (fileName ++ dataExt)) fileStream

/-- `saveData`. -/
def saveData (codec : Codec E) (tree : Disk Bytes) (info : CrossPlayerDataInfo E) :
    Option (Disk Bytes) := do
  let tree ← createDir tree crossPlayerPath
  let tree ← createDir tree (crossPlayerPath ++ info.platform)
  let lineDir := crossPlayerPath ++ info.platform ++ ['/'] ++ info.lineId ++ ['/']
  let tree ← createDir tree lineDir
  let playerDir := lineDir ++ lexicalCast info.playerGuid ++ ['/']
  let tree ← createDir tree playerDir
  some (info.msgMap.toList.foldl
    (fun tree e => saveFile tree (playerDir ++ lexicalCast e.1) (codec.serializeAsString e.2)) tree)

/-- `collectCrossPlayerDataFinish`. -/
def collectCrossPlayerDataFinish (codec : Codec E) (m : ManageCrossPlayerData E)
    (tree : Disk Bytes) (lineId platform : Text) (playerGuid : UInt64) :
    Option (ManageCrossPlayerData E × Disk Bytes) :=
  let key := getKey lineId platform playerGuid
  match m.infoMap[key]? with
  | none => some (m, tree)
  | some info =>
      (saveData codec tree info).map fun tree =>
        ({ m with guidInfoMap := m.guidInfoMap.insert playerGuid key }, tree)

/-! ## §3. Loading. -/

/-- `searchDir`: the names of the directories in a directory. -/
def searchDir (list : Listing) (tree : Disk Bytes) (dir : Text) : List Name :=
  let path := resolve dir
  if tree.isDirectory path then
    (list.order path (tree.entries path)).filter fun n => tree.isDirectory (path ++ [n])
  else []

/-- `searchFileByExt`: the paths of the files with the extension. -/
def searchFileByExt (list : Listing) (tree : Disk Bytes) (dir ext : Text) : List Text :=
  let path := resolve dir
  if tree.isDirectory path then
    ((list.order path (tree.entries path)).filter fun n =>
      !tree.isDirectory (path ++ [n]) && extension n = ext).map fun n => dir ++ ['/'] ++ n
  else []

/-- `loadStream`. -/
def loadStream (tree : Disk Bytes) (file : Text) : Bytes := (tree.readFile (resolve file)).getD []

/-- One turn of the loop over the files of a player. -/
def loadFile (codec : Codec E) (tree : Disk Bytes) (info : CrossPlayerDataInfo E) (file : Text) :
    Option (CrossPlayerDataInfo E) :=
  (extractGuid (filename file)).map fun entityGuid =>
    match codec.extractEntity entityGuid (loadStream tree file) with
    | none => info
    | some entity =>
        { info with
          playerGuid := if guidType entityGuid = etPlayer then entityGuid else info.playerGuid
          msgMap := info.msgMap.insert entityGuid entity }

/-- `loadCrossPlayerData` of one player. -/
def loadPlayer (codec : Codec E) (list : Listing) (tree : Disk Bytes)
    (platform lineId linePath : Text) (m : ManageCrossPlayerData E) :
    Option (ManageCrossPlayerData E) :=
  ((searchFileByExt list tree linePath dataExt).foldlM (loadFile codec tree)
    { platform, lineId }).map fun info =>
      let key := getKey info.platform info.lineId info.playerGuid
      { infoMap := m.infoMap.insert key info
        guidInfoMap := m.guidInfoMap.insert info.playerGuid key }

/-- The loop over the lines of a platform; the path of a line is put behind that of the line
    before it. -/
def loadLines (codec : Codec E) (list : Listing) (tree : Disk Bytes) (platform : Text) :
    List Name → Text → ManageCrossPlayerData E → Option (ManageCrossPlayerData E)
  | [], _, m => some m
  | line :: lines, linePath, m =>
      let linePath := linePath ++ line ++ ['/']
      ((searchDir list tree linePath).foldlM
        (fun m player => loadPlayer codec list tree platform line (linePath ++ player) m) m).bind
          fun m => loadLines codec list tree platform lines linePath m

/-- `loadCrossPlayerData`, in a fresh manager. -/
def loadCrossPlayerData (codec : Codec E) (list : Listing) (tree : Disk Bytes) :
    Option (ManageCrossPlayerData E) :=
  (searchDir list tree crossPlayerPath).foldlM (fun m platform =>
    let platformPath := crossPlayerPath ++ platform
    loadLines codec list tree platform (searchDir list tree platformPath) (platformPath ++ ['/']) m)
    {}

end ManageCrossPlayerData

/-! ## §4. What is collected, and what is there after a restart. -/

/-- A player of a line of a platform. -/
structure Triple where
  platform : Text
  lineId : Text
  playerGuid : UInt64
  deriving DecidableEq

/-- The key under which the info of a triple is kept. -/
def Triple.key (t : Triple) : Text := getKey t.lineId t.platform t.playerGuid

/-- The two calls that deliver the data. -/
inductive CrossCall
  | collect (t : Triple) (entityGuid : UInt64) (entityStream : Bytes)
  | finish (t : Triple)

/-- The platform, the line and the player that a call names. -/
def CrossCall.triple : CrossCall → Triple
  | collect t .. => t
  | finish t => t

/-- The call delivers an entity. -/
def CrossCall.isCollect : CrossCall → Bool
  | collect .. => true
  | finish _ => false

/-- One call. -/
def callStep (codec : Codec E) (s : ManageCrossPlayerData E × Disk Bytes) :
    CrossCall → Option (ManageCrossPlayerData E × Disk Bytes)
  | .collect t entityGuid entityStream =>
      some (s.1.collectCrossPlayerData codec t.lineId t.platform t.playerGuid entityGuid
        entityStream, s.2)
  | .finish t =>
      s.1.collectCrossPlayerDataFinish codec s.2 t.lineId t.platform t.playerGuid

/-- The calls in order, on an empty disk. -/
def runCalls (codec : Codec E) (calls : List CrossCall) :
    Option (ManageCrossPlayerData E × Disk Bytes) :=
  calls.foldlM (callStep codec) ({}, {})

/-- The calls, then a restart. -/
def restart (codec : Codec E) (list : Listing) (calls : List CrossCall) :
    Option (ManageCrossPlayerData E) :=
  (runCalls codec calls).bind fun s => ManageCrossPlayerData.loadCrossPlayerData codec list s.2

/-- The triple has delivered an entity. -/
def Delivered (calls : List CrossCall) (t : Triple) : Prop :=
  ∃ c ∈ calls, c.isCollect = true ∧ c.triple = t

/-- The entities of the calls that `p` picks, the last of each guid. -/
def entitiesOf (codec : Codec E) (p : CrossCall → Bool) (calls : List CrossCall) :
    UInt64 → Option E :=
  calls.foldl (fun entities c =>
    match c with
    | .collect _ entityGuid entityStream =>
        if p c then
          match codec.extractEntity entityGuid entityStream with
          | some entity => Function.update entities entityGuid (some entity)
          | none => entities
        else entities
    | .finish _ => entities) fun _ => none

/-- The entity map of a triple. -/
def collected (codec : Codec E) (calls : List CrossCall) (t : Triple) : UInt64 → Option E :=
  entitiesOf codec (fun c => c.triple = t) calls

/-- Something was delivered since the last finish. -/
def outstanding (p : CrossCall → Bool) (calls : List CrossCall) : Bool :=
  calls.foldl (fun b c => if p c then c.isCollect else b) false

/-- Every triple was finished after its last delivery. -/
def Finished (calls : List CrossCall) : Prop :=
  ∀ t : Triple, outstanding (fun c => c.triple = t) calls = false

/-- The info is that of the triple. -/
def CrossPlayerDataInfo.IsOf (info : CrossPlayerDataInfo E) (t : Triple)
    (entities : UInt64 → Option E) : Prop :=
  info.platform = t.platform ∧ info.lineId = t.lineId ∧ info.playerGuid = t.playerGuid ∧
    ∀ guid, info.msgMap[guid]? = entities guid

/-- **Every triple is there again**, with its entities, under a key of its own. -/
def Restored (codec : Codec E) (calls : List CrossCall) (m : ManageCrossPlayerData E) : Prop :=
  ∃ key : Triple → Text, Set.InjOn key { t | Delivered calls t } ∧
    ∀ t, Delivered calls t → ∃ info, m.infoMap[key t]? = some info ∧
      info.IsOf t (collected codec calls t)

end Steppingstone.Cross
