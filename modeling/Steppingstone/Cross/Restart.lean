/-
  Steppingstone.Cross.Restart — what a restart of a cross server brings back.

  Three things are in the way of a restart: only one line of a platform is read, keys are three
  texts put together, in one order when the data is delivered and in another when it is read, and
  the player of a directory is taken from its files.
-/
import Steppingstone.Cross.Load
import Steppingstone.Lib.Lookup

namespace Steppingstone.Cross

open Std (TreeMap)
open FileTree (Disk Listing Name Path resolve IsName)
open ManageCrossPlayerData
open Pool (guidType etPlayer etRole)

variable {E : Type} {codec : Codec E} {list : Listing} {tree : Disk Bytes}
  {saved : Text → Option (CrossPlayerDataInfo E)}

/-! ## §1. When everything is there again. -/

variable {calls : List CrossCall}

/-- What the calls must be like: file names, one line for each platform, keys that tell the triples
    apart in both orders, and no player but the own one, which is there unless the guid is 0. -/
structure Survives (codec : Codec E) (calls : List CrossCall) : Prop where
  names : ∀ t, Delivered calls t → IsName t.platform ∧ IsName t.lineId
  oneLine : ∀ t t', Delivered calls t → Delivered calls t' → t.platform = t'.platform →
    t.lineId = t'.lineId
  collectKey : ∀ t t', Delivered calls t → Delivered calls t' →
    getKey t.lineId t.platform t.playerGuid = getKey t'.lineId t'.platform t'.playerGuid → t = t'
  loadKey : ∀ t t', Delivered calls t → Delivered calls t' →
    getKey t.platform t.lineId t.playerGuid = getKey t'.platform t'.lineId t'.playerGuid → t = t'
  onlyPlayer : ∀ t, Delivered calls t → ∀ g, guidType g = etPlayer →
    (collected codec calls t g).isSome = true → g = t.playerGuid
  ownPlayer : ∀ t, Delivered calls t → t.playerGuid ≠ 0 →
    guidType t.playerGuid = etPlayer ∧ (collected codec calls t t.playerGuid).isSome = true

theorem entitiesOf_extracted {p : CrossCall → Bool} {g : UInt64} {entity : E}
    (h : entitiesOf codec p calls g = some entity) :
    ∃ stream, codec.extractEntity g stream = some entity := by
  induction calls using List.reverseRecOn with
  | nil => cases h
  | append_singleton calls c ih =>
      cases c with
      | finish t =>
          rw [entitiesOf_snoc_finish] at h
          exact ih h
      | collect t x stream =>
          rw [entitiesOf_snoc_collect] at h
          cases hx : codec.extractEntity x stream with
          | none =>
              simp only [hx, ite_self] at h
              exact ih h
          | some e =>
              simp only [hx] at h
              split at h
              next =>
                  obtain ⟨rfl, rfl⟩ | ⟨-, h⟩ := Lookup.update_some.mp h
                  · exact ⟨stream, hx⟩
                  · exact ih h
              next => exact ih h

/-- What is saved when every triple is finished. -/
theorem stored_of_archived (hcodec : codec.Faithful) {m : ManageCrossPlayerData E}
    (h : Archived codec calls m tree saved) (hfinished : Finished calls)
    (hnames : ∀ t, Delivered calls t → IsName t.platform ∧ IsName t.lineId) :
    Stored codec saved := by
  have hinfo : ∀ k i, saved k = some i → m.infoMap[k]? = some i :=
    fun k i hk => (saved_of_finished h hfinished k).symm.trans hk
  refine ⟨?_, ?_, ?_⟩
  · intro k i hk
    exact hnames i.triple (h.info k i (hinfo k i hk)).2.1
  · intro k i hk
    exact (h.info k i (hinfo k i hk)).1
  · intro k i hk g entity hg
    rw [(h.info k i (hinfo k i hk)).2.2 g] at hg
    obtain ⟨stream, hstream⟩ := entitiesOf_extracted hg
    exact hcodec g stream entity hstream

/-- The player of a directory in which there is one player at most. -/
theorem playerOf_eq {gs : List UInt64} {player : UInt64}
    (honly : ∀ g ∈ gs, guidType g = etPlayer → g = player) :
    playerOf gs = if ∃ g ∈ gs, guidType g = etPlayer then player else 0 := by
  have key : ∀ (gs : List UInt64) (a : UInt64), (∀ g ∈ gs, guidType g = etPlayer → g = player) →
      gs.foldl (fun p g => if guidType g = etPlayer then g else p) a
        = if ∃ g ∈ gs, guidType g = etPlayer then player else a := by
    intro gs
    induction gs with
    | nil => intro a _; simp
    | cons g gs ih =>
        intro a honly
        rw [List.foldl_cons, ih _ fun x hx => honly x (List.mem_cons_of_mem g hx)]
        by_cases hrest : ∃ x ∈ gs, guidType x = etPlayer
        · obtain ⟨x, hx, hplayer⟩ := hrest
          rw [if_pos ⟨x, hx, hplayer⟩, if_pos ⟨x, List.mem_cons_of_mem g hx, hplayer⟩]
        · rw [if_neg hrest]
          by_cases hg : guidType g = etPlayer
          · rw [if_pos hg, if_pos ⟨g, List.mem_cons_self, hg⟩]
            exact honly g List.mem_cons_self hg
          · rw [if_neg hg, if_neg]
            intro hex
            obtain ⟨x, hx, hplayer⟩ := hex
            obtain rfl | hx := List.mem_cons.mp hx
            · exact hg hplayer
            · exact hrest ⟨x, hx, hplayer⟩
  exact key gs 0 honly

/-- **Under the conditions** everything is there again. -/
theorem restored_of_survives (hcodec : codec.Faithful) (hfinished : Finished calls)
    (h : Survives codec calls) (list : Listing) :
    ∃ m, restart codec list calls = some m ∧ Restored codec calls m := by
  obtain ⟨m₀, tree, saved, hrun, harch⟩ := run_archived codec calls h.names
  have hs := stored_of_archived hcodec harch hfinished h.names
  obtain ⟨m, hload, hfrom, hthere⟩ := load_spec harch.layout hs list
  have hsaved := saved_of_finished harch hfinished
  -- each saved info is that of its triple alone
  have hentities : ∀ k i, saved k = some i → Delivered calls i.triple ∧
      ∀ g : UInt64, i.msgMap[g]? = collected codec calls i.triple g := by
    intro k i hk
    obtain ⟨hkey, hdelivered, hmap⟩ := harch.info k i ((hsaved k).symm.trans hk)
    refine ⟨hdelivered, ?_⟩
    intro g
    rw [hmap]
    refine congrFun (entitiesOf_congr ?_) g
    intro c hc hcollect
    have hct : Delivered calls c.triple := ⟨c, hc, hcollect, rfl⟩
    apply decide_eq_decide.mpr
    constructor
    · intro hck
      exact h.collectKey _ _ hct hdelivered (hck.trans hkey.symm)
    · intro hck
      rw [hck]
      exact hkey
  -- and it is read as that of its triple
  have hreads : ∀ k i x, saved k = some i → Reads list tree i x →
      x.playerGuid = i.playerGuid := by
    intro k i x hk hreads
    obtain ⟨-, -, -, gs, -, hgs, hplayer⟩ := hreads
    obtain ⟨hdelivered, hmap⟩ := hentities k i hk
    have honly : ∀ g ∈ gs, guidType g = etPlayer → g = i.playerGuid := by
      intro g hg htype
      apply h.onlyPlayer i.triple hdelivered g htype
      rw [← hmap]
      exact (hgs g).mp hg
    rw [hplayer, playerOf_eq honly]
    by_cases hzero : i.playerGuid = 0
    · rw [hzero, ite_self]
    · obtain ⟨htype, hsome⟩ := h.ownPlayer i.triple hdelivered hzero
      rw [if_pos]
      refine ⟨i.playerGuid, (hgs _).mpr ?_, htype⟩
      rw [hmap]
      exact hsome
  refine ⟨m, ?_, fun t => getKey t.platform t.lineId t.playerGuid, ?_, ?_⟩
  · rw [restart, hrun]
    exact hload
  · intro t ht t' ht' he
    exact h.loadKey t t' ht ht' he
  · intro t ht
    obtain ⟨i, hi⟩ := Option.isSome_iff_exists.mp (harch.present t ht)
    have hk : saved t.key = some i := (hsaved t.key).trans hi
    obtain ⟨hkey, hdelivered, -⟩ := harch.info t.key i hi
    have htriple : i.triple = t := h.collectKey _ _ hdelivered ht hkey
    -- its line is the only one of the platform
    have hfirst : FirstLine list tree i := by
      have hin : i.lineId ∈ searchDir list tree (crossPlayerPath ++ i.platform) :=
        (harch.layout.mem_lines (hs.names _ i hk).1).mpr ⟨_, i, hk, rfl, rfl⟩
      unfold FirstLine
      cases hlines : searchDir list tree (crossPlayerPath ++ i.platform) with
      | nil =>
          rw [hlines] at hin
          exact absurd hin List.not_mem_nil
      | cons line lines =>
          have hline : line ∈ searchDir list tree (crossPlayerPath ++ i.platform) := by
            rw [hlines]
            exact List.mem_cons_self
          obtain ⟨k', i', hk', hip, rfl⟩ :=
            (harch.layout.mem_lines (hs.names _ i hk).1).mp hline
          exact congrArg some (h.oneLine i'.triple i.triple (hentities k' i' hk').1 hdelivered hip)
    obtain ⟨x, hx, hsome⟩ := hthere t.key i hk hfirst
    obtain ⟨y, hy⟩ := Option.isSome_iff_exists.mp hsome
    have hxguid := hreads t.key i x hk hx
    have hxt : getKey x.platform x.lineId x.playerGuid
        = getKey t.platform t.lineId t.playerGuid := by
      rw [hx.1, hx.2.1, hxguid, ← htriple]
      rfl
    rw [hxt] at hy
    refine ⟨y, hy, ?_⟩
    -- what stands under the key is of the same triple
    obtain ⟨hykey, k', i', hk', hy', -⟩ := hfrom _ y hy
    have hyguid := hreads k' i' y hk' hy'
    have hit : i'.triple = t := by
      apply h.loadKey _ _ (hentities k' i' hk').1 ht
      rw [hykey, hy'.1, hy'.2.1, hyguid]
      rfl
    refine ⟨?_, ?_, ?_, ?_⟩
    · rw [hy'.1, ← hit]
      rfl
    · rw [hy'.2.1, ← hit]
      rfl
    · rw [hyguid, ← hit]
      rfl
    · intro g
      rw [hy'.2.2.1, (hentities k' i' hk').2, hit]

/-! ## §2. And only then. -/

/-- What a loop that can throw keeps. -/
theorem foldlM_invariant {A S : Type} {f : S → A → Option S} {P : S → Prop} {as : List A} {s s' : S}
    (hstep : ∀ s a s', a ∈ as → P s → f s a = some s' → P s') (hs : P s)
    (h : as.foldlM f s = some s') : P s' := by
  induction as generalizing s with
  | nil =>
      obtain rfl : s = s' := Option.some.inj h
      exact hs
  | cons a as ih =>
      rw [List.foldlM_cons] at h
      obtain ⟨t, ht, hrest⟩ := Option.bind_eq_some_iff.mp h
      exact ih (fun s b s' hb => hstep s b s' (List.mem_cons_of_mem a hb))
        (hstep s a t List.mem_cons_self hs ht) hrest

theorem wellNamed_saveFiles {file : UInt64 × E → Text} {bytes : UInt64 × E → Bytes}
    (es : List (UInt64 × E)) {tree : Disk Bytes} (h : tree.WellNamed) :
    (es.foldl (fun tree e => saveFile tree (file e) (bytes e)) tree).WellNamed := by
  induction es generalizing tree with
  | nil => exact h
  | cons e es ih => exact ih (h.writeFile (fun n => FileTree.isName_of_mem_resolve) _)

/-- Saving a player keeps the names. -/
theorem wellNamed_saveData {tree tree' : Disk Bytes} (h : tree.WellNamed)
    {i : CrossPlayerDataInfo E} (hsave : saveData codec tree i = some tree') : tree'.WellNamed := by
  have hnames : ∀ s : Text, ∀ n ∈ resolve s, IsName n := fun s n => FileTree.isName_of_mem_resolve
  unfold saveData at hsave
  obtain ⟨tree1, h1, hsave⟩ := Option.bind_eq_some_iff.mp hsave
  obtain ⟨tree2, h2, hsave⟩ := Option.bind_eq_some_iff.mp hsave
  obtain ⟨tree3, h3, hsave⟩ := Option.bind_eq_some_iff.mp hsave
  obtain ⟨tree4, h4, hsave⟩ := Option.bind_eq_some_iff.mp hsave
  obtain rfl := Option.some.inj hsave
  have hw1 := h.createDirectory (hnames _) h1
  have hw2 := hw1.createDirectory (hnames _) h2
  have hw3 := hw2.createDirectory (hnames _) h3
  have hw4 := hw3.createDirectory (hnames _) h4
  exact wellNamed_saveFiles _ hw4

/-- Every component on the disk is a file name, whatever the platforms and line ids are. -/
theorem wellNamed_runCalls {m : ManageCrossPlayerData E} (h : runCalls codec calls = some (m, tree)) :
    tree.WellNamed := by
  have key : ∀ s, runCalls codec calls = some s → s.2.WellNamed := by
    intro s hs
    apply foldlM_invariant (P := fun s => s.2.WellNamed) _ FileTree.Disk.wellNamed_empty hs
    intro s c s' _ hw hstep
    cases c with
    | collect t g stream =>
        obtain rfl := Option.some.inj hstep
        exact hw
    | finish t =>
        simp only [callStep, collectCrossPlayerDataFinish] at hstep
        split at hstep
        next =>
            obtain rfl := Option.some.inj hstep
            exact hw
        next i _ =>
            obtain ⟨tree', hsave, rfl⟩ := Option.map_eq_some_iff.mp hstep
            exact wellNamed_saveData hw hsave
  exact key _ h

/-- What is searched for is a file name. -/
theorem isName_of_mem_searchDir (h : tree.WellNamed) {d : Text} {n : Name}
    (hn : n ∈ searchDir list tree d) : IsName n :=
  h _ _ (mem_searchDir.mp hn).2 n (List.mem_append_right _ List.mem_cons_self)

/-- Every info that is read has file names. -/
def Named (m : ManageCrossPlayerData E) : Prop :=
  ∀ (k : Text) x, m.infoMap[k]? = some x → IsName x.platform ∧ IsName x.lineId

theorem named_loadPlayer {platform lineId linePath : Text} (hplatform : IsName platform)
    (hline : IsName lineId) {m m' : ManageCrossPlayerData E} (hm : Named m)
    (h : loadPlayer codec list tree platform lineId linePath m = some m') : Named m' := by
  rw [loadPlayer_eq] at h
  obtain ⟨x, hx, rfl⟩ := Option.map_eq_some_iff.mp h
  have hxnames : x.platform = platform ∧ x.lineId = lineId := by
    apply foldlM_invariant (P := fun x => x.platform = platform ∧ x.lineId = lineId) _ ⟨rfl, rfl⟩ hx
    intro y file y' _ hy hstep
    obtain ⟨g, -, rfl⟩ := Option.map_eq_some_iff.mp hstep
    split <;> exact hy
  intro k y hy
  change (m.infoMap.insert _ x)[k]? = some y at hy
  rw [Lookup.getElem?_insert] at hy
  split at hy
  next =>
      obtain rfl := Option.some.inj hy
      rw [hxnames.1, hxnames.2]
      exact ⟨hplatform, hline⟩
  next => exact hm k y hy

theorem named_loadLines {platform : Text} (hplatform : IsName platform) {lines : List Name}
    (hlines : ∀ n ∈ lines, IsName n) {linePath : Text} {m m' : ManageCrossPlayerData E}
    (hm : Named m) (h : loadLines codec list tree platform lines linePath m = some m') :
    Named m' := by
  induction lines generalizing linePath m with
  | nil =>
      obtain rfl := Option.some.inj h
      exact hm
  | cons line lines ih =>
      obtain ⟨m₁, h₁, hrest⟩ := Option.bind_eq_some_iff.mp h
      refine ih (fun n hn => hlines n (List.mem_cons_of_mem line hn)) ?_ hrest
      apply foldlM_invariant (P := Named) _ hm h₁
      intro s player s' _ hs hstep
      exact named_loadPlayer hplatform (hlines line List.mem_cons_self) hs hstep

/-- What is loaded has names. -/
theorem named_load (h : tree.WellNamed) {m : ManageCrossPlayerData E}
    (hload : loadCrossPlayerData codec list tree = some m) : Named m := by
  have hempty : Named ({} : ManageCrossPlayerData E) := by
    intro k x hx
    cases hx
  apply foldlM_invariant (P := Named) _ hempty hload
  intro s platform s' hplatform hs hstep
  exact named_loadLines (isName_of_mem_searchDir h hplatform)
    (fun n hn => isName_of_mem_searchDir h hn) hs hstep

theorem playerOf_mem {gs : List UInt64} (h : playerOf gs ≠ 0) :
    playerOf gs ∈ gs ∧ guidType (playerOf gs) = etPlayer := by
  induction gs using List.reverseRecOn with
  | nil => exact absurd rfl h
  | append_singleton gs g ih =>
      have hsnoc : playerOf (gs ++ [g]) = if guidType g = etPlayer then g else playerOf gs := by
        unfold playerOf
        rw [List.foldl_append]
        rfl
      rw [hsnoc] at h ⊢
      by_cases hg : guidType g = etPlayer
      · rw [if_pos hg]
        exact ⟨List.mem_append_right _ List.mem_cons_self, hg⟩
      · rw [if_neg hg] at h ⊢
        exact ⟨List.mem_append_left _ (ih h).1, (ih h).2⟩

theorem getLast?_last {n : Name} (p : Path) {ns : List Name} (hn : n ∈ ns) :
    ((Listing.last n).order p ns).getLast? = some n := by
  show (ns.filter (· ≠ n) ++ ns.filter (· = n)).getLast? = some n
  have hin : n ∈ ns.filter (· = n) := List.mem_filter.mpr ⟨hn, decide_eq_true rfl⟩
  have hne : ns.filter (· = n) ≠ [] := List.ne_nil_of_mem hin
  rw [List.getLast?_append_of_ne_nil _ hne, List.getLast?_eq_some_getLast hne]
  exact congrArg some (of_decide_eq_true (List.mem_filter.mp (List.getLast_mem hne)).2)

/-- A player that is listed last is the player of the directory. -/
theorem playerOf_last {gs : List UInt64} {g : UInt64} (hlast : gs.getLast? = some g)
    (hg : guidType g = etPlayer) : playerOf gs = g := by
  rw [← List.dropLast_append_getLast? g hlast]
  unfold playerOf
  rw [List.foldl_append]
  exact if_pos hg

/-- What stands for a triple after a restart, and the saved info that it was read from. -/
theorem restored_from (hcodec : codec.Faithful) (hfinished : Finished calls)
    {m₀ : ManageCrossPlayerData E} (hrun : runCalls codec calls = some (m₀, tree))
    (harch : Archived codec calls m₀ tree saved)
    (hnames : ∀ t, Delivered calls t → IsName t.platform ∧ IsName t.lineId)
    {m : ManageCrossPlayerData E} (hrestart : restart codec list calls = some m)
    (hrestored : Restored codec calls m) {t : Triple} (ht : Delivered calls t) :
    ∃ k i x, saved k = some i ∧ Reads list tree i x ∧ FirstLine list tree i ∧
      x.IsOf t (collected codec calls t) ∧
      m.infoMap[getKey t.platform t.lineId t.playerGuid]? = some x := by
  have hs := stored_of_archived hcodec harch hfinished hnames
  obtain ⟨m', hload, hfrom, -⟩ := load_spec harch.layout hs list
  have hsame : m' = m := by
    rw [restart, hrun] at hrestart
    exact Option.some.inj (hload.symm.trans hrestart)
  obtain ⟨key, -, hkey⟩ := hrestored
  obtain ⟨x, hx, hof⟩ := hkey t ht
  rw [← hsame] at hx ⊢
  obtain ⟨hk, k', i, hk', hreads, hfirst⟩ := hfrom _ x hx
  refine ⟨k', i, x, hk', hreads, hfirst, hof, ?_⟩
  rw [hk, hof.1, hof.2.1, hof.2.2.1] at hx
  exact hx

/-- **When everything is there again**, the conditions hold. -/
theorem survives_of_restored (hcodec : codec.Faithful) (hfinished : Finished calls)
    (h : ∀ list, ∃ m, restart codec list calls = some m ∧ Restored codec calls m) :
    Survives codec calls := by
  have hnames : ∀ t, Delivered calls t → IsName t.platform ∧ IsName t.lineId := by
    intro t ht
    obtain ⟨m, hrestart, key, -, hkey⟩ := h .id
    obtain ⟨x, hx, hplatform, hline, -⟩ := hkey t ht
    obtain ⟨s, hrun, hload⟩ := Option.bind_eq_some_iff.mp hrestart
    have hname := named_load (wellNamed_runCalls hrun) hload (key t) x hx
    rw [hplatform, hline] at hname
    exact hname
  obtain ⟨m₀, tree, saved, hrun, harch⟩ := run_archived codec calls hnames
  have hs := stored_of_archived hcodec harch hfinished hnames
  have hsaved := saved_of_finished harch hfinished
  have hfrom := fun (list : Listing) {t : Triple} (ht : Delivered calls t) =>
    let hm := (h list).choose_spec
    restored_from hcodec hfinished hrun harch hnames hm.1 hm.2 ht
  -- any player of a triple can be listed last
  have honly : ∀ t, Delivered calls t → ∀ g, guidType g = etPlayer →
      (collected codec calls t g).isSome = true → g = t.playerGuid := by
    intro t ht g hg hsome
    obtain ⟨k, i, x, hk, ⟨-, -, hmap, gs, horder, hgs, hplayer⟩, -, hof, -⟩ :=
      hfrom (.last (entityFile g)) ht
    have hin : g ∈ gs := by
      rw [hgs, ← hmap, hof.2.2.2]
      exact hsome
    have hlast : gs.getLast? = some g := by
      have hmapped : (gs.map entityFile).getLast? = some (entityFile g) := by
        rw [← horder]
        exact getLast?_last _ (by
          rw [← ((Listing.last (entityFile g)).perm (playerPath i.triple) _).mem_iff, horder]
          exact List.mem_map_of_mem hin)
      rw [List.getLast?_map] at hmapped
      obtain ⟨g', hg', he⟩ := Option.map_eq_some_iff.mp hmapped
      rw [hg', entityFile_injective he]
    rw [← hof.2.2.1, hplayer, playerOf_last hlast hg]
  have hown : ∀ t, Delivered calls t → t.playerGuid ≠ 0 →
      guidType t.playerGuid = etPlayer ∧ (collected codec calls t t.playerGuid).isSome = true := by
    intro t ht hzero
    obtain ⟨k, i, x, hk, ⟨-, -, hmap, gs, -, hgs, hplayer⟩, -, hof, -⟩ := hfrom .id ht
    have heq : t.playerGuid = playerOf gs := hof.2.2.1.symm.trans hplayer
    rw [heq] at hzero ⊢
    obtain ⟨hin, htype⟩ := playerOf_mem hzero
    refine ⟨htype, ?_⟩
    rw [← hof.2.2.2, hmap, ← hgs]
    exact hin
  -- each triple is read from an info of its line with just its entities
  have hread : ∀ t, Delivered calls t → ∃ k r, saved k = some r ∧ r.platform = t.platform ∧
      r.lineId = t.lineId ∧ ∀ g : UInt64, r.msgMap[g]? = collected codec calls t g := by
    intro t ht
    obtain ⟨k, r, x, hk, hreads, -, hof, -⟩ := hfrom .id ht
    refine ⟨k, r, hk, hreads.1.symm.trans hof.1, hreads.2.1.symm.trans hof.2.1, ?_⟩
    intro g
    rw [← hreads.2.2.1, hof.2.2.2]
  -- and if the info has a player, that is the player of the triple
  have hguid : ∀ k r, saved k = some r → ∀ {t}, Delivered calls t →
      (∀ g : UInt64, r.msgMap[g]? = collected codec calls t g) → r.playerGuid ≠ 0 →
      r.playerGuid = t.playerGuid := by
    intro k r hk t ht hmap hne
    obtain ⟨hkey, hdelivered, hentities⟩ := harch.info k r ((hsaved k).symm.trans hk)
    obtain ⟨htype, hsome⟩ := hown r.triple hdelivered hne
    apply honly t ht _ htype
    rw [← hmap, hentities]
    exact entitiesOf_mono (fun c hc => decide_eq_true (of_decide_eq_true hc ▸ hkey)) hsome
  refine ⟨hnames, ?_, ?_, ?_, honly, hown⟩
  · intro t t' ht ht' hplatform
    obtain ⟨k, i, x, -, hreads, hfirst, hof, -⟩ := hfrom .id ht
    obtain ⟨k', i', x', -, hreads', hfirst', hof', -⟩ := hfrom .id ht'
    have hip : i.platform = i'.platform := by
      rw [← hreads.1, ← hreads'.1, hof.1, hof'.1, hplatform]
    unfold FirstLine at hfirst hfirst'
    rw [hip, hfirst', ← hreads.2.1, ← hreads'.2.1, hof.2.1, hof'.2.1] at hfirst
    exact (Option.some.inj hfirst).symm
  · -- the info that a triple is read from is its own
    have hself : ∀ t, Delivered calls t → ∃ k i, saved k = some i ∧ i.triple = t := by
      intro t ht
      obtain ⟨k, r, hk, hplatform, hline, hmap⟩ := hread t ht
      obtain ⟨hkey, hdelivered, -⟩ := harch.info k r ((hsaved k).symm.trans hk)
      by_cases hzero : r.playerGuid = 0
      · -- then the info is read for a triple without players as well
        obtain ⟨k', r', hk', hplatform', hline', hmap'⟩ := hread r.triple hdelivered
        have hzero' : r'.playerGuid = 0 := by
          by_contra hne
          exact hne ((hguid k' r' hk' hdelivered hmap' hne).trans hzero)
        have hsame : r'.triple = r.triple := by
          show Triple.mk r'.platform r'.lineId r'.playerGuid = _
          rw [hplatform', hline', hzero', ← hzero]
          rfl
        have hkk : k' = k := by
          rw [← hkey, ← hsame]
          exact (harch.info k' r' ((hsaved k').symm.trans hk')).1.symm
        rw [hkk, hk] at hk'
        obtain rfl := Option.some.inj hk'
        refine ⟨k, r, hk, ?_⟩
        have htzero : t.playerGuid = 0 := by
          by_contra hne
          obtain ⟨htype, hsome⟩ := hown t ht hne
          rw [← hmap, hmap'] at hsome
          exact hne ((honly r.triple hdelivered _ htype hsome).trans hzero)
        obtain ⟨platform, lineId, playerGuid⟩ := t
        show Triple.mk r.platform r.lineId r.playerGuid = _
        rw [hplatform, hline, hzero, ← htzero]
      · have hsame := hguid k r hk ht hmap hzero
        refine ⟨k, r, hk, ?_⟩
        obtain ⟨platform, lineId, playerGuid⟩ := t
        show Triple.mk r.platform r.lineId r.playerGuid = _
        rw [hplatform, hline, hsame]
    intro t t' ht ht' hkey
    obtain ⟨k, i, hk, hi⟩ := hself t ht
    obtain ⟨k', i', hk', hi'⟩ := hself t' ht'
    have hkk : k = k' := by
      rw [← hs.keyed k i hk, ← hs.keyed k' i' hk', hi, hi']
      exact hkey
    rw [hkk, hk'] at hk
    rw [← hi, ← hi', Option.some.inj hk]
  · intro t t' ht ht' hkey
    obtain ⟨k, i, x, -, -, -, hof, hx⟩ := hfrom .id ht
    obtain ⟨k', i', x', -, -, -, hof', hx'⟩ := hfrom .id ht'
    rw [hkey, hx'] at hx
    obtain rfl := Option.some.inj hx
    obtain ⟨platform, lineId, playerGuid⟩ := t
    obtain ⟨platform', lineId', playerGuid'⟩ := t'
    obtain ⟨rfl, rfl, rfl, -⟩ := hof
    obtain ⟨rfl, rfl, rfl, -⟩ := hof'
    rfl

/-- **A restart brings everything back**, however directories are listed, exactly when the
    conditions hold. -/
theorem restored_iff (hcodec : codec.Faithful) (hfinished : Finished calls) :
    (∀ list, ∃ m, restart codec list calls = some m ∧ Restored codec calls m) ↔
      Survives codec calls :=
  ⟨survives_of_restored hcodec hfinished, restored_of_survives hcodec hfinished⟩

/-- What follows a varint of at most so many bytes. -/
def skipVarint : Nat → Bytes → Option Bytes
  | bytes + 1, b :: stream => if b < 0x80 then some stream else skipVarint bytes stream
  | _, _ => none

/-- The stream is a `uint64` field for each of the keys, and nothing else. -/
def hasFields : Bytes → Bytes → Bool
  | [], stream => stream.isEmpty
  | key :: keys, b :: stream => b == key && (skipVarint 10 stream).any (hasFields keys)
  | _ :: _, [] => false

/-- The keys of the required fields: `guid` of `Player`, and `guid` and `player` of `Role`. -/
def requiredKeys (guid : UInt64) : Option Bytes :=
  if guidType guid = etPlayer then some [0x08]
  else if guidType guid = etRole then some [0x08, 0x10]
  else none

/-- Players and roles with their required fields only, as their bytes. -/
def plainCodec : Codec Bytes where
  extractEntity guid stream :=
    if (requiredKeys guid).any (hasFields · stream) then some stream else none
  serializeAsString bytes := bytes

theorem plainCodec_faithful : plainCodec.Faithful := by
  intro guid stream entity h
  obtain ⟨-, he⟩ := Option.ite_none_right_eq_some.mp h
  obtain rfl := Option.some.inj he
  exact h

/-- Player `n` of a line. -/
def playerOn (platform lineId : Text) (n : UInt64) : Triple :=
  ⟨platform, lineId, (1 : UInt64) <<< 56 ||| n⟩

/-- The role of the player. -/
def roleOf (t : Triple) : UInt64 := t.playerGuid + (1 : UInt64) <<< 56

/-- The varint of a guid of the type, for small numbers of players. -/
def guidVarint (type : UInt8) (guid : UInt64) : Bytes :=
  [0x80 ||| guid.toUInt8, 0x80, 0x80, 0x80, 0x80, 0x80, 0x80, 0x80, type]

/-- A player delivers itself and its role. -/
def deliver (t : Triple) : List CrossCall :=
  [.collect t t.playerGuid (0x08 :: guidVarint 1 t.playerGuid),
    .collect t (roleOf t)
      (0x08 :: guidVarint 2 t.playerGuid ++ 0x10 :: guidVarint 1 t.playerGuid),
    .finish t]

/-- One line of each of two platforms. -/
def twoPlatforms : List CrossCall :=
  deliver (playerOn ['a'] ['1'] 1) ++ deliver (playerOn ['b'] ['1'] 1)

/-- Two lines of one platform. -/
def twoLines : List CrossCall :=
  deliver (playerOn ['a'] ['1'] 1) ++ deliver (playerOn ['a'] ['2'] 2)

theorem finished_twoPlatforms : Finished twoPlatforms := by
  intro t
  show (if decide (playerOn ['b'] ['1'] 1 = t) then false else
    if decide (playerOn ['b'] ['1'] 1 = t) then true else
    if decide (playerOn ['b'] ['1'] 1 = t) then true else
    if decide (playerOn ['a'] ['1'] 1 = t) then false else
    if decide (playerOn ['a'] ['1'] 1 = t) then true else
    if decide (playerOn ['a'] ['1'] 1 = t) then true else false) = false
  split
  · rfl
  · split
    · rfl
    · rfl

theorem survives_twoPlatforms : Survives plainCodec twoPlatforms := by
  have hdelivered : ∀ t, Delivered twoPlatforms t →
      t = playerOn ['a'] ['1'] 1 ∨ t = playerOn ['b'] ['1'] 1 := by
    intro t ht
    obtain ⟨c, hc, -, rfl⟩ := ht
    obtain hc | hc := List.mem_append.mp hc
    · simp only [deliver, List.mem_cons, List.not_mem_nil, or_false] at hc
      obtain rfl | rfl | rfl := hc <;> exact Or.inl rfl
    · simp only [deliver, List.mem_cons, List.not_mem_nil, or_false] at hc
      obtain rfl | rfl | rfl := hc <;> exact Or.inr rfl
  have hcollected : ∀ t, Delivered twoPlatforms t → collected plainCodec twoPlatforms t
      = Function.update
          (Function.update (fun _ => none) ((1 : UInt64) <<< 56 ||| 1)
            (some (0x08 :: guidVarint 1 1)))
          ((2 : UInt64) <<< 56 ||| 1)
          (some (0x08 :: guidVarint 2 1 ++ 0x10 :: guidVarint 1 1)) := by
    intro t ht
    obtain rfl | rfl := hdelivered t ht <;> rfl
  have hguid : ∀ t, Delivered twoPlatforms t → t.playerGuid = (1 : UInt64) <<< 56 ||| 1 := by
    intro t ht
    obtain rfl | rfl := hdelivered t ht <;> rfl
  refine ⟨?_, ?_, ?_, ?_, ?_, ?_⟩
  · intro t ht
    obtain rfl | rfl := hdelivered t ht <;> decide
  · intro t t' ht ht'
    obtain rfl | rfl := hdelivered t ht <;> obtain rfl | rfl := hdelivered t' ht' <;> decide
  · intro t t' ht ht'
    obtain rfl | rfl := hdelivered t ht <;> obtain rfl | rfl := hdelivered t' ht' <;> decide
  · intro t t' ht ht'
    obtain rfl | rfl := hdelivered t ht <;> obtain rfl | rfl := hdelivered t' ht' <;> decide
  · intro t ht g htype hsome
    rw [hguid t ht]
    rw [hcollected t ht] at hsome
    by_cases hrole : g = (2 : UInt64) <<< 56 ||| 1
    · rw [hrole] at htype
      exact absurd htype (by decide)
    · by_contra hne
      rw [Function.update_of_ne hrole, Function.update_of_ne hne] at hsome
      cases hsome
  · intro t ht _
    rw [hguid t ht, hcollected t ht]
    decide

theorem restored_twoPlatforms :
    ∃ m, restart plainCodec .id twoPlatforms = some m ∧ Restored plainCodec twoPlatforms m :=
  (restored_iff plainCodec_faithful finished_twoPlatforms).mpr survives_twoPlatforms .id

/-- **The second line is lost**, with the lines listed in the order in which they were made. -/
theorem second_line_lost :
    ¬ ∃ m, restart plainCodec .id twoLines = some m ∧ Restored plainCodec twoLines m := by
  intro h
  obtain ⟨m, hrestart, key, -, hkey⟩ := h
  have hlines : (restart plainCodec .id twoLines).all
      (fun m => m.infoMap.toList.all fun e => e.2.lineId = ['1']) = true := by decide +kernel
  have hdelivered : Delivered twoLines (playerOn ['a'] ['2'] 2) :=
    ⟨.collect (playerOn ['a'] ['2'] 2) (playerOn ['a'] ['2'] 2).playerGuid
      (0x08 :: guidVarint 1 (playerOn ['a'] ['2'] 2).playerGuid), by simp [twoLines, deliver],
      rfl, rfl⟩
  obtain ⟨x, hx, -, hline, -⟩ := hkey _ hdelivered
  rw [hrestart] at hlines
  have hone := List.all_eq_true.mp hlines _ (TreeMap.mem_toList_iff_getElem?_eq_some.mpr hx)
  rw [of_decide_eq_true hone] at hline
  exact absurd hline (by decide)

end Steppingstone.Cross
