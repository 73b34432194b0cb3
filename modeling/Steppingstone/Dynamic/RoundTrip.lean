/-
  Steppingstone.Dynamic.RoundTrip — what a message's SQL text stores, and what `load` gives back.

  The loop over the fields writes `name=value` after `name=value` with nothing between them.  The
  server reads one assignment: the first field's name, and an expression that compares what is left.
  So as soon as there is a second field the statement sets no guid, and nothing can be loaded.
-/
import Mathlib.Tactic.Positivity
import Mathlib.Tactic.Zify
import Steppingstone.Dynamic.Model

namespace Steppingstone.Dynamic

open SqlText

variable {Sub : Type}

/-! ## §1. The text. -/

/-- The text of a column is made of plain symbols. -/
theorem columnText_plain {C : Codec Sub} {m : Message Sub} {f : Field} {t : Text}
    (h : columnText C m f = some t) : ∀ s ∈ t, s.Plain := by
  have hquoted : ∀ bs : List UInt8, ∀ s ∈ [Sym.quoted bs], s.Plain := by
    intro bs s hs
    obtain rfl := List.mem_singleton.mp hs
    exact trivial
  have hnil : ∀ s ∈ ([] : Text), s.Plain := fun s hs => absurd hs List.not_mem_nil
  unfold columnText at h
  split at h
  · split at h
    · obtain rfl := Option.some.inj h
      exact hquoted _
    · split at h
      · split at h
        · obtain rfl := Option.some.inj h
          exact hquoted _
        · cases h
      · split at h
        · obtain rfl := Option.some.inj h
          exact hquoted _
        · obtain rfl := Option.some.inj h
          exact hnil
  · split at h
    · obtain rfl := Option.some.inj h
      exact hquoted _
    · split at h
      · obtain rfl := Option.some.inj h
        exact plain_number _
      · obtain rfl := Option.some.inj h
        exact hnil

/-- The equations, one after the other. -/
theorem setText_cons {C : Codec Sub} {m : Message Sub} {f : Field} {fs : List Field} {t : Text}
    (h : setText C m (f :: fs) = some t) :
    ∃ value rest, columnText C m f = some value ∧ setText C m fs = some rest ∧
      t = word f.name ++ equals :: (value ++ rest) := by
  obtain ⟨value, hvalue, h⟩ := Option.bind_eq_some_iff.mp h
  obtain ⟨rest, hrest, h⟩ := Option.map_eq_some_iff.mp h
  exact ⟨value, rest, hvalue, hrest, h.symm⟩

theorem plain_equals : equals.Plain := by
  show _ ∨ _ ∨ _ ∨ _
  exact Or.inr (Or.inr (Or.inr rfl))

theorem setText_plain {C : Codec Sub} {m : Message Sub} {fs : List Field}
    (hn : ∀ f ∈ fs, IsName (word f.name)) {t : Text} (h : setText C m fs = some t) :
    ∀ s ∈ t, s.Plain := by
  induction fs generalizing t with
  | nil =>
      obtain rfl := Option.some.inj h
      exact fun s hs => absurd hs List.not_mem_nil
  | cons f fs ih =>
      obtain ⟨value, rest, hvalue, hrest, rfl⟩ := setText_cons h
      intro s hs
      obtain hs | hs := List.mem_append.mp hs
      · exact (hn f List.mem_cons_self).plain s hs
      · obtain rfl | hs := List.mem_cons.mp hs
        · exact plain_equals
        · obtain hs | hs := List.mem_append.mp hs
          · exact columnText_plain hvalue s hs
          · exact ih (fun f hf => hn f (List.mem_cons_of_mem _ hf)) hrest s hs

/-- **One assignment.**  However many fields there are, the text is the first name, one `=` and an
    expression; with a second field that expression is an equation. -/
theorem setText_single {C : Codec Sub} {m : Message Sub} {f : Field} {fs : List Field}
    (hn : ∀ g ∈ f :: fs, IsName (word g.name)) {t : Text} (h : setText C m (f :: fs) = some t) :
    ∃ expr, t = word f.name ++ equals :: expr ∧ (∀ s ∈ expr, s.Plain) ∧
      (fs ≠ [] → equals ∈ expr) := by
  obtain ⟨value, rest, hvalue, hrest, rfl⟩ := setText_cons h
  have hfs : ∀ g ∈ fs, IsName (word g.name) := fun g hg => hn g (List.mem_cons_of_mem _ hg)
  refine ⟨value ++ rest, rfl, ?_, ?_⟩
  · intro s hs
    obtain hs | hs := List.mem_append.mp hs
    · exact columnText_plain hvalue s hs
    · exact setText_plain hfs hrest s hs
  · intro hne
    cases fs with
    | nil => exact absurd rfl hne
    | cons g fs =>
        obtain ⟨value', rest', _, _, rfl⟩ := setText_cons hrest
        simp

/-! ## §2. The query. -/

theorem columnList_later (fs : List Field) (hne : fs ≠ []) (col : Nat) (hcol : col ≠ 0) :
    columnList col fs = comma :: nameList (fs.map fun f => word f.name) := by
  induction fs generalizing col with
  | nil => exact absurd rfl hne
  | cons f fs ih =>
      have hsep : (if col + 1 ≠ 1 then [comma] else []) = [comma] := if_pos (by omega)
      show (if col + 1 ≠ 1 then [comma] else []) ++
        (word f.name ++ (word " " ++ columnList (col + 1) fs)) = _
      rw [hsep]
      by_cases hfs : fs = []
      · subst hfs
        rfl
      · have hfs' : fs.map (fun f => word f.name) ≠ [] := by simpa using hfs
        rw [ih hfs (col + 1) (by omega), List.map_cons, nameList_cons hfs']
        rfl

/-- The list of columns is the list of the names. -/
theorem columnList_eq (fs : List Field) :
    columnList 0 fs = nameList (fs.map fun f => word f.name) := by
  cases fs with
  | nil => rfl
  | cons f fs =>
      by_cases hfs : fs = []
      · subst hfs
        rfl
      · have hfs' : fs.map (fun f => word f.name) ≠ [] := by simpa using hfs
        show word f.name ++ (word " " ++ columnList 1 fs) = _
        rw [columnList_later fs hfs 1 (by decide), List.map_cons, nameList_cons hfs']
        rfl

/-- The rows of a table have a number for their guid, no two the same. -/
structure Keyed (table : Table) : Prop where
  number : ∀ row ∈ table, ∃ n : Int, row guidKey = .int n
  distinct : (table.map (· guidKey)).Nodup

/-- The schema of the message's own table. -/
theorem Descriptor.schema_self (d : Descriptor) :
    d.schema (word d.typeName) = d.fields.map fun f => ⟨word f.name, columnDefault f⟩ :=
  if_pos rfl

theorem Descriptor.fields_ne_nil (d : Descriptor) : d.fields ≠ [] := by
  intro h
  have := d.guid_mem
  rw [h] at this
  cases this

/-- The query finds the rows of the guid, with the columns in the order of the fields. -/
theorem select_loadText (E : Engine guidKey) (d : Descriptor) (db : Database) (g : UInt64)
    (hkey : ∀ row ∈ db (word d.typeName), ∃ n : Int, row guidKey = .int n) :
    select E d.schema db (loadText d g) =
      some (((db (word d.typeName)).filter fun row => row guidKey = .int g.toNat).map fun row =>
        d.fields.map fun f => row (word f.name)) := by
  have hcols : ∀ n ∈ d.fields.map (fun f => word f.name),
      n ∈ (d.schema (word d.typeName)).map (·.name) := by
    intro n hn
    rw [d.schema_self, List.map_map]
    exact hn
  have hnames : ∀ n ∈ d.fields.map (fun f => word f.name), IsName n ∧ n ≠ [] := by
    intro n hn
    obtain ⟨f, hf, rfl⟩ := List.mem_map.mp hn
    exact d.name_ok f hf
  have h := select_key E d.schema db hnames (by simpa using d.fields_ne_nil) d.typeName_ok hcols
    hkey g.toNat
  have hwhere : word " WHERE guid=" ++ number (g.toNat : Int) =
      word " WHERE " ++ (guidKey ++ equals :: number g.toNat) := rfl
  unfold loadText
  rw [columnList_eq, hwhere, h]
  simp only [List.map_map, Function.comp_def]

/-- Without a row of the guid there is nothing to load. -/
theorem load_none (E : Engine guidKey) (C : Codec Sub) (d : Descriptor) (db : Database) (g : UInt64)
    (hkey : ∀ row ∈ db (word d.typeName), ∃ n : Int, row guidKey = .int n ∧ n ≠ g.toNat)
    (m : Message Sub) : load E C d db g ≠ .ok m := by
  have hnone : (db (word d.typeName)).filter (fun row => row guidKey = .int g.toNat) = [] := by
    refine List.filter_eq_nil_iff.mpr fun row hrow => ?_
    obtain ⟨n, hn, hne⟩ := hkey row hrow
    simpa [hn] using hne
  have hsel := select_loadText E d db g fun row hrow => (hkey row hrow).imp fun n h => h.1
  rw [hnone] at hsel
  intro h
  unfold load at h
  rw [hsel] at h
  cases h

/-! ## §3. Two fields or more. -/

/-- A row that an `INSERT` does not give a guid has the guid 0. -/
theorem defaultRow_guid (d : Descriptor) :
    defaultRow (d.schema (word d.typeName)) guidKey = .int 0 := by
  obtain ⟨f, hf, hname⟩ := List.mem_map.mp d.guid_mem
  have hsome : ((d.schema (word d.typeName)).find? (·.name = guidKey)).isSome := by
    rw [d.schema_self, List.find?_isSome]
    exact ⟨_, List.mem_map.mpr ⟨f, hf, rfl⟩, by simpa using hname⟩
  obtain ⟨c, hc⟩ := Option.isSome_iff_exists.mp hsome
  have hmem : c ∈ d.fields.map fun f => (⟨word f.name, columnDefault f⟩ : Column) := by
    rw [← d.schema_self]
    exact List.mem_of_find?_eq_some hc
  have hguid : c.name = guidKey := by simpa using List.find?_some hc
  obtain ⟨f', hf', rfl⟩ := List.mem_map.mp hmem
  obtain ⟨hlabel, htype⟩ := d.guid_type f' hf' hguid
  have hdefault : columnDefault f' = some (.int 0) := by
    unfold columnDefault
    rw [htype]
    exact if_pos ⟨hlabel, Or.inl rfl⟩
  unfold defaultRow
  rw [hc]
  show (columnDefault f').getD .null = _
  rw [hdefault]
  rfl

/-- **No guid is stored.**  An `INSERT` of two fields or more is refused or adds a row whose guid is
    the outcome of a comparison or the default. -/
theorem insert_adds (E : Engine guidKey) (C : Codec Sub) (d : Descriptor) (m : Message Sub)
    (hlen : d.fields.length ≠ 1) (db db' : Database) (stmt : Text)
    (hs : insertText C d m = some stmt) (h : exec E d.schema db stmt = some db') :
    ∃ row : Row, db' = Function.update db (word d.typeName) (db (word d.typeName) ++ [row]) ∧
      (row guidKey = .int 0 ∨ row guidKey = .int 1) := by
  obtain ⟨t, ht, rfl⟩ := Option.map_eq_some_iff.mp hs
  cases hfields : d.fields with
  | nil => exact absurd hfields d.fields_ne_nil
  | cons f fs =>
      have hfs : fs ≠ [] := by
        intro he
        rw [hfields, he] at hlen
        exact hlen rfl
      have hnames : ∀ g ∈ f :: fs, IsName (word g.name) := by
        intro g hg
        rw [← hfields] at hg
        exact (d.name_ok g hg).1
      rw [hfields] at ht
      obtain ⟨expr, rfl, hplain, heq⟩ := setText_single hnames ht
      rw [exec_insert E d.schema db d.typeName_ok (hnames f List.mem_cons_self) hplain] at h
      obtain ⟨table', hrow, rfl⟩ := Option.map_eq_some_iff.mp h
      unfold insertRow at hrow
      split at hrow
      · split at hrow
        · rename_i row hassign
          split at hrow
          · cases hrow
          · rename_i hkey
            obtain rfl := Option.some.inj hrow
            obtain ⟨c, hc, rfl⟩ := assign_single E hassign
            refine ⟨_, rfl, ?_⟩
            -- the guid is what the comparison gave, or it was not assigned at all
            by_cases hname : guidKey = word f.name
            · rw [hname, Function.update_self] at hkey ⊢
              obtain h0 | h1 | hn := E.eval_equation expr _ c hplain (heq hfs) hc
              · exact Or.inl h0
              · exact Or.inr h1
              · exact absurd (Or.inl hn) hkey
            · rw [Function.update_of_ne hname]
              exact Or.inl (defaultRow_guid d)
        · cases hrow
      · cases hrow

/-! ## §4. The round trip. -/

/-- The message has a guid, and it is `g`. -/
def HasGuid (d : Descriptor) (m : Message Sub) (g : UInt64) : Prop :=
  ∀ f ∈ d.fields, word f.name = guidKey → m f = [.int g.toNat]

/-- After `stmt` the message can be loaded, and no other row has changed. -/
structure Restored (E : Engine guidKey) (C : Codec Sub) (d : Descriptor) (m : Message Sub)
    (g : UInt64) (db db' : Database) : Prop where
  loaded : ∃ m', load E C d db' g = .ok m' ∧ ∀ f ∈ d.fields, m' f = m f
  otherTables : ∀ t, t ≠ word d.typeName → db' t = db t
  otherRows : (db' (word d.typeName)).filter (fun row => row guidKey ≠ .int g.toNat) =
    (db (word d.typeName)).filter fun row => row guidKey ≠ .int g.toNat

/-- The statement that the text is does its work on `db`; an abort produces no text. -/
def Stores (E : Engine guidKey) (C : Codec Sub) (d : Descriptor) (m : Message Sub) (g : UInt64)
    (db : Database) (text : Option Text) : Prop :=
  ∃ stmt, text = some stmt ∧ Restored E C d m g db (run E d.schema db stmt)

/-- `insert` without the row, and `update` with it, on any database. -/
structure RoundTrips (E : Engine guidKey) (C : Codec Sub) (d : Descriptor) (m : Message Sub)
    (g : UInt64) : Prop where
  insert : ∀ db : Database, Keyed (db (word d.typeName)) →
    (∀ row ∈ db (word d.typeName), row guidKey ≠ .int g.toNat) →
    Stores E C d m g db (insertText C d m)
  update : ∀ db : Database, Keyed (db (word d.typeName)) →
    (∃ row ∈ db (word d.typeName), row guidKey = .int g.toNat) →
    Stores E C d m g db (updateText C d m)

/-- With a second field the insert fails already on an empty database. -/
theorem not_roundTrips (E : Engine guidKey) (C : Codec Sub) (d : Descriptor) (m : Message Sub)
    (g : UInt64) (hg : 1 < g) (hlen : d.fields.length ≠ 1) : ¬ RoundTrips E C d m g := by
  intro h
  obtain ⟨stmt, hs, hr⟩ := h.insert (fun _ => [])
    ⟨fun row hrow => absurd hrow List.not_mem_nil, List.nodup_nil⟩
    (fun row hrow => absurd hrow List.not_mem_nil)
  obtain ⟨m', hload, _⟩ := hr.loaded
  have hg' : 1 < g.toNat := hg
  unfold run at hload
  cases hexec : exec E d.schema (fun _ => []) stmt with
  | none =>
      rw [hexec] at hload
      exact load_none E C d _ g (fun row hrow => absurd hrow List.not_mem_nil) m' hload
  | some db' =>
      rw [hexec] at hload
      obtain ⟨row, rfl, hrow⟩ := insert_adds E C d m hlen _ db' stmt hs hexec
      refine load_none E C d _ g ?_ m' hload
      intro row' hrow'
      simp only [Option.getD_some, Function.update_self, List.nil_append,
        List.mem_singleton] at hrow'
      subst hrow'
      obtain h0 | h1 := hrow
      · exact ⟨0, h0, by omega⟩
      · exact ⟨1, h1, by omega⟩

/-! ### The guid alone. -/

section GuidAlone

variable {E : Engine guidKey} {C : Codec Sub} {d : Descriptor} {m : Message Sub} {g : UInt64}
  {f : Field}

theorem name_of_alone (hf : d.fields = [f]) : word f.name = guidKey := by
  have := d.guid_mem
  rw [hf] at this
  exact (List.mem_singleton.mp this).symm

/-- With one field there is one equation. -/
theorem setText_alone (hf : d.fields = [f]) (hm : HasGuid d m g) :
    setText C m d.fields = some (guidKey ++ equals :: number g.toNat) := by
  have hmem : f ∈ d.fields := by rw [hf]; exact List.mem_singleton.mpr rfl
  obtain ⟨hlabel, htype⟩ := d.guid_type f hmem (name_of_alone hf)
  have hvalue : getInt m f = g.toNat := by
    unfold getInt
    rw [hm f hmem (name_of_alone hf)]
    rfl
  have hcol : columnText C m f = some (number g.toNat) := by
    unfold columnText
    rw [htype, hvalue]
    simp [hlabel, FieldType.isString, FieldType.width?]
  rw [hf]
  show (columnText C m f).bind _ = _
  rw [hcol]
  show some (word f.name ++ equals :: (number g.toNat ++ [])) = _
  rw [name_of_alone hf, List.append_nil]

/-- A row of the guid gives the message back. -/
theorem load_alone (hf : d.fields = [f]) (hm : HasGuid d m g) {db : Database}
    (hkey : ∀ row ∈ db (word d.typeName), ∃ n : Int, row guidKey = .int n)
    (hrow : ∃ row ∈ db (word d.typeName), row guidKey = .int g.toNat) :
    ∃ m', load E C d db g = .ok m' ∧ ∀ f ∈ d.fields, m' f = m f := by
  have hmem : f ∈ d.fields := by rw [hf]; exact List.mem_singleton.mpr rfl
  have hsel := select_loadText E d db g hkey
  cases hfilter : (db (word d.typeName)).filter fun row => row guidKey = .int g.toNat with
  | nil =>
      obtain ⟨row, hin, hguid⟩ := hrow
      have := List.filter_eq_nil_iff.mp hfilter row hin
      exact absurd hguid (by simpa using this)
  | cons row rows =>
      have hguid : row guidKey = .int g.toNat := by
        have : row ∈ (db (word d.typeName)).filter fun row => row guidKey = .int g.toNat := by
          rw [hfilter]
          exact List.mem_cons_self
        simpa using (List.mem_filter.mp this).2
      obtain ⟨hlabel, htype⟩ := d.guid_type f hmem (name_of_alone hf)
      have hcol : loadColumn C f (row (word f.name)) = .ok [.int g.toNat] := by
        rw [name_of_alone hf, hguid]
        unfold loadColumn
        rw [htype]
        simp [hlabel, FieldType.isString, FieldType.width?]
      refine ⟨Function.update (fun _ => []) f [.int g.toNat], ?_, ?_⟩
      · unfold load
        rw [hsel, hfilter, hf]
        show loadFields C [f] [row (word f.name)] (fun _ => []) = _
        unfold loadFields
        rw [hcol]
        rfl
      · intro f' hf'
        rw [hf] at hf'
        obtain rfl := List.mem_singleton.mp hf'
        rw [Function.update_self, hm f' hmem (name_of_alone hf)]

theorem columns_alone (hf : d.fields = [f]) :
    d.schema (word d.typeName) = [⟨guidKey, some (.int 0)⟩] := by
  have hmem : f ∈ d.fields := by rw [hf]; exact List.mem_singleton.mpr rfl
  obtain ⟨hlabel, htype⟩ := d.guid_type f hmem (name_of_alone hf)
  have hdefault : columnDefault f = some (.int 0) := by
    unfold columnDefault
    rw [htype]
    exact if_pos ⟨hlabel, Or.inl rfl⟩
  rw [d.schema_self, hf]
  show [(⟨word f.name, columnDefault f⟩ : Column)] = _
  rw [name_of_alone hf, hdefault]

/-- The assignment gives the row its guid. -/
theorem assign_alone (hf : d.fields = [f]) (row : Row) :
    assign E (d.schema (word d.typeName)) [(guidKey, number g.toNat)] row =
      some (Function.update row guidKey (.int g.toNat)) := by
  rw [columns_alone hf]
  unfold assign
  rw [E.eval_number]
  simp [assign]

theorem isName_guidKey : IsName guidKey := by
  intro s hs
  simp only [guidKey, word, List.mem_map] at hs
  obtain ⟨c, hc, rfl⟩ := hs
  refine ⟨c, rfl, Or.inl ?_⟩
  have hall : "guid".toList.all Char.isAlphanum := by decide
  exact List.all_eq_true.mp hall c hc

/-- The insert adds the row of the guid. -/
theorem insert_alone (hf : d.fields = [f]) (hm : HasGuid d m g) {db : Database}
    (habsent : ∀ row ∈ db (word d.typeName), row guidKey ≠ .int g.toNat) :
    ∃ stmt row, insertText C d m = some stmt ∧ row guidKey = .int g.toNat ∧
      run E d.schema db stmt =
        Function.update db (word d.typeName) (db (word d.typeName) ++ [row]) := by
  refine ⟨word "INSERT INTO " ++ (word d.typeName ++ (word " SET " ++
      (guidKey ++ equals :: number g.toNat))),
    Function.update (defaultRow (d.schema (word d.typeName))) guidKey (.int g.toNat), ?_,
    Function.update_self .., ?_⟩
  · unfold insertText
    rw [setText_alone hf hm]
    rfl
  · have hkey : ¬ (Cell.int g.toNat = .null ∨
        Cell.int g.toNat ∈ (db (word d.typeName)).map (· guidKey)) := by
      intro h
      obtain h | h := h
      · cases h
      · obtain ⟨row, hrow, he⟩ := List.mem_map.mp h
        exact habsent row hrow he
    have hdefaults : ∀ c ∈ d.schema (word d.typeName), c.default = none →
        c.name ∈ [(guidKey, number (g.toNat : Int))].map Prod.fst := by
      rw [columns_alone hf]
      intro c hc hnone
      obtain rfl := List.mem_singleton.mp hc
      cases hnone
    have hinsert : insertRow E (d.schema (word d.typeName)) (db (word d.typeName))
        [(guidKey, number g.toNat)] = some (db (word d.typeName) ++
          [Function.update (defaultRow (d.schema (word d.typeName))) guidKey (.int g.toNat)]) := by
      unfold insertRow
      rw [if_pos hdefaults, assign_alone hf]
      simp only [Function.update_self, if_neg hkey]
    unfold run
    rw [exec_insert E d.schema db d.typeName_ok isName_guidKey (plain_number _), hinsert]
    rfl

/-- The update has no condition: it is refused where there is a second row, and otherwise leaves
    the row of the guid as it is. -/
theorem update_alone (hf : d.fields = [f]) (hm : HasGuid d m g) {db : Database}
    (hrow : ∃ row ∈ db (word d.typeName), row guidKey = .int g.toNat) :
    ∃ stmt, updateText C d m = some stmt ∧ run E d.schema db stmt = db := by
  refine ⟨word "UPDATE " ++ (word d.typeName ++ (word " SET " ++
      (guidKey ++ equals :: number g.toNat))), ?_, ?_⟩
  · unfold updateText
    rw [setText_alone hf hm]
    rfl
  · have hmap : ∀ table : Table, (table.mapM fun row => (matchesRow E none row).bind fun hit =>
          if hit then assign E (d.schema (word d.typeName)) [(guidKey, number g.toNat)] row
          else some row) =
        some (table.map fun row => Function.update row guidKey (.int g.toNat)) := by
      intro table
      induction table with
      | nil => rfl
      | cons row table ih =>
          rw [List.mapM_cons, ih]
          show (assign E _ _ row).bind _ = _
          rw [assign_alone hf]
          rfl
    have hsame : ∀ table', updateRows E (d.schema (word d.typeName)) (db (word d.typeName))
        [(guidKey, number g.toNat)] none = some table' → table' = db (word d.typeName) := by
      intro table' h
      unfold updateRows at h
      rw [hmap] at h
      replace h : (if _ then some _ else none) = some table' := h
      split at h
      · rename_i hkeys
        obtain rfl := Option.some.inj h
        obtain ⟨row, hin, hguid⟩ := hrow
        -- all keys are the guid, so distinct keys leave room for one row
        match htable : db (word d.typeName), hin, hkeys.1 with
        | [row'], hin, _ =>
            obtain rfl := List.mem_singleton.mp hin
            show [Function.update row guidKey (.int g.toNat)] = [row]
            rw [← hguid, Function.update_eq_self]
        | row' :: row'' :: rest, _, hnodup =>
            simp at hnodup
      · cases h
    unfold run
    rw [exec_update E d.schema db d.typeName_ok isName_guidKey (plain_number _)]
    cases hupd : updateRows E (d.schema (word d.typeName)) (db (word d.typeName))
        [(guidKey, number g.toNat)] none with
    | none => rfl
    | some table' =>
        obtain rfl := hsame table' hupd
        show Function.update db (word d.typeName) (db (word d.typeName)) = db
        exact Function.update_eq_self _ _

/-- **A message of one field** comes back. -/
theorem roundTrips_alone (hf : d.fields = [f]) (hm : HasGuid d m g) : RoundTrips E C d m g where
  insert db hkeyed habsent := by
    obtain ⟨stmt, row, hs, hrow, hrun⟩ := insert_alone (E := E) (C := C) hf hm habsent
    refine ⟨stmt, hs, ?_⟩
    rw [hrun]
    refine ⟨load_alone hf hm ?_ ?_, fun t ht => Function.update_of_ne ht _ _, ?_⟩
    · intro row' hrow'
      rw [Function.update_self] at hrow'
      obtain h | h := List.mem_append.mp hrow'
      · exact hkeyed.number row' h
      · exact ⟨_, List.mem_singleton.mp h ▸ hrow⟩
    · rw [Function.update_self]
      exact ⟨row, List.mem_append_right _ List.mem_cons_self, hrow⟩
    · rw [Function.update_self, List.filter_append]
      simp [hrow]
  update db hkeyed hrow := by
    obtain ⟨stmt, hs, hrun⟩ := update_alone (E := E) (C := C) hf hm hrow
    refine ⟨stmt, hs, ?_⟩
    rw [hrun]
    exact ⟨load_alone hf hm hkeyed.number hrow, fun _ _ => rfl, rfl⟩

end GuidAlone

/-- **What is stored and loaded again.**  A message comes back from every database exactly when its
    guid is its only field. -/
theorem roundTrips_iff (E : Engine guidKey) (C : Codec Sub) (d : Descriptor) (m : Message Sub)
    (g : UInt64) (hm : HasGuid d m g) (hg : 1 < g) :
    RoundTrips E C d m g ↔ d.fields.length = 1 := by
  constructor
  · intro h
    by_contra hlen
    exact not_roundTrips E C d m g hg hlen h
  · intro hlen
    obtain ⟨f, hf⟩ := List.length_eq_one_iff.mp hlen
    exact roundTrips_alone hf hm

/-! ## §5. An item with a count. -/

/-- The key column. -/
def guidField : Field := ⟨"guid", .required, .uint64⟩

theorem isName_of_all {s : String} (h : s.toList.all fun c => c.isAlphanum || c == '_') :
    IsName (word s) := by
  intro x hx
  obtain ⟨c, hc, rfl⟩ := List.mem_map.mp hx
  exact ⟨c, rfl, by simpa using List.all_eq_true.mp h c hc⟩

/-- The type of the guid alone. -/
def guidOnly : Descriptor where
  typeName := "Mark"
  fields := [guidField]
  typeName_ok := by decide
  name_ok f hf := by
    obtain rfl := List.mem_singleton.mp hf
    exact ⟨isName_of_all (by decide), by decide⟩
  distinct := by decide
  guid_mem := by decide
  guid_type := by decide

/-- A message type of a guid and a count. -/
def itemType : Descriptor where
  typeName := "Item"
  fields := [guidField, ⟨"count", .optional, .uint32⟩]
  typeName_ok := by decide
  name_ok f hf := by
    obtain rfl | hf := List.mem_cons.mp hf
    · exact ⟨isName_of_all (by decide), by decide⟩
    · obtain rfl := List.mem_singleton.mp hf
      exact ⟨isName_of_all (by decide), by decide⟩
  distinct := by decide
  guid_mem := by decide
  guid_type := by decide

/-- Nested messages are not used. -/
def noCodec : Codec Unit := ⟨fun _ => [], fun _ => ()⟩

/-- Seven pieces of item 1000. -/
def item : Message Unit := fun f => if f = guidField then [.int 1000] else [.int 7]

theorem roundTrips_iff_mark :
    RoundTrips (literalEngine guidKey (by decide)) noCodec guidOnly item 1000 ↔
      guidOnly.fields.length = 1 :=
  roundTrips_iff _ noCodec guidOnly item 1000
    (fun f hf _ => by obtain rfl := List.mem_singleton.mp hf; rfl) (by decide)

/-- Two fields run together: no server stores the item. -/
theorem item_not_stored :
    insertText noCodec itemType item = some (word "INSERT INTO Item SET guid=1000count=7") ∧
      updateText noCodec itemType item = some (word "UPDATE Item SET guid=1000count=7") ∧
      HasGuid itemType item 1000 ∧ ∀ E : Engine guidKey, ¬ RoundTrips E noCodec itemType item 1000 := by
  refine ⟨by decide, by decide, ?_, ?_⟩
  · intro f hf hname
    obtain rfl | hf := List.mem_cons.mp hf
    · rfl
    · obtain rfl := List.mem_singleton.mp hf
      exact absurd hname (by decide)
  · intro E
    exact not_roundTrips E noCodec itemType item 1000 (by decide) (by decide)

/-! ## §6. Repeated fields. -/

/-- The values of a number type. -/
def InRange (width : Nat) (signed : Bool) (v : Int) : Prop :=
  if signed then -(256 ^ width : Int) ≤ 2 * v ∧ 2 * v < 256 ^ width else 0 ≤ v ∧ v < 256 ^ width

/-- A number is read back from its bytes. -/
theorem toNumber_ofBytes {width : Nat} {signed : Bool} {v : Int} (h : InRange width signed v) :
    toNumber width signed
      (LittleEndian.ofBytes (LittleEndian.toBytes width (v % 256 ^ width).toNat)) = v := by
  have hpos : (0 : Int) < 256 ^ width := by positivity
  have hlo := Int.emod_nonneg v (ne_of_gt hpos)
  have hhi := Int.emod_lt_of_pos v hpos
  have hlt : (v % 256 ^ width).toNat < 256 ^ width := by
    zify
    rw [Int.toNat_of_nonneg hlo]
    exact hhi
  rw [LittleEndian.ofBytes_toBytes_of_lt hlt]
  have hcast : ((v % 256 ^ width).toNat : Int) = v % 256 ^ width := Int.toNat_of_nonneg hlo
  have hge : 2 * (v % 256 ^ width).toNat ≥ 256 ^ width ↔ 2 * (v % 256 ^ width) ≥ 256 ^ width := by
    zify
    rw [hcast]
  unfold toNumber InRange at *
  rw [hcast]
  -- the remainder is the value itself, or the value one turn up
  by_cases hv : 0 ≤ v
  · have hvlt : v < 256 ^ width := by
      cases signed
      · exact h.2
      · have := h.2; omega
    have hmod : v % 256 ^ width = v := Int.emod_eq_of_lt hv hvlt
    rw [hmod] at hge ⊢
    rw [if_neg]
    intro hc
    rw [hge] at hc
    obtain ⟨hs, hc⟩ := hc
    subst hs
    have := h.2
    omega
  · cases signed
    · exact absurd h.1 hv
    · have hmod : v % 256 ^ width = v + 256 ^ width := by
        rw [← Int.add_emod_right]
        exact Int.emod_eq_of_lt (by have := h.1; omega) (by omega)
      rw [hmod] at hge ⊢
      have := h.1
      rw [if_pos ⟨rfl, hge.mpr (by omega)⟩]
      omega

/-- So are numbers in a row. -/
theorem readNumbers_writeNumbers {width : Nat} {signed : Bool} {vs : List Int}
    (h : ∀ v ∈ vs, InRange width signed v) :
    readNumbers width signed vs.length
      (vs.flatMap fun v => LittleEndian.toBytes width (v % 256 ^ width).toNat) = vs := by
  induction vs with
  | nil => rfl
  | cons v vs ih =>
      rw [List.flatMap_cons, List.length_cons]
      unfold readNumbers
      rw [List.take_left' (LittleEndian.length_toBytes _ _),
        List.drop_left' (LittleEndian.length_toBytes _ _),
        toNumber_ofBytes (h v List.mem_cons_self),
        ih fun v hv => h v (List.mem_cons_of_mem _ hv)]

theorem readUint32_write {n : Nat} (h : n < 256 ^ 4) (rest : List UInt8) :
    readUint32 (uint32Bytes n ++ rest) = n := by
  unfold readUint32 uint32Bytes
  rw [List.take_left' (LittleEndian.length_toBytes _ _), LittleEndian.ofBytes_toBytes_of_lt h]

theorem drop_uint32 (n : Nat) (rest : List UInt8) : (uint32Bytes n ++ rest).drop 4 = rest :=
  List.drop_left' (LittleEndian.length_toBytes _ _)

/-- Repeated numbers come back from their column. -/
theorem numbers_survive (C : Codec Sub) (m : Message Sub) {f : Field} (hl : f.label = .repeated)
    {width : Nat} (hw : f.type.width? = some width) (vs : List Int) (hm : m f = vs.map .int)
    (hrange : ∀ v ∈ vs, InRange width f.type.signed v) (hlen : vs.length < 256 ^ 4) :
    ∃ bytes, columnText C m f = some [.quoted bytes] ∧
      loadColumn C f (.bytes bytes) = .ok (m f) := by
  have hstr : ¬ f.type.isString := by
    intro h
    obtain h | h := h <;> rw [h] at hw <;> cases hw
  have hmsg : f.type ≠ .message := by
    intro h
    rw [h] at hw
    cases hw
  refine ⟨writeNumbers width vs, ?_, ?_⟩
  · unfold columnText
    rw [if_pos (Or.inl hl), if_neg hstr, if_neg hmsg, hw, hm, List.map_map]
    show some [Sym.quoted (writeNumbers width (vs.map id))] = _
    rw [List.map_id]
  · unfold loadColumn
    simp only [if_pos (Or.inl hl), if_neg hstr, if_neg hmsg, hw, hm]
    show Except.ok _ = _
    unfold cellBytes writeNumbers
    simp only
    rw [readUint32_write hlen, drop_uint32, readNumbers_writeNumbers hrange]

/-- Repeated strings do not: each one comes back as the whole column. -/
theorem strings_survive_iff (C : Codec Sub) (m : Message Sub) {f : Field} (hl : f.label = .repeated)
    (hs : f.type.isString) (vs : List (List UInt8)) (hm : m f = vs.map .data)
    (hlen : vs.length < 256 ^ 4) :
    ∃ bytes, columnText C m f = some [.quoted bytes] ∧
      (loadColumn C f (.bytes bytes) = .ok (m f) ↔ vs = []) := by
  refine ⟨writeStrings vs, ?_, ?_⟩
  · unfold columnText
    rw [if_pos (Or.inl hl), if_pos hs, hm, List.map_map]
    show some [Sym.quoted (writeStrings (vs.map id))] = _
    rw [List.map_id]
  · unfold loadColumn
    simp only [if_pos (Or.inl hl), if_pos hs, hm]
    have hnum : readUint32 (cellBytes (.bytes (writeStrings vs))) = vs.length :=
      readUint32_write hlen _
    rw [hnum]
    constructor
    · intro h
      cases vs with
      | nil => rfl
      | cons v vs =>
          have hhead := (List.cons.inj (Except.ok.inj h)).1
          have hbytes : writeStrings (v :: vs) = v := by injection hhead
          have hlong := congrArg List.length hbytes
          simp [writeStrings, uint32Bytes] at hlong
          omega
    · intro h
      subst h
      rfl

end Steppingstone.Dynamic
