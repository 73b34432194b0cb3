/-
  Steppingstone.Lib.SqlText — SQL statements as text, and a server that runs them.

  A statement is a list of symbols: characters, and quoted literals as one symbol each (quoting is
  taken to work).  The server cuts a statement at its keywords, its assignments at the commas and
  each assignment at its first `=`; what an expression is worth is left to the `Engine`, of which
  only what every SQL manual says of it is assumed.
-/
import Mathlib.Data.List.Basic
import Mathlib.Logic.Function.Basic

namespace SqlText

/-! ## §1. Text. -/

/-- A symbol of a statement. -/
inductive Sym
  | chr (c : Char)
  | quoted (bytes : List UInt8)
  deriving DecidableEq

/-- A statement, or a part of one. -/
abbrev Text := List Sym

/-- The symbols of a plain string. -/
def word (s : String) : Text := s.toList.map .chr

/-- A number in decimal. -/
def number : Int → Text
  | .ofNat n => (Nat.toDigits 10 n).map .chr
  | .negSucc n => .chr '-' :: (Nat.toDigits 10 (n + 1)).map .chr

/-- `,` -/
def comma : Sym := .chr ','

/-- A blank. -/
def blank : Sym := .chr ' '

/-- `=` -/
def equals : Sym := .chr '='

/-- The symbols that names, numbers, quoted literals and equations are made of. -/
def Sym.Plain : Sym → Prop
  | .chr c => c.isAlphanum ∨ c = '_' ∨ c = '-' ∨ c = '='
  | .quoted _ => True

/-- A name: letters, digits and underscores. -/
def IsName (t : Text) : Prop := ∀ s ∈ t, ∃ c : Char, s = .chr c ∧ (c.isAlphanum ∨ c = '_')

/-- A name is made of plain symbols. -/
theorem IsName.plain {t : Text} (h : IsName t) : ∀ s ∈ t, s.Plain := by
  intro s hs
  obtain ⟨c, rfl, hc⟩ := h s hs
  show c.isAlphanum ∨ c = '_' ∨ c = '-' ∨ c = '='
  exact hc.elim Or.inl fun h => Or.inr (Or.inl h)

theorem IsName.not_mem {t : Text} (h : IsName t) {c : Char} (hc : c.isAlphanum = false)
    (hu : c ≠ '_') : Sym.chr c ∉ t := by
  intro hm
  obtain ⟨c', he, hc'⟩ := h _ hm
  obtain rfl : c = c' := by injection he
  obtain h' | h' := hc'
  · rw [hc] at h'; cases h'
  · exact hu h'

theorem plain_digit {c : Char} (h : c.isDigit) : (Sym.chr c).Plain := by
  show c.isAlphanum ∨ c = '_' ∨ c = '-' ∨ c = '='
  left
  simp [Char.isAlphanum, h]

/-- So is a number. -/
theorem plain_number (n : Int) : ∀ s ∈ number n, s.Plain := by
  intro s hs
  cases n with
  | ofNat n =>
      obtain ⟨c, hc, rfl⟩ := List.mem_map.mp hs
      exact plain_digit (Nat.isDigit_of_mem_toDigits (by decide) (by decide) hc)
  | negSucc n =>
      obtain rfl | hs := List.mem_cons.mp hs
      · show _ ∨ _ ∨ _ ∨ _
        exact Or.inr (Or.inr (Or.inl rfl))
      · obtain ⟨c, hc, rfl⟩ := List.mem_map.mp hs
        exact plain_digit (Nat.isDigit_of_mem_toDigits (by decide) (by decide) hc)

/-- Neither a comma nor a blank is plain. -/
theorem not_mem_of_plain {t : Text} (h : ∀ s ∈ t, s.Plain) {s : Sym} (hs : ¬ s.Plain) : s ∉ t :=
  fun hm => hs (h s hm)

theorem not_plain_comma : ¬ comma.Plain := by
  show ¬ (_ ∨ _ ∨ _ ∨ _)
  decide

theorem not_plain_blank : ¬ blank.Plain := by
  show ¬ (_ ∨ _ ∨ _ ∨ _)
  decide

/-! ## §2. Cutting a text. -/

section Cutting

variable {α : Type} [DecidableEq α]

/-- What stands before and after the first occurrence of `sep`. -/
def cut (sep : List α) : List α → Option (List α × List α)
  | [] => if sep = [] then some ([], []) else none
  | x :: xs =>
      if sep <+: x :: xs then some ([], (x :: xs).drop sep.length)
      else (cut sep xs).map fun p => (x :: p.1, p.2)

/-- What follows `head` in a text that starts with it. -/
def after (head xs : List α) : Option (List α) :=
  if head <+: xs then some (xs.drop head.length) else none

@[simp] theorem after_append (head xs : List α) : after head (head ++ xs) = some xs := by
  have h : head <+: head ++ xs := ⟨xs, rfl⟩
  simp [after, h]

/-- The separator stands at the front. -/
theorem cut_front (c : α) (cs ys : List α) : cut (c :: cs) (c :: cs ++ ys) = some ([], ys) := by
  show cut (c :: cs) (c :: (cs ++ ys)) = _
  have h : c :: cs <+: c :: (cs ++ ys) := ⟨ys, rfl⟩
  unfold cut
  rw [if_pos h]
  simp

/-- A symbol at which the separator does not start is stepped over. -/
theorem cut_step {sep : List α} {x : α} {xs : List α} (h : ¬ sep <+: (x :: xs)) :
    cut sep (x :: xs) = (cut sep xs).map fun p => (x :: p.1, p.2) := by
  show (if sep <+: x :: xs then _ else _) = _
  rw [if_neg h]

/-- A text without the separator's first symbol is stepped over as a whole. -/
theorem cut_skip {c : α} (cs : List α) {xs : List α} (h : c ∉ xs) (ys : List α) :
    cut (c :: cs) (xs ++ ys) = (cut (c :: cs) ys).map fun p => (xs ++ p.1, p.2) := by
  induction xs with
  | nil => simp
  | cons x xs ih =>
      have hx : x ≠ c := fun e => h (e ▸ List.mem_cons_self)
      have hxs : c ∉ xs := fun hm => h (List.mem_cons_of_mem _ hm)
      have hne : ¬ (c :: cs) <+: (x :: (xs ++ ys)) := fun hp =>
        hx (List.cons.inj hp.choose_spec).1.symm
      show cut (c :: cs) (x :: (xs ++ ys)) = _
      rw [cut_step hne, ih hxs, Option.map_map]
      rfl

/-- Cutting at a separator gives back what was put before and after it. -/
theorem cut_append {c : α} (cs : List α) {xs : List α} (h : c ∉ xs) (ys : List α) :
    cut (c :: cs) (xs ++ (c :: cs ++ ys)) = some (xs, ys) := by
  rw [cut_skip cs h, cut_front]
  simp

/-- Without a separator nothing is cut. -/
theorem cut_none {c : α} (cs : List α) {xs : List α} (h : c ∉ xs) : cut (c :: cs) xs = none := by
  have hc : cut (c :: cs) ([] : List α) = none := by simp [cut]
  rw [← List.append_nil xs, cut_skip cs h, hc]
  rfl

end Cutting

/-- A text without the blanks around it. -/
def trim (t : Text) : Text :=
  ((t.dropWhile (· = blank)).reverse.dropWhile (· = blank)).reverse

theorem trim_of_not_mem {t : Text} (h : blank ∉ t) : trim t = t := by
  have hd : ∀ l : Text, blank ∉ l → l.dropWhile (· = blank) = l := by
    intro l hl
    cases l with
    | nil => rfl
    | cons s l =>
        have hs : s ≠ blank := fun e => hl (e ▸ List.mem_cons_self)
        simp [List.dropWhile, hs]
  unfold trim
  rw [hd t h, hd t.reverse (by simpa using h), List.reverse_reverse]

/-- A blank at the end is trimmed. -/
theorem trim_blank {t : Text} (h : blank ∉ t) (ht : t ≠ []) : trim (t ++ [blank]) = t := by
  have hd : (t ++ [blank]).dropWhile (· = blank) = t ++ [blank] := by
    cases t with
    | nil => exact absurd rfl ht
    | cons s l =>
        have hs : s ≠ blank := fun e => h (e ▸ List.mem_cons_self)
        simp [hs]
  unfold trim
  rw [hd, List.reverse_append]
  show ((blank :: t.reverse).dropWhile (· = blank)).reverse = t
  have hr : blank ∉ t.reverse := by simpa using h
  have : (blank :: t.reverse).dropWhile (· = blank) = t.reverse.dropWhile (· = blank) := by
    simp
  rw [this]
  cases hrev : t.reverse with
  | nil => simp_all
  | cons s l =>
      have hs : s ≠ blank := fun e => hr (by rw [hrev, e]; exact List.mem_cons_self)
      have : (s :: l).dropWhile (· = blank) = s :: l := by simp [List.dropWhile, hs]
      rw [this, ← hrev, List.reverse_reverse]

/-! ## §3. The server. -/

/-- What a column holds. -/
inductive Cell
  | null
  | int (n : Int)
  | bytes (bs : List UInt8)
  deriving DecidableEq

/-- The cells of a row, by column. -/
abbrev Row := Text → Cell

/-- The rows of a table. -/
abbrev Table := List Row

/-- The tables, by name. -/
abbrev Database := Text → Table

/-- A column of a table; without a default it has to be given a value. -/
structure Column where
  name : Text
  default : Option Cell

/-- A comparison yields 1 or 0. -/
def truth (p : Prop) [Decidable p] : Cell := .int (if p then 1 else 0)

/-- What an expression is worth in a row, or `none` where the server refuses it.  A number and a
    quoted literal are worth themselves; an expression that holds a `=` compares, and gives 0, 1 or
    NULL; and a number column compares with a number by value. -/
structure Engine (key : Text) where
  eval : Text → Row → Option Cell
  eval_number : ∀ (n : Int) (row : Row), eval (number n) row = some (.int n)
  eval_quoted : ∀ (bs : List UInt8) (row : Row), eval [.quoted bs] row = some (.bytes bs)
  eval_equation : ∀ (t : Text) (row : Row) (c : Cell), (∀ s ∈ t, s.Plain) → equals ∈ t →
    eval t row = some c → c = .int 0 ∨ c = .int 1 ∨ c = .null
  eval_column : ∀ (n m : Int) (row : Row), row key = .int m →
    eval (key ++ equals :: number n) row = some (truth (m = n))

/-- `column=expression, column=expression, …` -/
def assignments (t : Text) : Option (List (Text × Text)) :=
  (t.splitOn comma).mapM fun part =>
    (cut [equals] part).map fun p => (trim p.1, trim p.2)

section Server

variable {key : Text} (E : Engine key)

/-- The values of an assignment list, left to right; a column of another table is refused. -/
def assign (columns : List Column) : List (Text × Text) → Row → Option Row
  | [], row => some row
  | (name, expr) :: rest, row =>
      if columns.any (·.name = name) then
        match E.eval expr row with
        | some c => assign columns rest (Function.update row name c)
        | none => none
      else none

/-- The row before an `INSERT` assigns to it. -/
def defaultRow (columns : List Column) : Row := fun name =>
  match columns.find? (·.name = name) with
  | some c => c.default.getD .null
  | none => .null

/-- `INSERT INTO … SET assigns`: the other columns get their defaults. -/
def insertRow (columns : List Column) (table : Table) (assigns : List (Text × Text)) :
    Option Table :=
  if ∀ c ∈ columns, c.default = none → c.name ∈ assigns.map Prod.fst then
    match assign E columns assigns (defaultRow columns) with
    | some row =>
        if row key = .null ∨ row key ∈ table.map (· key) then none else some (table ++ [row])
    | none => none
  else none

/-- Does the `WHERE` condition, if there is one, hold of the row? -/
def matchesRow (cond : Option Text) (row : Row) : Option Bool :=
  match cond with
  | none => some true
  | some t => (E.eval t row).map fun c => decide (c ≠ .null ∧ c ≠ .int 0)

/-- `UPDATE … SET assigns [WHERE cond]`, refused as a whole when two rows would share their key. -/
def updateRows (columns : List Column) (table : Table) (assigns : List (Text × Text))
    (cond : Option Text) : Option Table :=
  match table.mapM fun row => (matchesRow E cond row).bind fun hit =>
      if hit then assign E columns assigns row else some row with
  | some table' =>
      if (table'.map (· key)).Nodup ∧ .null ∉ table'.map (· key) then some table' else none
  | none => none

/-- Runs a writing statement. -/
def exec (schema : Text → List Column) (db : Database) (stmt : Text) : Option Database :=
  match after (word "INSERT INTO ") stmt with
  | some body =>
      (cut (word " SET ") body).bind fun p =>
        (assignments p.2).bind fun assigns =>
          (insertRow E (schema p.1) (db p.1) assigns).map (Function.update db p.1)
  | none =>
      (after (word "UPDATE ") stmt).bind fun body =>
        (cut (word " SET ") body).bind fun p =>
          let q : Text × Option Text := match cut (word " WHERE ") p.2 with
            | some q => (q.1, some q.2)
            | none => (p.2, none)
          (assignments q.1).bind fun assigns =>
            (updateRows E (schema p.1) (db p.1) assigns q.2).map (Function.update db p.1)

/-- The database after a statement; a refused one changes nothing. -/
def run (schema : Text → List Column) (db : Database) (stmt : Text) : Database :=
  (exec E schema db stmt).getD db

/-- `SELECT name, name, … FROM table WHERE cond` -/
def select (schema : Text → List Column) (db : Database) (stmt : Text) :
    Option (List (List Cell)) :=
  (after (word "SELECT ") stmt).bind fun body =>
    (cut (word " FROM ") body).bind fun p =>
      (cut (word " WHERE ") p.2).bind fun q =>
        let names := (p.1.splitOn comma).map trim
        if ∀ name ∈ names, name ∈ (schema q.1).map (·.name) then
          ((db q.1).mapM fun row => (matchesRow E (some q.2) row).map fun hit => (hit, row)).map
            fun rows => (rows.filter Prod.fst).map fun hr => names.map hr.2
        else none

end Server

/-! ## §4. What the statements come to. -/

/-- A list without a comma is a single assignment, whatever else stands in it. -/
theorem assignments_single {name expr : Text} (hn : IsName name) (he : ∀ s ∈ expr, s.Plain) :
    assignments (name ++ equals :: expr) = some [(name, expr)] := by
  have hblank : blank ∉ name := not_mem_of_plain hn.plain not_plain_blank
  have heq : equals ∉ name := hn.not_mem (by decide) (by decide)
  have hcomma : comma ∉ name ++ equals :: expr := by
    intro hm
    obtain hm | hm := List.mem_append.mp hm
    · exact not_mem_of_plain hn.plain not_plain_comma hm
    · obtain hm | hm := List.mem_cons.mp hm
      · cases hm
      · exact not_mem_of_plain he not_plain_comma hm
  have hcut : cut [equals] (name ++ equals :: expr) = some (name, expr) := cut_append [] heq expr
  unfold assignments
  rw [List.splitOn_eq_singleton hcomma]
  show ((cut [equals] (name ++ equals :: expr)).map fun p => (trim p.1, trim p.2)).bind
    (fun x => some [x]) = _
  rw [hcut, Option.map_some, trim_of_not_mem hblank,
    trim_of_not_mem (not_mem_of_plain he not_plain_blank)]
  rfl

section Statements

variable {key : Text} (E : Engine key) (schema : Text → List Column) (db : Database)

/-- An `INSERT` of one assignment. -/
theorem exec_insert {table name expr : Text} (ht : blank ∉ table) (hn : IsName name)
    (he : ∀ s ∈ expr, s.Plain) :
    exec E schema db
        (word "INSERT INTO " ++ (table ++ (word " SET " ++ (name ++ equals :: expr)))) =
      (insertRow E (schema table) (db table) [(name, expr)]).map (Function.update db table) := by
  have hcut : cut (word " SET ") (table ++ (word " SET " ++ (name ++ equals :: expr))) =
      some (table, name ++ equals :: expr) := cut_append _ ht _
  unfold exec
  rw [after_append]
  simp only [hcut, Option.bind_some, assignments_single hn he]

/-- An `UPDATE` of one assignment, with no condition. -/
theorem exec_update {table name expr : Text} (ht : blank ∉ table) (hn : IsName name)
    (he : ∀ s ∈ expr, s.Plain) :
    exec E schema db
        (word "UPDATE " ++ (table ++ (word " SET " ++ (name ++ equals :: expr)))) =
      (updateRows E (schema table) (db table) [(name, expr)] none).map
        (Function.update db table) := by
  have hhead : after (word "INSERT INTO ")
      (word "UPDATE " ++ (table ++ (word " SET " ++ (name ++ equals :: expr)))) = none := by
    have h : ¬ word "INSERT INTO " <+:
        word "UPDATE " ++ (table ++ (word " SET " ++ (name ++ equals :: expr))) := by
      intro hp
      exact absurd (List.cons.inj hp.choose_spec).1 (by decide)
    unfold after
    rw [if_neg h]
  have hcut : cut (word " SET ") (table ++ (word " SET " ++ (name ++ equals :: expr))) =
      some (table, name ++ equals :: expr) := cut_append _ ht _
  have hblank : blank ∉ name ++ equals :: expr := by
    intro hm
    obtain hm | hm := List.mem_append.mp hm
    · exact not_mem_of_plain hn.plain not_plain_blank hm
    · obtain hm | hm := List.mem_cons.mp hm
      · cases hm
      · exact not_mem_of_plain he not_plain_blank hm
  have hwhere : cut (word " WHERE ") (name ++ equals :: expr) = none := cut_none _ hblank
  unfold exec
  rw [hhead, after_append]
  simp only [hcut, hwhere, Option.bind_some, assignments_single hn he]

/-- A single assignment of a literal or an equation. -/
theorem assign_single {columns : List Column} {name expr : Text} {row row' : Row}
    (h : assign E columns [(name, expr)] row = some row') :
    ∃ c, E.eval expr row = some c ∧ row' = Function.update row name c := by
  unfold assign at h
  split at h
  · split at h
    · rename_i c hc
      exact ⟨c, hc, (Option.some.inj h).symm⟩
    · cases h
  · cases h

/-! ### Queries. -/

/-- The names of a query, separated by commas, each with a blank after it. -/
def nameList : List Text → Text
  | [] => []
  | [name] => name ++ [blank]
  | name :: rest => name ++ blank :: comma :: nameList rest

theorem nameList_cons {name : Text} {rest : List Text} (h : rest ≠ []) :
    nameList (name :: rest) = name ++ blank :: comma :: nameList rest := by
  cases rest with
  | nil => exact absurd rfl h
  | cons n rest => rfl

/-- The list ends where the ` FROM ` after it begins: none of its own blanks starts one. -/
theorem cut_nameList {names : List Text} (hn : ∀ n ∈ names, IsName n) (hne : names ≠ [])
    (rest : Text) :
    cut (word " FROM ") (nameList names ++ (word " FROM " ++ rest)) =
      some (nameList names, rest) := by
  have hstep : ∀ (s : Sym) (t : Text), s ≠ .chr 'F' → ¬ word " FROM " <+: blank :: s :: t := by
    intro s t hs hp
    exact hs (List.cons.inj (List.cons.inj hp.choose_spec).2).1.symm
  induction names with
  | nil => exact absurd rfl hne
  | cons name names ih =>
      have hblank : blank ∉ name :=
        not_mem_of_plain (hn name List.mem_cons_self).plain not_plain_blank
      by_cases hnames : names = []
      · subst hnames
        show cut (blank :: _) (name ++ [blank] ++ (word " FROM " ++ rest)) = _
        rw [List.append_assoc, cut_skip _ hblank]
        show ((cut (word " FROM ") (blank :: blank :: _)).map _) = _
        rw [cut_step (hstep _ _ (by decide))]
        show (((cut (blank :: _) (blank :: _ ++ rest)).map _).map _) = _
        rw [cut_front]
        rfl
      · have ih := ih (fun n hm => hn n (List.mem_cons_of_mem _ hm)) hnames
        have hcomma : ¬ word " FROM " <+: comma :: (nameList names ++ (word " FROM " ++ rest)) := by
          intro hp
          exact absurd (List.cons.inj hp.choose_spec).1 (by decide)
        rw [nameList_cons hnames, List.append_assoc]
        show cut (blank :: _) (name ++ _) = _
        rw [cut_skip _ hblank]
        show ((cut (word " FROM ") (blank :: comma :: (nameList names ++ _))).map _) = _
        rw [cut_step (hstep _ _ (by decide)), cut_step hcomma, ih]
        rfl

/-- Reading a list of names back gives the names. -/
theorem splitOn_nameList {names : List Text} (hn : ∀ n ∈ names, IsName n) (hne : names ≠ []) :
    (nameList names).splitOn comma = names.map (· ++ [blank]) := by
  have hjoin : ∀ names : List Text, names ≠ [] →
      nameList names = [comma].intercalate (names.map (· ++ [blank])) := by
    intro names
    induction names with
    | nil => exact fun h => absurd rfl h
    | cons name names ih =>
        intro _
        by_cases hnames : names = []
        · subst hnames
          simp [nameList]
        · rw [nameList_cons hnames, ih hnames, List.map_cons,
            List.intercalate_cons_of_ne_nil (by simpa using hnames)]
          simp
  rw [hjoin names hne]
  refine List.splitOn_intercalate comma ?_ (by simpa using hne)
  intro part hp
  obtain ⟨name, hname, rfl⟩ := List.mem_map.mp hp
  intro hm
  obtain hm | hm := List.mem_append.mp hm
  · exact not_mem_of_plain (hn name hname).plain not_plain_comma hm
  · exact absurd (List.mem_singleton.mp hm) (by decide)

/-- **A query by key** gives the named columns of the rows with that key. -/
theorem select_key {names : List Text} (hn : ∀ n ∈ names, IsName n ∧ n ≠ []) (hne : names ≠ [])
    {table : Text} (ht : blank ∉ table) (hcols : ∀ n ∈ names, n ∈ (schema table).map (·.name))
    (hkey : ∀ row ∈ db table, ∃ n : Int, row key = .int n) (g : Int) :
    select E schema db (word "SELECT " ++ (nameList names ++
        (word " FROM " ++ (table ++ (word " WHERE " ++ (key ++ equals :: number g)))))) =
      some (((db table).filter fun row => row key = .int g).map fun row => names.map row) := by
  have hnames : ((nameList names).splitOn comma).map trim = names := by
    rw [splitOn_nameList (fun n hm => (hn n hm).1) hne, List.map_map]
    calc names.map (trim ∘ (· ++ [blank]))
        = names.map id := List.map_congr_left fun n hm =>
            trim_blank (not_mem_of_plain (hn n hm).1.plain not_plain_blank) (hn n hm).2
      _ = names := List.map_id names
  have hfrom := cut_nameList (fun n hm => (hn n hm).1) hne
    (table ++ (word " WHERE " ++ (key ++ equals :: number g)))
  have hwhere : cut (word " WHERE ") (table ++ (word " WHERE " ++ (key ++ equals :: number g))) =
      some (table, key ++ equals :: number g) := cut_append _ ht _
  have hrows : ∀ rows : List Row, (∀ row ∈ rows, ∃ n : Int, row key = .int n) →
      (rows.mapM fun row =>
        (matchesRow E (some (key ++ equals :: number g)) row).map fun hit => (hit, row)) =
      some (rows.map fun row => (decide (row key = .int g), row)) := by
    intro rows
    induction rows with
    | nil => exact fun _ => rfl
    | cons row rows ih =>
        intro h
        obtain ⟨n, hrow⟩ := h row List.mem_cons_self
        have hhit : matchesRow E (some (key ++ equals :: number g)) row =
            some (decide (row key = .int g)) := by
          show (E.eval (key ++ equals :: number g) row).map _ = _
          rw [E.eval_column g n row hrow, hrow]
          by_cases hg : n = g
          · simp [truth, hg]
          · simp [truth, hg]
        rw [List.mapM_cons, ih fun r hr => h r (List.mem_cons_of_mem _ hr), hhit]
        rfl
  unfold select
  rw [after_append, Option.bind_some, hfrom, Option.bind_some, hwhere, Option.bind_some]
  simp only [hnames, if_pos hcols, hrows (db table) hkey, Option.map_some, List.filter_map,
    List.map_map]
  rfl

end Statements

/-! ## §5. A server that knows these rules and no more. -/

/-- The digit that a symbol is. -/
def digit? : Sym → Option Char
  | .chr c => if c.isDigit then some c else none
  | .quoted _ => none

/-- The value of a text of digits. -/
def readDigits (t : Text) : Option Nat := (t.mapM digit?).map fun cs => Nat.ofDigitChars 10 cs 0

/-- A decimal number with an optional sign. -/
def readNumber : Text → Option Int
  | [] => none
  | s :: t =>
      if s = .chr '-' then (readDigits t).map fun n => -Int.ofNat n
      else (readDigits (s :: t)).map Int.ofNat

/-- Digits are read back. -/
theorem readDigits_digits (n : Nat) : readDigits ((Nat.toDigits 10 n).map .chr) = some n := by
  have hread : ∀ cs : List Char, (∀ c ∈ cs, c.isDigit) →
      (cs.map Sym.chr).mapM digit? = some cs := by
    intro cs
    induction cs with
    | nil => exact fun _ => rfl
    | cons c cs ih =>
        intro h
        have hc : digit? (.chr c) = some c := if_pos (h c List.mem_cons_self)
        rw [List.map_cons, List.mapM_cons, ih fun c' hc' => h c' (List.mem_cons_of_mem _ hc'), hc]
        rfl
  unfold readDigits
  rw [hread _ fun c hc => Nat.isDigit_of_mem_toDigits (by decide) (by decide) hc]
  show some (Nat.ofDigitChars 10 (Nat.toDigits 10 n) 0) = some n
  rw [Nat.ofDigitChars_ten_toDigits]

/-- A number is read back. -/
theorem readNumber_number (n : Int) : readNumber (number n) = some n := by
  cases n with
  | ofNat n =>
      show readNumber ((Nat.toDigits 10 n).map .chr) = _
      have hdigits := readDigits_digits n
      cases hd : Nat.toDigits 10 n with
      | nil => exact absurd hd Nat.toDigits_ne_nil
      | cons c cs =>
          have hc : c.isDigit := Nat.isDigit_of_mem_toDigits (b := 10) (n := n) (by decide)
            (by decide) (by rw [hd]; exact List.mem_cons_self)
          have hne : Sym.chr c ≠ .chr '-' := by
            intro he
            injection he with he
            subst he
            exact absurd hc (by decide)
          rw [hd] at hdigits
          show (if Sym.chr c = .chr '-' then _ else (readDigits ((c :: cs).map .chr)).map _) = _
          rw [if_neg hne, hdigits]
          rfl
  | negSucc n =>
      show (readDigits ((Nat.toDigits 10 (n + 1)).map .chr)).map (fun k => -Int.ofNat k) = _
      rw [readDigits_digits]
      rfl

theorem readDigits_none {t : Text} (h : equals ∈ t) : readDigits t = none := by
  have hnone : t.mapM digit? = none := by
    induction t with
    | nil => cases h
    | cons s t ih =>
        rw [List.mapM_cons]
        obtain rfl | h := List.mem_cons.mp h
        · rfl
        · rw [ih h]
          cases digit? s with
          | none => rfl
          | some c => rfl
  unfold readDigits
  rw [hnone]
  rfl

/-- What has an equals sign in it is no number. -/
theorem readNumber_none {t : Text} (h : equals ∈ t) : readNumber t = none := by
  cases t with
  | nil => rfl
  | cons s t =>
      show (if s = .chr '-' then (readDigits t).map _ else (readDigits (s :: t)).map _) = none
      by_cases hs : s = .chr '-'
      · have ht : equals ∈ t := by
          obtain he | ht := List.mem_cons.mp h
          · exact absurd (he.trans hs) (by decide)
          · exact ht
        rw [if_pos hs, readDigits_none ht]
        rfl
      · rw [if_neg hs, readDigits_none h]
        rfl

/-- Literals, and the key against a number; every other expression is refused. -/
def literalValue (key : Text) (t : Text) (row : Row) : Option Cell :=
  match t with
  | [.quoted bs] => some (.bytes bs)
  | t =>
      match readNumber t with
      | some n => some (.int n)
      | none =>
          (cut [equals] t).bind fun p =>
            match readNumber p.2, row key with
            | some n, .int m => if p.1 = key then some (truth (m = n)) else none
            | _, _ => none

/-- A literal with an equals sign is a comparison. -/
theorem literalValue_of_equals (key : Text) {t : Text} (h : equals ∈ t) (row : Row) :
    literalValue key t row = (cut [equals] t).bind fun p =>
      match readNumber p.2, row key with
      | some n, .int m => if p.1 = key then some (truth (m = n)) else none
      | _, _ => none := by
  unfold literalValue
  split
  · exact absurd (List.mem_singleton.mp h) (by simp [equals])
  · rw [readNumber_none h]

/-- The engine that evaluates so. -/
def literalEngine (key : Text) (hkey : equals ∉ key) : Engine key where
  eval := literalValue key
  eval_number n row := by
    unfold literalValue
    split
    · rename_i bs hbs
      have hplain := readNumber_number n
      rw [hbs] at hplain
      cases hplain
    · rw [readNumber_number]
  eval_quoted _ _ := rfl
  eval_equation t row c _ heq h := by
    rw [literalValue_of_equals key heq] at h
    obtain ⟨p, _, h⟩ := Option.bind_eq_some_iff.mp h
    split at h
    · rename_i n m _ _
      split at h
      · obtain rfl := Option.some.inj h
        by_cases hm : m = n
        · exact Or.inr (Or.inl (by simp [truth, hm]))
        · exact Or.inl (by simp [truth, hm])
      · cases h
    · cases h
  eval_column n m row hrow := by
    have hcut : cut [equals] (key ++ equals :: number n) = some (key, number n) :=
      cut_append [] hkey _
    rw [literalValue_of_equals key (by simp), hcut]
    simp [readNumber_number, hrow]

end SqlText
