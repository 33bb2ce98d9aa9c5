/-
# Tables that statements change

A database of named tables, and the statements that schema migrations are made of.
-/
import Akson.Lib.Fallible
import Mathlib.Data.List.Basic
import Mathlib.Logic.Function.Basic

namespace Sql

open Except Option List

/-- The values of SQLite. -/
inductive Value where
  | null
  | int (n : Int)
  | text (s : String)
  | blob (bytes : List UInt8)
deriving DecidableEq

abbrev Record := String → Value

/-- A table with its columns and unique keys. -/
structure TableDef where
  name : String
  columns : List String
  /-- The primary key and the other unique columns. -/
  keys : List (List String)

/-- The tables and indexes of a database. -/
structure Shape where
  tables : List TableDef := []
  /-- The indexes, each with its table. -/
  indexes : List (String × String) := []

/-- The conditions of the statements. -/
inductive Cond where
  | all
  /-- `column = ''` -/
  | isEmpty (column : String)
  /-- `column != ''` -/
  | nonEmpty (column : String)
  /-- `column NOT IN (SELECT column FROM source WHERE unset IS NULL)` -/
  | notIn (column source unset : String)

/-- The statements that migrations use. -/
inductive Stmt where
  | createTable (table : TableDef)
  | createIndex (name table : String)
  | addColumn (table column : String) (default : Value)
  | delete (table : String) (cond : Cond)
  | insertSelect (target source : String) (columns : List String) (cond : Cond)
  | dropTable (name : String)
  | renameTable (name newName : String)

/-! ## The shape -/

namespace Shape

def table (s : Shape) (name : String) : Option TableDef := s.tables.find? (fun t => t.name = name)

def taken (s : Shape) (name : String) : Bool :=
  s.tables.any (fun t => t.name = name) || s.indexes.any (fun i => i.1 = name)

def has (s : Shape) (name : String) (columns : List String) : Bool :=
  (s.table name).any (fun t => columns.all (· ∈ t.columns))

def allows (s : Shape) (name : String) : Cond → Bool
  | .all => s.has name []
  | .isEmpty column | .nonEmpty column => s.has name [column]
  | .notIn column source unset => s.has name [column] && s.has source [column, unset]

end Shape

/-- What a statement makes of the shape. -/
def Stmt.shape (s : Shape) : Stmt → Option Shape
  | .createTable t => if s.taken t.name then none else some { s with tables := s.tables ++ [t] }
  | .createIndex name table =>
    if s.taken name || !s.has table [] then none
    else some { s with indexes := s.indexes ++ [(name, table)] }
  | .addColumn table column _ =>
    if s.has table [] && !s.has table [column] then
      some { s with tables := s.tables.map (fun t =>
        if t.name = table then { t with columns := t.columns ++ [column] } else t) }
    else none
  | .delete table cond => if s.allows table cond then some s else none
  | .insertSelect target source columns cond =>
    if s.has target columns && s.has source columns && s.allows source cond then some s else none
  | .dropTable name =>
    if s.has name [] then
      some ⟨s.tables.filter (fun t => t.name ≠ name), s.indexes.filter (fun i => i.2 ≠ name)⟩
    else none
  | .renameTable name newName =>
    if s.has name [] && !s.taken newName then
      some ⟨s.tables.map (fun t => if t.name = name then { t with name := newName } else t),
        s.indexes.map (fun i => if i.2 = name then (i.1, newName) else i)⟩
    else none

def shapes (s : Shape) (batch : List Stmt) : Option Shape := batch.foldlM Stmt.shape s

theorem shapes_append (s : Shape) (a b : List Stmt) :
    shapes s (a ++ b) = (shapes s a).bind (fun s' => shapes s' b) := by
  rw [shapes, foldlM_append]
  rfl

/-! ## The rows -/

abbrev Rows := String → List Record

def Cond.holds (rows : Rows) (r : Record) : Cond → Bool
  | .all => true
  | .isEmpty column => r column = .text ""
  | .nonEmpty column => r column ≠ .text ""
  | .notIn column source unset =>
    !(rows source).any (fun i => i unset = .null ∧ i column = r column)

def project (columns : List String) (r : Record) : Record :=
  fun c => if c ∈ columns then r c else .null

/-- What a statement makes of the rows. -/
def Stmt.moves (rows : Rows) : Stmt → Rows
  | .createTable t => Function.update rows t.name []
  | .createIndex _ _ => rows
  | .addColumn table column default =>
    Function.update rows table ((rows table).map (fun r => Function.update r column default))
  | .delete table cond =>
    Function.update rows table ((rows table).filter (fun r => !cond.holds rows r))
  | .insertSelect target source columns cond =>
    Function.update rows target (rows target ++
      ((rows source).filter (fun r => cond.holds rows r)).map (project columns))
  | .dropTable name => Function.update rows name []
  | .renameTable name newName =>
    Function.update (Function.update rows newName (rows name)) name []

def movesAll (rows : Rows) (batch : List Stmt) : Rows := batch.foldl Stmt.moves rows

theorem movesAll_append (rows : Rows) (a b : List Stmt) :
    movesAll rows (a ++ b) = movesAll (movesAll rows a) b := foldl_append

def Clash (keys : List (List String)) (a b : Record) : Prop :=
  ∃ key ∈ keys, ∀ c ∈ key, a c = b c ∧ a c ≠ .null

instance (keys : List (List String)) (a b : Record) : Decidable (Clash keys a b) :=
  inferInstanceAs (Decidable (∃ key ∈ keys, ∀ c ∈ key, a c = b c ∧ a c ≠ .null))

/-- The rows allow the statement. -/
def Stmt.fits (s : Shape) (rows : Rows) (stmt : Stmt) : Bool :=
  match stmt with
  | .insertSelect target _ _ _ =>
    ((stmt.moves rows) target).Pairwise
      (fun a b => ¬ Clash (((s.table target).map TableDef.keys).getD []) a b)
  | _ => true

/-! ## Databases -/

/-- A database at a schema version. -/
structure Database where
  version : ℕ
  shape : Shape
  rows : Rows

inductive Error where
  | schema
  | constraint

/-- A statement on a database. -/
def Stmt.run (stmt : Stmt) (d : Database) : Except Error Database :=
  match stmt.shape d.shape with
  | none => .error .schema
  | some shape =>
    if stmt.fits d.shape d.rows then .ok ⟨d.version, shape, stmt.moves d.rows⟩
    else .error .constraint

def runAll (batch : List Stmt) (d : Database) : Except Error Database :=
  batch.foldlM (fun d stmt => stmt.run d) d

/-- Each statement fits when its turn comes. -/
def FitsAll (s : Shape) (rows : Rows) : List Stmt → Prop
  | [] => True
  | stmt :: batch => stmt.fits s rows = true ∧
      ∀ s', stmt.shape s = some s' → FitsAll s' (stmt.moves rows) batch

variable {d' d : Database} {batch : List Stmt} {rows : Rows} {s : Shape}

theorem Stmt.run_eq_ok_iff {stmt : Stmt} :
    stmt.run d = .ok d' ↔ stmt.shape d.shape = some d'.shape ∧ stmt.fits d.shape d.rows = true ∧
      d'.rows = stmt.moves d.rows ∧ d'.version = d.version := by
  obtain ⟨version', shape', rows'⟩ := d'
  unfold Stmt.run
  cases stmt.shape d.shape with
  | none => simp
  | some shape =>
    cases stmt.fits d.shape d.rows with
    | false => simp
    | true =>
      simp only [if_true, ok.injEq, Database.mk.injEq, some.injEq, true_and]
      constructor
      · rintro ⟨rfl, rfl, rfl⟩
        exact ⟨rfl, rfl, rfl⟩
      · rintro ⟨rfl, rfl, rfl⟩
        exact ⟨rfl, rfl, rfl⟩

theorem runAll_eq_ok_iff : runAll batch d = .ok d' ↔ shapes d.shape batch = some d'.shape ∧
      FitsAll d.shape d.rows batch ∧ d'.rows = movesAll d.rows batch ∧ d'.version = d.version := by
  induction batch generalizing d with
  | nil =>
    obtain ⟨version, shape, rows⟩ := d
    obtain ⟨version', shape', rows'⟩ := d'
    simp only [runAll, shapes, FitsAll, movesAll, foldlM_nil, foldl_nil, true_and]
    constructor
    · rintro ⟨⟩
      exact ⟨rfl, rfl, rfl⟩
    · rintro ⟨⟨⟩, rfl, rfl⟩
      rfl
  | cons stmt batch ih =>
    have hcons : runAll (stmt :: batch) d = stmt.run d >>= runAll batch := rfl
    have hshapes : shapes d.shape (stmt :: batch) =
      (stmt.shape d.shape).bind (fun s => shapes s batch) := rfl
    rw [hcons, bind_eq_ok, hshapes, bind_eq_some_iff]
    simp only [Stmt.run_eq_ok_iff, ih]
    constructor
    · rintro ⟨⟨version, s, rows⟩, ⟨hs, hfits, rfl, rfl⟩, hrest, hfitsAll, hrows, hversion⟩
      refine ⟨⟨s, hs, hrest⟩, ⟨hfits, fun s' hs' => ?_⟩, hrows, hversion⟩
      rwa [← some.inj (hs.symm.trans hs')]
    · rintro ⟨⟨s, hs, hrest⟩, ⟨hfits, hfitsAll⟩, hrows, hversion⟩
      exact ⟨⟨d.version, s, _⟩, ⟨hs, hfits, rfl, rfl⟩, hrest, hfitsAll s hs, hrows, hversion⟩

theorem fitsAll_append_iff {a b : List Stmt} : FitsAll s rows (a ++ b) ↔ FitsAll s rows a ∧
      ∀ s', shapes s a = some s' → FitsAll s' (movesAll rows a) b := by
  induction a generalizing s rows with
  | nil =>
    refine ⟨fun h => ⟨trivial, ?_⟩, fun h => h.2 s rfl⟩
    rintro s' ⟨⟩
    exact h
  | cons stmt a ih =>
    have hshapes : shapes s (stmt :: a) = (stmt.shape s).bind (fun s => shapes s a) := rfl
    rw [hshapes, cons_append, FitsAll, FitsAll, and_assoc]
    refine and_congr_right fun _ => ?_
    simp only [ih, bind_eq_some_iff]
    constructor
    · intro h
      exact ⟨fun s' hs' => (h s' hs').1, fun s'' ⟨s', hs', hs''⟩ => (h s' hs').2 s'' hs''⟩
    · rintro ⟨ha, hb⟩ s' hs'
      exact ⟨ha s' hs', fun s'' hs'' => hb s'' ⟨s', hs', hs''⟩⟩

theorem fitsAll_of_forall (h : ∀ stmt ∈ batch, ∀ s rows, stmt.fits s rows = true) :
    FitsAll s rows batch := by
  induction batch generalizing s rows with
  | nil => trivial
  | cons stmt batch ih =>
    rw [forall_mem_cons] at h
    exact ⟨h.1 s rows, fun s' _ => ih h.2⟩

end Sql
