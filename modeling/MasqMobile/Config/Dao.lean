import MasqMobile.Lib.Database
import MasqMobile.Lib.Program

/-!
# The config table

`node/src/db_config/config_dao.rs`. The table `config` has one row per parameter (`name` is its primary
key, db_initializer.rs:152); rows are only ever updated. Every operation is one statement of its own, so
an update that returned is durable. Any operation may be the one at which the database fails or the
process stops: `fault n` says what happens at the `n`-th. A failing `select` whose statement cannot even
be prepared panics in the source; it is an error here, and the table is the same after both.

| here | there |
| --- | --- |
| `getAll`, `get`, `set` | `ConfigDaoReal` (config_dao.rs:57, 65, 73) |
| `ConfigTable.setValue`, `NotPresent` for no row | `set_value`, `handle_update_execution` (config_dao.rs:94, 121) |
-/

namespace MasqMobile

/-- config_dao.rs:9 -/
inductive ConfigDaoError where
  | notPresent
  | transactionError
  | databaseError (message : String)
  deriving DecidableEq, Repr

/-- The derived `Debug`. -/
def ConfigDaoError.debug : ConfigDaoError → String
  | .notPresent => "NotPresent"
  | .transactionError => "TransactionError"
  | .databaseError message => "DatabaseError(" ++ message.quote ++ ")"

/-- config_dao.rs:16 -/
structure ConfigDaoRecord where
  name : String
  valueOpt : Option String
  encrypted : Bool
  deriving DecidableEq, Repr

/-- The rows in the order in which `select` yields them. -/
abbrev ConfigTable := Table ConfigDaoRecord (·.name)

/-- `update config set value = ? where name = ?`. -/
def ConfigTable.setValue (t : ConfigTable) (name : String) (valueOpt : Option String) : ConfigTable :=
  t.mapRows (fun r => if r.name = name then { r with valueOpt } else r) fun r => by
    split <;> rfl

/-- What happens instead of a database operation. -/
inductive Interrupt where
  | fails (message : String)
  | stops
  deriving DecidableEq, Repr

/-- Why a function of the source does not return `Ok`: it returns `Err`, it panics, or the process stops. -/
inductive Halt (ε : Type) where
  | err (e : ε)
  | panicked (message : String)
  | stopped
  deriving DecidableEq, Repr

/-- An error conversion, as `?` applies it. -/
def Halt.convert {ε ε' : Type} (f : ε → ε') : Halt ε → Halt ε'
  | .err e => .err (f e)
  | .panicked message => .panicked message
  | .stopped => .stopped

/-- The table, how many database operations were made, and how many random values were drawn. -/
structure ConfigState where
  table : ConfigTable
  operations : Nat
  draws : Nat

/-- A function of the source that works on the config table. -/
abbrev ConfigProgram (ε α : Type) := Program ConfigState (Halt ε) α

namespace ConfigDao

variable (fault : Nat → Option Interrupt)

def operation {α : Type} (statement : ConfigTable → Except ConfigDaoError (α × ConfigTable)) :
    ConfigProgram ConfigDaoError α := fun s =>
  match fault s.operations with
  | some (.fails message) => (.error (.err (.databaseError message)), { s with operations := s.operations + 1 })
  | some .stops => (.error .stopped, { s with operations := s.operations + 1 })
  | none =>
    match statement s.table with
    | .ok (a, table) => (.ok a, { s with table, operations := s.operations + 1 })
    | .error e => (.error (.err e), { s with operations := s.operations + 1 })

def getAll : ConfigProgram ConfigDaoError (List ConfigDaoRecord) := operation fault fun t => .ok (t.rows, t)

def get (name : String) : ConfigProgram ConfigDaoError ConfigDaoRecord := operation fault fun t =>
    match t.find name with
    | some record => .ok (record, t)
    | none => .error .notPresent

def set (name : String) (valueOpt : Option String) : ConfigProgram ConfigDaoError Unit := operation fault fun t =>
    if t.rows.any (·.name = name) then .ok ((), t.setValue name valueOpt) else .error .notPresent

variable {fault} {α : Type} {statement : ConfigTable → Except ConfigDaoError (α × ConfigTable)} {s : ConfigState}

theorem operation_interrupted (h : fault s.operations ≠ none) :
    ∃ ha, operation fault statement s = (.error ha, { s with operations := s.operations + 1 }) := by
  unfold operation
  split
  · exact ⟨_, rfl⟩
  · exact ⟨_, rfl⟩
  · exact absurd ‹_› h

theorem operation_of_ok {table : ConfigTable} (h : fault s.operations = none)
    (hok : statement s.table = .ok (a, table)) :
    operation fault statement s = (.ok a, { s with table, operations := s.operations + 1 }) := by
  simp only [operation, h, hok]

end ConfigDao

/-! ## Updates and reads -/

namespace ConfigTable

theorem find_setValue (t : ConfigTable) :
    (t.setValue name valueOpt).find name' =
      (t.find name').map fun r => if name' = name then { r with valueOpt } else r := by
  simp only [Table.find, setValue, Table.mapRows]
  induction t.rows with
  | nil => rfl
  | cons r rows ih =>
    by_cases hr : r.name = name'
    · by_cases hn : name' = name
      · simp [hr, hn]
      · simp [hr, hn]
    · by_cases hn : r.name = name
      · have hne : name ≠ name' := hn ▸ hr
        simp [hn, hne, ih]
      · simp [hr, hn, ih]

def writeAll (t : ConfigTable) (ws : List ConfigDaoRecord) : ConfigTable :=
  ws.foldl (fun t w => t.setValue w.name w.valueOpt) t

variable {ws : List ConfigDaoRecord} {t : ConfigTable}

theorem find_writeAll_of_forall_ne {name : String}
    (h : ∀ w ∈ ws, w.name ≠ name) : (t.writeAll ws).find name = t.find name := by
  induction ws generalizing t with
  | nil => rfl
  | cons w ws ih =>
    have hne : name ≠ w.name := (h w (by simp)).symm
    show ((t.setValue w.name w.valueOpt).writeAll ws).find name = _
    rw [ih fun w' hw' => h w' (by simp [hw']), find_setValue]
    simp [hne]

theorem find_writeAll_of_mem (hnd : (ws.map (·.name)).Nodup) {w : ConfigDaoRecord} (hw : w ∈ ws) :
    (t.writeAll ws).find w.name = (t.find w.name).map fun r => { r with valueOpt := w.valueOpt } := by
  induction ws generalizing t with
  | nil => cases hw
  | cons w' ws ih =>
    obtain ⟨hn, hnd⟩ := List.nodup_cons.1 hnd
    have ho : ∀ v ∈ ws, v.name ≠ w'.name := fun v hv heq => hn (List.mem_map.2 ⟨v, hv, heq⟩)
    show ((t.setValue w'.name w'.valueOpt).writeAll ws).find w.name = _
    rcases List.mem_cons.1 hw with rfl | hw
    · -- no later update has the same name
      rw [find_writeAll_of_forall_ne ho, find_setValue]
      simp
    · rw [ih hnd hw, find_setValue]
      simp [ho w hw]

end ConfigTable

end MasqMobile
