import ScalyrAgent.PyDict
import ScalyrAgent.Postgres.Driver

/-!
# `PostgreSQLDb`

The methods of `PostgreSQLDb` in `postgres_monitor.py`, each a `PgM` program over the driver
calls of `ScalyrAgent.Postgres.Driver`, with its `try`/`except` clauses as `tryCatch` and its
attribute reads and writes as reads and writes of `World.db` and `World.cursor`.

* `connect`, `close` and `reconnect` manage the two fields.  `connect` has the two handlers of
  the source: a `pg8000.Error` resets both fields and logs, any other `Exception` is logged and
  re-raised as `Exception("Exception trying to connect: ...")`, and nothing else is caught.
* `retrieveDatabaseSize` and `retrieveDatabaseTableStats` run their queries on `self._cursor`
  and share the handler `onOperationalError`: error code 2006 reconnects and gives `None`, any
  other code raises, and every other exception passes through.
* `databaseStats` is the class attribute `_database_stats`, and `fieldsQuery`, `statsQuery` and
  `sizeQuery` are the three statements built around the configured database name.

`self._database_stats[table].keys()` gives the columns in the order CPython 2.7 iterates the
dict, not in the order of the literal: `pgStatDatabase` is the dict in that order, and
`pgStatDatabase_display` checks it against `PyDict.display` of the literal
`pgStatDatabaseItems`.
The version string `_get_version` reads goes to `_version`, `_major` and `_medium`, which only
`__str__` reads; those fields are left out, and the query and its handler are kept.
-/

namespace ScalyrAgent.Postgres

/-! ## The statistics table and the statements -/

/-- The items of the dict literal `PostgreSQLDb._database_stats["pg_stat_database"]`, in the
order the source writes them: each column the monitor reads with the metric it is emitted as,
`[metric]` or `[metric, dimension, value]`. -/
def pgStatDatabaseItems : List (String × List String) :=
  [("numbackends", ["postgres.database.connections"]),
   ("xact_commit", ["postgres.database.transactions", "result", "committed"]),
   ("xact_rollback", ["postgres.database.transactions", "result", "rolledback"]),
   ("blks_read", ["postgres.database.disk_blocks", "type", "read"]),
   ("blks_hit", ["postgres.database.disk_blocks", "type", "hit"]),
   ("tup_returned", ["postgres.database.query_rows", "op", "returned"]),
   ("tup_fetched", ["postgres.database.query_rows", "op", "fetched"]),
   ("tup_inserted", ["postgres.database.query_rows", "op", "inserted"]),
   ("tup_updated", ["postgres.database.query_rows", "op", "updated"]),
   ("tup_deleted", ["postgres.database.query_rows", "op", "deleted"]),
   ("temp_files", ["postgres.database.temp_files"]),
   ("temp_bytes", ["postgres.database.temp_bytes"]),
   ("deadlocks", ["postgres.database.deadlocks"]),
   ("blk_read_time", ["postgres.database.blocks_op_time", "op", "read"]),
   ("blk_write_time", ["postgres.database.blocks_op_time", "op", "write"]),
   ("stats_reset", ["postgres.database.stats_reset"])]

/-- `PostgreSQLDb._database_stats["pg_stat_database"]`, its items in the order `keys()` gives
them. -/
def pgStatDatabase : List (String × List String) :=
  [("numbackends", ["postgres.database.connections"]),
   ("temp_bytes", ["postgres.database.temp_bytes"]),
   ("blks_read", ["postgres.database.disk_blocks", "type", "read"]),
   ("deadlocks", ["postgres.database.deadlocks"]),
   ("temp_files", ["postgres.database.temp_files"]),
   ("stats_reset", ["postgres.database.stats_reset"]),
   ("blk_write_time", ["postgres.database.blocks_op_time", "op", "write"]),
   ("xact_commit", ["postgres.database.transactions", "result", "committed"]),
   ("tup_deleted", ["postgres.database.query_rows", "op", "deleted"]),
   ("xact_rollback", ["postgres.database.transactions", "result", "rolledback"]),
   ("blks_hit", ["postgres.database.disk_blocks", "type", "hit"]),
   ("tup_returned", ["postgres.database.query_rows", "op", "returned"]),
   ("tup_updated", ["postgres.database.query_rows", "op", "updated"]),
   ("tup_inserted", ["postgres.database.query_rows", "op", "inserted"]),
   ("tup_fetched", ["postgres.database.query_rows", "op", "fetched"]),
   ("blk_read_time", ["postgres.database.blocks_op_time", "op", "read"])]

set_option maxRecDepth 20000 in
/-- The order of `pgStatDatabase` is the order of the slots CPython 2.7 gives the literal's
items. -/
theorem pgStatDatabase_display : PyDict.display pgStatDatabaseItems = pgStatDatabase := by
  decide

/-- `PostgreSQLDb._database_stats`: the statistics views the monitor reads, one here. -/
def databaseStats : List (String × List (String × List String)) :=
  [("pg_stat_database", pgStatDatabase)]

/-- `"select * from %s where datname = '%s' limit 0;" % (table, self._database)`. -/
def fieldsQuery (table database : String) : String :=
  "select * from " ++ table ++ " where datname = '" ++ database ++ "' limit 0;"

/-- `"select * from %s where datname = '%s';" % (table, self._database)`. -/
def statsQuery (table database : String) : String :=
  "select * from " ++ table ++ " where datname = '" ++ database ++ "';"

/-- `"select pg_database_size('%s');" % self._database`. -/
def sizeQuery (database : String) : String :=
  "select pg_database_size('" ++ database ++ "');"

/-- The statement of `_get_version`. -/
def versionQuery : String := "select version();"

/-! The eighth character tells the statements apart: the `p` of `pg_database_size`, the `*` of
`select *` and the `v` of `version()`. -/

theorem sizeQuery_data_seven (database : String) : (sizeQuery database).data[7]? = some 'p' := by
  simp [sizeQuery, String.data_append]

theorem fieldsQuery_data_seven (table database : String) :
    (fieldsQuery table database).data[7]? = some '*' := by
  simp [fieldsQuery, String.data_append]

theorem statsQuery_data_seven (table database : String) :
    (statsQuery table database).data[7]? = some '*' := by
  simp [statsQuery, String.data_append]

theorem versionQuery_data_seven : versionQuery.data[7]? = some 'v' := by decide

theorem ne_of_data_seven {s s' : String} {c c' : Char} (h : s.data[7]? = some c)
    (h' : s'.data[7]? = some c') (hc : c ≠ c') : s ≠ s' :=
  fun hs => hc (Option.some.inj (h.symm.trans (hs ▸ h')))

@[simp] theorem sizeQuery_ne_versionQuery (database : String) : sizeQuery database ≠ versionQuery :=
  ne_of_data_seven (sizeQuery_data_seven _) versionQuery_data_seven (by decide)

@[simp] theorem fieldsQuery_ne_versionQuery (table database : String) :
    fieldsQuery table database ≠ versionQuery :=
  ne_of_data_seven (fieldsQuery_data_seven _ _) versionQuery_data_seven (by decide)

@[simp] theorem statsQuery_ne_versionQuery (table database : String) :
    statsQuery table database ≠ versionQuery :=
  ne_of_data_seven (statsQuery_data_seven _ _) versionQuery_data_seven (by decide)

@[simp] theorem sizeQuery_ne_fieldsQuery (table database database' : String) :
    sizeQuery database ≠ fieldsQuery table database' :=
  ne_of_data_seven (sizeQuery_data_seven _) (fieldsQuery_data_seven _ _) (by decide)

@[simp] theorem sizeQuery_ne_statsQuery (table database database' : String) :
    sizeQuery database ≠ statsQuery table database' :=
  ne_of_data_seven (sizeQuery_data_seven _) (statsQuery_data_seven _ _) (by decide)

/-! ## Python expressions over rows -/

/-- The characters `str.split()` splits at. -/
def isPyWhitespace (c : Char) : Bool :=
  c == ' ' || c == '\t' || c == '\n' || c == '\r' || c == '\x0b' || c == '\x0c'

/-- `string.split(r[0])[1]` of the row `select version();` returns. -/
def versionOf : Option Row → Except Exc String
  | none => .error (.exception "TypeError" "'NoneType' object has no attribute '__getitem__'")
  | some [] => .error (.exception "IndexError" "list index out of range")
  | some (.text s :: _) =>
    match (s.split isPyWhitespace).filter (· ≠ "") with
    | _ :: version :: _ => .ok version
    | _ => .error (.exception "IndexError" "list index out of range")
  | some (_ :: _) => .error (.exception "AttributeError" "object has no attribute 'split'")

/-- `self._cursor.fetchone()[0]`. -/
def firstColumn : Option Row → Except Exc Value
  | none => .error (.exception "TypeError" "'NoneType' object has no attribute '__getitem__'")
  | some [] => .error (.exception "IndexError" "list index out of range")
  | some (v :: _) => .ok v

/-- `_fields_and_data_to_dict(fields, data)`: `zip` pairs the column names with the values, and
refuses a row that is `None`. -/
def fieldsAndDataToDict (fields : List String) : Option Row → Except Exc (PyDict Value)
  | none => .error (.exception "TypeError" "zip argument #2 must support iteration")
  | some data => .ok (PyDict.ofList (fields.zip data))

/-- The end of `_retrieve_database_table_stats`: the items of `data` whose key is a column of
the table, in the order of the table. -/
def selectColumns (entries : List (String × List String)) (data : PyDict Value) :
    PyDict Value :=
  entries.filterMap fun entry => (data.lookup entry.1).map (entry.1, ·)

/-- The keys `selectColumns` keeps are among the columns of the table, in its order. -/
theorem selectColumns_keys_sublist (entries : List (String × List String)) (data : PyDict Value) :
    ((selectColumns entries data).map Prod.fst).Sublist (entries.map Prod.fst) := by
  induction entries with
  | nil => simp [selectColumns]
  | cons e es ih =>
    simp only [selectColumns, List.filterMap_cons] at ih ⊢
    cases data.lookup e.1 with
    | none => exact ih.cons _
    | some v => exact ih.cons₂ _

/-- A column of the table reads back from `selectColumns` as it is in `data`; any other key is
missing. -/
theorem lookup_selectColumns (entries : List (String × List String)) (data : PyDict Value)
    (k : String) :
    (selectColumns entries data).lookup k = if entries.any (·.1 == k) then data.lookup k else none := by
  induction entries with
  | nil => simp [selectColumns]
  | cons e es ih =>
    simp only [selectColumns, List.filterMap_cons] at ih ⊢
    by_cases hk : e.1 = k
    · subst hk
      cases h : data.lookup e.1 with
      | none => simp [ih, h]
      | some v => simp [List.lookup_cons]
    · have h1 : (e.1 == k) = false := by simpa using hk
      have h2 : (k == e.1) = false := by simpa using Ne.symm hk
      cases data.lookup e.1 with
      | none => simp only [Option.map_none']; rw [ih, List.any_cons, h1, Bool.false_or]
      | some v =>
        simp only [Option.map_some', List.lookup_cons, h2]
        rw [ih, List.any_cons, h1, Bool.false_or]

/-! ## The methods -/

section Methods

variable (d : Driver) (p : DbParams)

/-- `_get_version`: a bare `except:` turns every failure into `"unknown"`. -/
def getVersion : PgM String :=
  tryCatch (do
      cursorExecute d (← liveCursor "execute") versionQuery
      let r ← cursorFetchone d (← liveCursor "fetchone")
      liftExcept (versionOf r))
    fun e => do
      logError ("Exception getting database version: " ++ e.cls)
      pure "unknown"

/-- `_gather_db_information`: reads the version.  What it parses out of it only reaches the
fields that are not modelled, and its own `except:` catches the rest. -/
def gatherDbInformation : PgM Unit := do
  let _ ← getVersion d
  pure ()

/-- `connect`. -/
def connect : PgM Unit :=
  tryCatch (do
      let conn ← pgConnect d p
      setDb (some conn)
      let cur ← connCursor d conn
      setCursor (some cur)
      gatherDbInformation d)
    fun e =>
      if e.isPgError then do
        setDb none
        setCursor none
        logError ("Database connect failed: " ++ e.str)
      else if e.isException then do
        logError ("Exception trying to connect occured:  " ++ e.str)
        throw (.exception "Exception" ("Exception trying to connect:  " ++ e.str))
      else throw e

/-- `is_connected`. -/
def isConnected : PgM Bool := do
  pure (← get).db.isSome

/-- `if self._cursor: self._cursor.close()`. -/
def closeCursor : PgM Unit := do
  match (← get).cursor with
  | some cur => cursorClose d cur
  | none => pure ()

/-- `if self._db: self._db.close()`. -/
def closeDb : PgM Unit := do
  match (← get).db with
  | some c => connClose d c
  | none => pure ()

/-- `close`: closes the cursor and the connection, then resets both fields. -/
def close : PgM Unit := do
  closeCursor d
  closeDb d
  setCursor none
  setDb none

/-- `reconnect`. -/
def reconnect : PgM Unit := do
  close d
  connect d p

/-- The clause `except pg8000.OperationalError, (errcode, msg)` of the two retrieve methods,
with `none` for the `None` the method returns.  A code other than 2006 raises: the source
builds `"Database error -- " + errcode`, which Python 2 refuses for an integer code with a
`TypeError`.  Code 2006 reconnects and returns `None`.  Every other exception passes through. -/
def onOperationalError {α : Type} (none : α) (e : Exc) : PgM α :=
  match e with
  | .operational errcode _ =>
    if errcode != 2006 then
      throw (.exception "TypeError" "cannot concatenate 'str' and 'int' objects")
    else do
      reconnect d p
      pure none
  | _ => throw e

/-- `_retrieve_database_table_stats(table)`, with `entries = self._database_stats[table]`. -/
def retrieveDatabaseTableStats (table : String) (entries : List (String × List String)) :
    PgM (Option (PyDict Value)) := do
  let fetched ← tryCatch (do
      cursorExecute d (← liveCursor "execute") (fieldsQuery table p.database)
      let fields ← cursorDescription d (← liveCursor "description")
      cursorExecute d (← liveCursor "execute") (statsQuery table p.database)
      let data ← cursorFetchone d (← liveCursor "fetchone")
      pure (some (fields, data)))
    (onOperationalError d p none)
  match fetched with
  | none => pure none
  | some (fields, data) => do
    let data ← liftExcept (fieldsAndDataToDict fields data)
    pure (some (selectColumns entries data))

/-- `retrieve_database_stats`. -/
def retrieveDatabaseStats : PgM (PyDict Value) :=
  databaseStats.foldlM (fun result table => do
      match ← retrieveDatabaseTableStats d p table.1 table.2 with
      | some tmp => pure (result.update tmp)
      | none => pure result)
    []

/-- `retrieve_database_size`; `Value.null` is the `None` it returns after a reconnect. -/
def retrieveDatabaseSize : PgM Value :=
  tryCatch (do
      cursorExecute d (← liveCursor "execute") (sizeQuery p.database)
      let row ← cursorFetchone d (← liveCursor "fetchone")
      liftExcept (firstColumn row))
    (onOperationalError d p .null)

end Methods

end ScalyrAgent.Postgres
