import Mathlib.Data.List.Infix
import ScalyrAgent.Postgres.Db

/-!
# `PostgresMonitor`

`_initialize` builds the `PostgreSQLDb` from the configuration, and `gather_sample` is the
sampling cycle: reconnect, bail out with a warning when that fails, read and emit the database
size, read and emit the statistics, close.  `run` is the host calling `gather_sample` once per
tick, each call with its own driver behaviour, and going on whatever a call raised.

`initializeDb` succeeds exactly when the three keys it requires are configured
(`initializeDb_ok_iff`), and its error names each of them (`initializeDb_error_names`).

`gatherSample` keeps the control flow of the source, including the `return` inside the
`except` clause of the reconnect: the clause answers `false`, and the rest of the cycle runs
only on `true`.  `emitEntry` is one turn of the nested emission loop, with the `stats_reset`
column turned into milliseconds by `timestamp_ms` (`timestampMsOf` raises as Python does when
the value is not a `datetime`, `None` included).
-/

namespace ScalyrAgent.Postgres

/-! ## `_initialize` -/

/-- `PostgresMonitor._initialize`, which builds `self._db`: the defaults `localhost` and `5432`,
and a configuration error unless the database name, the username and the password are all
given. -/
def initializeDb (config : PyDict String) : Except Exc DbParams :=
  let host := (config.lookup "database_host").getD "localhost"
  let port := ((config.lookup "database_port").map Port.text).getD (.number 5432)
  match config.lookup "database_name", config.lookup "database_username",
      config.lookup "database_password" with
  | some database, some username, some password =>
    .ok { host, port, database, username, password }
  | _, _, _ =>
    .error (.exception "Exception"
      "database_name, database_username and database_password must be specified in the configuration.")

/-- `_initialize` builds the database exactly when the three keys it requires are configured. -/
theorem initializeDb_ok_iff (config : PyDict String) :
    (∃ p, initializeDb config = .ok p) ↔
      ∀ k ∈ ["database_name", "database_username", "database_password"],
        (config.lookup k).isSome := by
  simp only [initializeDb, List.forall_mem_cons, List.forall_mem_nil, and_true]
  rcases config.lookup "database_name" with _ | _ <;>
    rcases config.lookup "database_username" with _ | _ <;>
    rcases config.lookup "database_password" with _ | _ <;> simp

/-- The error of `_initialize` names every key it requires. -/
theorem initializeDb_error_names (config : PyDict String) (e : Exc)
    (h : initializeDb config = .error e) :
    ∀ k ∈ ["database_name", "database_username", "database_password"],
      k.data <:+: e.str.data := by
  have he : e = .exception "Exception"
      "database_name, database_username and database_password must be specified in the configuration." := by
    unfold initializeDb at h
    split at h
    · cases h
    · cases h; rfl
  subst he
  decide

/-- The three required keys alone give the defaults `localhost` and `5432`. -/
theorem initializeDb_defaults (database username password : String) :
    initializeDb [("database_name", database), ("database_username", username),
        ("database_password", password)] =
      .ok { host := "localhost", port := .number 5432, database, username, password } := rfl

/-! ## The emission loop -/

/-- `timestamp_ms(v)` for a column value: only a `datetime` has the `replace` it calls. -/
def timestampMsOf : Value → Except Exc Int
  | .datetime dt => .ok (timestampMs dt)
  | .text _ => .error (.exception "TypeError" "replace() takes no keyword arguments")
  | .null => .error (.exception "AttributeError" "'NoneType' object has no attribute 'replace'")
  | .int _ | .other _ => .error (.exception "AttributeError" "object has no attribute 'replace'")

/-- The `extra_fields` of a column that is not `stats_reset`: `{entry[1]: entry[2]}` for an
entry of three elements, `None` otherwise. -/
def entryExtra (entry : List String) : ExtraFields :=
  if entry.length == 3 then some [(entry.getD 1 "", entry.getD 2 "")] else none

section Sample

variable (d : Driver) (p : DbParams)

/-- One turn of the loop over `self._db._database_stats[table].keys()`: a column of the table
that `dbstats` holds is emitted under `entry[0]`. -/
def emitEntry (dbstats : PyDict Value) (column : String × List String) : PgM Unit :=
  match dbstats.lookup column.1 with
  | none => pure ()
  | some v =>
    if column.1 != "stats_reset" then
      emitValue (column.2.getD 0 "") v (entryExtra column.2)
    else do
      let t ← liftExcept (timestampMsOf v)
      emitValue (column.2.getD 0 "") (.int t) none

/-- The two nested loops over `_database_stats`.  `retrieve_database_stats` always returns a
dict, so the test `dbstats != None` before them always passes. -/
def emitStats (dbstats : PyDict Value) : PgM Unit :=
  databaseStats.forM fun table => table.2.forM (emitEntry dbstats)

/-- `if dbsize != None: self._logger.emit_value('postgres.database.size', dbsize)`. -/
def emitSize (dbsize : Value) : PgM Unit :=
  if dbsize != .null then emitValue "postgres.database.size" dbsize none else pure ()

/-- `gather_sample` once connected: size, statistics, close. -/
def sampleConnected : PgM Unit := do
  let dbsize ← retrieveDatabaseSize d p
  emitSize dbsize
  let dbstats ← retrieveDatabaseStats d p
  emitStats dbstats
  close d

/-- The `try` around `self._db.reconnect()`: `true` when the cycle goes on, `false` after the
warning of the `except Exception` clause, whose `return` ends the cycle. -/
def reconnectOrWarn : PgM Bool :=
  tryCatch (do reconnect d p; pure true) fun e =>
    if e.isException then do
      logWarning ("Unable to gather stats for postgres database - " ++ e.str)
      pure false
    else throw e

/-- `PostgresMonitor.gather_sample`. -/
def gatherSample : PgM Unit := do
  let reconnected ← reconnectOrWarn d p
  if reconnected then
    if (← isConnected) then
      sampleConnected d p
    else
      logWarning "Unable to gather stats for postgres database - unable to connect to database"

end Sample

/-- The host: one `gather_sample` call for each driver behaviour in `ds`, in order.  What a call
raises is the host's to log; the next call runs in the state the raise left. -/
def run (p : DbParams) : List Driver → World → World
  | [], w => w
  | d :: ds, w => run p ds (gatherSample d p w).state

end ScalyrAgent.Postgres
