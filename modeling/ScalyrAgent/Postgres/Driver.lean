import ScalyrAgent.Triple
import ScalyrAgent.Postgres.Timestamp

/-!
# pg8000 as `PostgreSQLDb` sees it

`PostgreSQLDb` holds two fields, `_db` (a pg8000 connection) and `_cursor` (a cursor of it),
and makes seven kinds of call into pg8000: `pg8000.connect`, `Connection.cursor`,
`Cursor.execute`, `Cursor.description`, `Cursor.fetchone`, `Cursor.close` and
`Connection.close`.  Every one of them may return or raise.

The model of the driver and the server behind it is an oracle, `Driver`: one function per kind
of call, which gets the number of driver calls made so far (`World.tick`) and the call's
arguments.  The tick grows at every call, so a `Driver` may answer each call differently, and
every behaviour of pg8000 over one `gather_sample` call is a `Driver`.  The host runs each call
with a `Driver` of its own (`Monitor.run`), so the calls of a run are unconstrained too.

`World` is the state a call runs in: the two fields of `PostgreSQLDb`, the connections pg8000
holds open, and the trace of everything observable the monitor has done: each driver call with
the exception it raised, each sample it emitted and each line it logged.

* `driverCall` is the one primitive the seven calls are made of, and `driverCall_triple` its
  specification in weakest-precondition form.  Each call's own specification is read off it.
* `Exc` sorts exceptions by the three `except` clauses of the source: `pg8000.Error`,
  `pg8000.OperationalError` and `Exception`.
-/

namespace ScalyrAgent.Postgres

/-! ## Exceptions and values -/

/-- An exception, by where it sits among the classes the handlers of `postgres_monitor` test.
`text` is its `str`. -/
inductive Exc where
  /-- `pg8000.OperationalError` with the arguments `(errcode, msg)` the handlers unpack. -/
  | operational (errcode : Int) (text : String)
  /-- Another subclass of `pg8000.Error` (`InterfaceError`, `ProgrammingError`, ...). -/
  | pg (cls text : String)
  /-- An `Exception` outside `pg8000.Error`: `socket.error`, `TypeError`, `AttributeError`, or
  an `Exception` the monitor raises itself. -/
  | exception (cls text : String)
  /-- A `BaseException` outside `Exception`, such as `KeyboardInterrupt`. -/
  | base (cls text : String)
  deriving DecidableEq, Repr

namespace Exc

/-- `except pg8000.Error`. -/
def isPgError : Exc → Bool
  | .operational .. | .pg .. => true
  | _ => false

/-- `except Exception`. -/
def isException : Exc → Bool
  | .base .. => false
  | _ => true

/-- `str(e)`. -/
def str : Exc → String
  | .operational _ t | .pg _ t | .exception _ t | .base _ t => t

/-- The name of the class of `e`, which `sys.exc_info()[0]` renders. -/
def cls : Exc → String
  | .operational .. => "OperationalError"
  | .pg c _ | .exception c _ | .base c _ => c

end Exc

/-- A column value as pg8000 returns it. -/
inductive Value where
  /-- SQL `NULL`, Python `None`. -/
  | null
  /-- An `int` or `long`: counters and sizes. -/
  | int (n : Int)
  /-- A `str` or `unicode`. -/
  | text (s : String)
  /-- A `datetime`: the type of `timestamp` and `timestamptz` columns. -/
  | datetime (dt : Datetime)
  /-- Any other value (`float`, `Decimal`, ...), passed on and never inspected. -/
  | other (repr : String)
  deriving DecidableEq, Repr

/-- A row as `fetchone` returns it. -/
abbrev Row := List Value

/-! ## Connections, cursors and the trace -/

/-- A pg8000 `Connection`, by the number of the `connect` call that opened it. -/
structure Conn where
  id : Nat
  deriving DecidableEq, Repr

/-- A pg8000 `Cursor`, by the connection it was made from. -/
structure Cursor where
  conn : Conn
  deriving DecidableEq, Repr

/-- Extra fields of an emitted sample, `None` or a dict of strings. -/
abbrev ExtraFields := Option (List (String × String))

/-- One observable thing the monitor did.  A driver call carries the exception it raised,
`none` when it returned. -/
inductive Event where
  /-- `pg8000.connect`; `c` is the connection it opens, when it returns. -/
  | connect (c : Conn) (raised : Option Exc)
  | cursor (c : Conn) (raised : Option Exc)
  | execute (cur : Cursor) (sql : String) (raised : Option Exc)
  /-- `cursor.description`, of the statement `sql` the cursor last ran. -/
  | description (cur : Cursor) (sql : String) (raised : Option Exc)
  /-- `cursor.fetchone()`, from the statement `sql` the cursor last ran. -/
  | fetchone (cur : Cursor) (sql : String) (raised : Option Exc)
  | closeCursor (cur : Cursor) (raised : Option Exc)
  | closeConn (c : Conn) (raised : Option Exc)
  /-- `self._logger.emit_value(metric, value, extra_fields)`. -/
  | emit (metric : String) (value : Value) (extra : ExtraFields)
  | warning (msg : String)
  | error (msg : String)
  deriving DecidableEq, Repr

/-- The `port` argument of `pg8000.connect`: the number `5432` by default, else the configured
string. -/
inductive Port where
  | number (n : Nat)
  | text (s : String)
  deriving DecidableEq, Repr

/-- The constructor arguments of `PostgreSQLDb`, passed on to `pg8000.connect`. -/
structure DbParams where
  host : String
  port : Port
  database : String
  username : String
  password : String
  deriving DecidableEq, Repr

/-- pg8000 and the server: the answer to each call, given the number of driver calls before it
and the call's arguments.  `description` and `fetchone` also get the statement the cursor last
ran, which is what pg8000 answers them from. -/
structure Driver where
  connect : Nat → DbParams → Except Exc Unit
  cursor : Nat → Conn → Except Exc Unit
  execute : Nat → Cursor → String → Except Exc Unit
  description : Nat → Cursor → String → Except Exc (List String)
  fetchone : Nat → Cursor → String → Except Exc (Option Row)
  closeCursor : Nat → Cursor → Except Exc Unit
  closeConn : Nat → Conn → Except Exc Unit

/-- The state a `gather_sample` call runs in. -/
structure World where
  /-- `PostgreSQLDb._db`. -/
  db : Option Conn
  /-- `PostgreSQLDb._cursor`. -/
  cursor : Option Cursor
  /-- The connections pg8000 holds open: opened and not closed by the monitor.  CPython may also
  close a connection the monitor dropped every reference to, when its collector finalizes it;
  the model does not follow the collector, and a connection here is one the monitor never
  closed. -/
  openConns : List Conn
  /-- The number of `connect` calls made, which numbers the next connection. -/
  fresh : Nat
  /-- The number of driver calls made. -/
  tick : Nat
  /-- The statement the cursor last ran. -/
  pending : String
  /-- Everything observable, oldest first. -/
  trace : List Event

/-- `PostgreSQLDb` before any call: no connection, nothing done. -/
def World.init : World := ⟨none, none, [], 0, 0, "", []⟩

/-- The programs of the model: Python methods of `PostgreSQLDb` and `PostgresMonitor`. -/
abbrev PgM := EStateM Exc World

/-! ## The driver calls -/

/-- One call into pg8000: the driver's answer at this tick, the event that records the call,
and what a call that returns does to the world. -/
def driverCall {α : Type} (answer : Nat → Except Exc α) (event : Option Exc → Event)
    (onOk : α → World → World) : PgM α := fun w =>
  match answer w.tick with
  | .ok a => .ok a (onOk a { w with tick := w.tick + 1, trace := w.trace ++ [event none] })
  | .error e => .error e { w with tick := w.tick + 1, trace := w.trace ++ [event (some e)] }

/-- What a driver call needs of the state before it, for each answer the driver may give. -/
theorem driverCall_triple {α : Type} {answer : Nat → Except Exc α} {event : Option Exc → Event}
    {onOk : α → World → World} {Q : α → World → Prop} {E : Exc → World → Prop} :
    Triple (fun w =>
        (∀ a, answer w.tick = .ok a →
          Q a (onOk a { w with tick := w.tick + 1, trace := w.trace ++ [event none] })) ∧
        (∀ e, answer w.tick = .error e →
          E e { w with tick := w.tick + 1, trace := w.trace ++ [event (some e)] }))
      (driverCall answer event onOk) Q E := by
  intro w ⟨hok, herr⟩
  show EStateM.Result.Holds Q E (driverCall answer event onOk w)
  unfold driverCall
  cases h : answer w.tick with
  | ok a => exact hok a h
  | error e => exact herr e h

section Calls

variable (d : Driver)

/-- `pg8000.connect(user=..., host=..., port=..., database=..., password=...)`: a new
connection, open when the call returns. -/
def pgConnect (p : DbParams) : PgM Conn := do
  let c : Conn := ⟨(← get).fresh⟩
  modify fun w => { w with fresh := w.fresh + 1 }
  driverCall (d.connect · p) (.connect c) fun _ w => { w with openConns := c :: w.openConns }
  pure c

/-- `conn.cursor()`. -/
def connCursor (c : Conn) : PgM Cursor := do
  driverCall (d.cursor · c) (.cursor c) fun _ w => w
  pure ⟨c⟩

/-- `cursor.execute(sql)`. -/
def cursorExecute (cur : Cursor) (sql : String) : PgM Unit :=
  driverCall (d.execute · cur sql) (.execute cur sql) fun _ w => { w with pending := sql }

/-- `cursor.description`, as the list of the column names `desc[0]`. -/
def cursorDescription (cur : Cursor) : PgM (List String) := do
  let sql := (← get).pending
  driverCall (d.description · cur sql) (.description cur sql) fun _ w => w

/-- `cursor.fetchone()`: the next row, `None` when there is none. -/
def cursorFetchone (cur : Cursor) : PgM (Option Row) := do
  let sql := (← get).pending
  driverCall (d.fetchone · cur sql) (.fetchone cur sql) fun _ w => w

/-- `cursor.close()`. -/
def cursorClose (cur : Cursor) : PgM Unit :=
  driverCall (d.closeCursor · cur) (.closeCursor cur) fun _ w => w

/-- `conn.close()`: the connection is no longer open when the call returns. -/
def connClose (c : Conn) : PgM Unit :=
  driverCall (d.closeConn · c) (.closeConn c) fun _ w => { w with openConns := w.openConns.erase c }

end Calls

/-! ## The logger and the fields of `PostgreSQLDb` -/

/-- Appends one event to the trace. -/
def record (e : Event) : PgM Unit :=
  modify fun w => { w with trace := w.trace ++ [e] }

/-- `self._logger.emit_value(metric, value, extra)`. -/
def emitValue (metric : String) (value : Value) (extra : ExtraFields) : PgM Unit :=
  record (.emit metric value extra)

/-- `self._logger.warning(msg)`. -/
def logWarning (msg : String) : PgM Unit := record (.warning msg)

/-- `self._logger.error(msg)`. -/
def logError (msg : String) : PgM Unit := record (.error msg)

/-- `self._cursor.attr`: `AttributeError` when `_cursor` is `None`. -/
def liveCursor (attr : String) : PgM Cursor := do
  match (← get).cursor with
  | some cur => pure cur
  | none => throw (.exception "AttributeError" ("'NoneType' object has no attribute '" ++ attr ++ "'"))

/-- `self._db = c`. -/
def setDb (c : Option Conn) : PgM Unit := modify fun w => { w with db := c }

/-- `self._cursor = cur`. -/
def setCursor (cur : Option Cursor) : PgM Unit := modify fun w => { w with cursor := cur }

/-- `raise e` of a value computed by Python code that cannot call the driver. -/
def liftExcept {α : Type} : Except Exc α → PgM α
  | .ok a => pure a
  | .error e => throw e

end ScalyrAgent.Postgres
