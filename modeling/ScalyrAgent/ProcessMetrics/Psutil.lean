import Mathlib.Logic.Function.Basic
import ScalyrAgent.Triple
import ScalyrAgent.PyDict

/-!
# `psutil` as `ProcessMonitor` sees it

`ProcessMonitor` in `windows_process_metrics.py` finds its target process through `psutil`
(`psutil.process_iter()` and `psutil.Process(pid)`), reads it through the methods its metric
table names, reads `time.time()` for the uptime, and emits one sample per metric.

The model of everything outside the monitor is an oracle, `System`, as for the database driver:
the processes `process_iter()` yields, the process of each pid, the agent's own pid, the clock,
and the regular expression engine.  A `Process` says what `name()` and `cmdline()` return or
raise and, for each method of the metric table, what it returns or raises at each tick (the
number of calls made before), so a process may exit between two calls.

`PWorld` is the state a `gather_sample` call runs in: the instance's `__process`, the dict
objects the module allocated at load (`heap`, shared by every instance), and the samples
emitted so far.

* `PyExc` sorts exceptions by the two `except` clauses of the module: `psutil.NoSuchProcess`
  (with its subclass `ZombieProcess`) and `psutil.AccessDenied`.
* `Reply` is what a process method returns: a number, or a named tuple of numbers.  Seconds and
  bytes are integers here; the module only subtracts two of them, in `uptime_from_start_time`.
-/

namespace ScalyrAgent.ProcessMetrics

/-! ## Exceptions, processes and the system -/

/-- An exception, by the clauses of `windows_process_metrics` that test it. -/
inductive PyExc where
  /-- `psutil.NoSuchProcess`, or its subclass `psutil.ZombieProcess`: the process is gone. -/
  | noSuchProcess
  /-- `psutil.AccessDenied`. -/
  | accessDenied
  /-- Any other exception, by its class and message. -/
  | other (cls msg : String)
  deriving DecidableEq, Repr

/-- The methods of `psutil.Process` that the metric table calls. -/
inductive Method where
  | cpuTimes
  | createTime
  | numThreads
  | memoryInfoEx
  | memoryInfo
  | ioCounters
  deriving DecidableEq, Repr

/-- What a method of `psutil.Process` returns: a number, or a named tuple of numbers. -/
inductive Reply where
  | num (v : Int)
  | tuple (fields : List (String × Int))
  deriving DecidableEq, Repr

/-- A `psutil.Process`: its pid, what `name()` and `cmdline()` return or raise, and the answer
of each metric method at each tick. -/
structure Process where
  pid : Int
  name : Except PyExc String
  cmdline : Except PyExc (List String)
  call : Nat → Method → Except PyExc Reply

/-- The system a `gather_sample` call runs against. -/
structure System where
  /-- `psutil.process_iter()`: the processes it yields, in order. -/
  processIter : List Process
  /-- `psutil.Process(pid)`: the process of a pid, or the exception. -/
  process : Int → Except PyExc Process
  /-- `os.getpid()`. -/
  getpid : Int
  /-- `time.time()` at each tick. -/
  time : Nat → Int
  /-- The `re` module: `re.compile(regex, re.IGNORECASE).search(text)` finds a match. -/
  search : String → String → Bool

/-- The options of a `ProcessMonitor` configuration: an option the configuration does not give
is `none`.  `id` is the `__id` that `_initialize` reads. -/
structure Config where
  commandline : Option String
  pid : Option String
  id : String

/-! ## The state of a call -/

/-- An emitted sample: metric, value and extra fields. -/
abbrev Sample := String × Reply × PyDict String

/-- The dict objects of the module, by reference. -/
abbrev Heap := Nat → PyDict String

/-- The state a `gather_sample` call runs in. -/
structure PWorld where
  /-- `ProcessMonitor.__process`. -/
  process : Option Process
  /-- The dict objects of the module. -/
  heap : Heap
  /-- The number of calls into the system made. -/
  tick : Nat
  /-- The samples emitted, oldest first. -/
  trace : List Sample

/-- The programs of the model: Python methods of `ProcessMonitor`. -/
abbrev PM := EStateM PyExc PWorld

/-! ## Primitives -/

/-- `process.method()`, at the current tick. -/
def processCall (p : Process) (m : Method) : PM Reply := fun w =>
  match p.call w.tick m with
  | .ok r => .ok r { w with tick := w.tick + 1 }
  | .error e => .error e { w with tick := w.tick + 1 }

/-- `time.time()`. -/
def timeTime (sys : System) : PM Int := fun w => .ok (sys.time w.tick) { w with tick := w.tick + 1 }

/-- `raise e` of a value computed by Python code that makes no call. -/
def liftExcept {α : Type} : Except PyExc α → PM α
  | .ok a => pure a
  | .error e => throw e

/-- `self.__process = process`. -/
def setProcess (p : Option Process) : PM Unit := modify fun w => { w with process := p }

/-- `d[k] = v` on the dict object `r`. -/
def setItem (r : Nat) (k v : String) : PM Unit :=
  modify fun w => { w with heap := Function.update w.heap r ((w.heap r).set k v) }

/-- The items of the dict object `r`. -/
def readDict (r : Nat) : PM (PyDict String) := do
  pure ((← get).heap r)

/-- `self._logger.emit_value(metric_name, value, extra_fields=extra_fields)`. -/
def emitValue (metricName : String) (value : Reply) (extra : PyDict String) : PM Unit :=
  modify fun w => { w with trace := w.trace ++ [(metricName, value, extra)] }

end ScalyrAgent.ProcessMetrics
