import ScalyrAgent.ProcessMetrics.Psutil

/-!
# The metric table

`METRICS` is data: each entry is a `METRIC_CONFIG` dict and the `gather_metric` function that
`_gather_metric(method, attribute, transform)` builds.  `gather_sample` reads two keys of the
config, `metric_name` and `extra_fields`, and `extra_fields` is itself a dict object: the
literal `extra_fields={"type": "user"}` of the source makes one new dict when the module loads,
which the table entry and `define_metric` both refer to.

So the table is modelled in two parts.  `metricLiterals` is the source text of the four
sub-tables, each entry with its dict literal.  Loading the module (`loadMetrics`, `loadHeap`)
allocates one dict object per literal, the `i`-th at reference `i`, and leaves in each entry
of `metrics` the reference.  What a call later writes into a dict is a write to the heap, and
every holder of the reference sees it.

The keys `description`, `category`, `unit` and `cumulative` are read only by `define_metric`,
which is not part of the module, and are left out.

`ValueOf` is what `gather_metric` returns on a process when it calls the method at a given
tick: the attribute of the reply, and for the uptime the reading of the clock at the next tick
minus that attribute.  `RaisesAt` is what it raises there.  `Live` is a process that answers
every method of the table with a reply the table can read.

* `metrics_getElem?`: the `i`-th entry is the `i`-th literal, with the dict object `i`.
* `metrics_refs_nodup`: no two entries share a dict object.
* `app_not_mem_moduleHeap`: no dict of the loaded module has the key `app`.
-/

namespace ScalyrAgent.ProcessMetrics

/-! ## `_gather_metric` -/

/-- The `transform` arguments the table passes to `_gather_metric`. -/
inductive Transform where
  /-- `uptime_from_start_time`. -/
  | uptimeFromStartTime
  deriving DecidableEq, Repr

/-- The arguments of `_gather_metric(method, attribute, transform)`. -/
structure GatherMetric where
  method : Method
  attr : Option String
  transform : Option Transform
  deriving DecidableEq, Repr

/-- `attrgetter(attr)(value)`. -/
def getAttribute (attr : String) : Reply → Except PyExc Reply
  | .tuple fields =>
    match fields.lookup attr with
    | some v => .ok (.num v)
    | none => .error (.other "AttributeError" ("object has no attribute '" ++ attr ++ "'"))
  | .num _ => .error (.other "AttributeError" ("'float' object has no attribute '" ++ attr ++ "'"))

/-- The `AttributeError` of `attrgetter` names the attribute. -/
theorem getAttribute_error_names {attr : String} {r : Reply} {e : PyExc}
    (h : getAttribute attr r = .error e) :
    ∃ msg, e = .other "AttributeError" msg ∧ attr.data <:+: msg.data := by
  unfold getAttribute at h
  split at h
  · split at h
    · cases h
    · cases h; exact ⟨_, rfl, _, "'".data, rfl⟩
  · cases h; exact ⟨_, rfl, _, "'".data, rfl⟩

/-- `attrgetter(attr)(value)` when the entry names an attribute, else the value itself. -/
def attrValue : Option String → Reply → Except PyExc Reply
  | some a, r => getAttribute a r
  | none, r => .ok r

/-- `uptime_from_start_time(start_time)`: `time.time() - start_time`, with `now` the time. -/
def uptimeFromStartTime (now : Int) : Reply → Except PyExc Reply
  | .num start => .ok (.num (now - start))
  | .tuple _ => .error (.other "TypeError" "unsupported operand type(s) for -: 'float' and 'tuple'")

/-- The `gather_metric(process)` that `_gather_metric` returns: call the method, take the
attribute of its result, apply the transform.  The `assert` on the type of `process` holds of
every `Process`. -/
def gatherMetric (sys : System) (g : GatherMetric) (p : Process) : PM Reply := do
  let r ← processCall p g.method
  let value ← liftExcept (attrValue g.attr r)
  match g.transform with
  | some .uptimeFromStartTime => do
    let now ← timeTime sys
    liftExcept (uptimeFromStartTime now value)
  | none => pure value

/-- A reply `gather_metric` can read: it has the attribute the entry names, and the start time
`uptime_from_start_time` subtracts from is a number. -/
def readable (g : GatherMetric) (r : Reply) : Bool :=
  match attrValue g.attr r, g.transform with
  | .ok _, none => true
  | .ok (.num _), some .uptimeFromStartTime => true
  | _, _ => false

/-- The calls into the system `gather_metric` makes when it returns: the method, and
`time.time()` for `uptime_from_start_time`. -/
def GatherMetric.calls (g : GatherMetric) : Nat :=
  match g.transform with
  | none => 1
  | some .uptimeFromStartTime => 2

/-- `v` is the value `gather_metric` returns on `p` when it calls the method at tick `t`: the
attribute of the reply, and for `uptime_from_start_time` the reading of `time.time()` at the next
tick less that value. -/
def ValueOf (sys : System) (p : Process) (g : GatherMetric) (t : Nat) (v : Reply) : Prop :=
  ∃ r v0, p.call t g.method = .ok r ∧ attrValue g.attr r = .ok v0 ∧
    match g.transform with
    | none => v = v0
    | some .uptimeFromStartTime => uptimeFromStartTime (sys.time (t + 1)) v0 = .ok v

/-- `gather_metric` on `p` raises `e` when it calls the method at tick `t`: the method raises
it, or `attrgetter` does on the reply, or `uptime_from_start_time` does on the attribute. -/
def RaisesAt (sys : System) (p : Process) (g : GatherMetric) (t : Nat) (e : PyExc) : Prop :=
  p.call t g.method = .error e ∨ ∃ r, p.call t g.method = .ok r ∧
    (attrValue g.attr r = .error e ∨ ∃ v0, attrValue g.attr r = .ok v0 ∧
      g.transform = some .uptimeFromStartTime ∧ uptimeFromStartTime (sys.time (t + 1)) v0 = .error e)

/-- A reply the entry can read raises nothing. -/
theorem RaisesAt.not_readable {sys : System} {p : Process} {g : GatherMetric} {t : Nat}
    {e : PyExc} {r : Reply} (h : RaisesAt sys p g t e) (hr : p.call t g.method = .ok r)
    (hread : readable g r = true) : False := by
  rcases h with h | ⟨r', hr', ha | ⟨v0, hv0, htr, hu⟩⟩
  · rw [hr] at h; cases h
  · rw [hr] at hr'; cases hr'
    simp [readable, ha] at hread
  · rw [hr] at hr'; cases hr'
    rw [readable, hv0, htr] at hread
    cases v0 <;> simp [uptimeFromStartTime] at hu hread

/-- The values `vs` are, entry by entry of `gs`, what `gather_metric` returns on `p`: the first
entry calls its method at tick `t`, and each later one after the calls of the entries before
it. -/
def ReadFrom (sys : System) (p : Process) : Nat → List Reply → List GatherMetric → Prop
  | _, [], [] => True
  | t, v :: vs, g :: gs => ValueOf sys p g t v ∧ ReadFrom sys p (t + g.calls) vs gs
  | _, _, _ => False

/-- Only the method raises `NoSuchProcess`: `attrgetter` and the transform raise other
exceptions. -/
theorem RaisesAt.noSuchProcess {sys : System} {p : Process} {g : GatherMetric} {t : Nat}
    (h : RaisesAt sys p g t .noSuchProcess) : p.call t g.method = .error .noSuchProcess := by
  rcases h with h | ⟨r, -, ha | ⟨v0, -, -, hu⟩⟩
  · exact h
  · cases hg : g.attr with
    | none => simp [hg, attrValue] at ha
    | some a =>
      rw [hg, attrValue] at ha
      unfold getAttribute at ha
      split at ha
      · split at ha <;> cases ha
      · cases ha
  · cases v0 <;> cases hu

/-! ## The table as the source writes it -/

/-- A `METRIC(METRIC_CONFIG(...), GATHER_METRIC(...))` literal: the metric name, the
`extra_fields` dict literal and the arguments of `GATHER_METRIC`. -/
structure MetricLiteral where
  metricName : String
  extraFields : PyDict String
  dispatch : GatherMetric

/-- `_PROCESS_CPU_METRICS`. -/
def processCpuMetrics : List MetricLiteral :=
  [{ metricName := "winproc.cpu", extraFields := [("type", "user")],
     dispatch := ⟨.cpuTimes, some "user", none⟩ },
   { metricName := "winproc.cpu", extraFields := [("type", "system")],
     dispatch := ⟨.cpuTimes, some "system", none⟩ }]

/-- `_PROCESS_ATTRIBUTE_METRICS`. -/
def processAttributeMetrics : List MetricLiteral :=
  [{ metricName := "winproc.uptime", extraFields := [],
     dispatch := ⟨.createTime, none, some .uptimeFromStartTime⟩ },
   { metricName := "winproc.threads", extraFields := [],
     dispatch := ⟨.numThreads, none, none⟩ }]

/-- `_PROCESS_MEMORY_METRICS`. -/
def processMemoryMetrics : List MetricLiteral :=
  [{ metricName := "winproc.mem.bytes", extraFields := [("type", "working_set")],
     dispatch := ⟨.memoryInfoEx, some "wset", none⟩ },
   { metricName := "winproc.mem.bytes", extraFields := [("type", "peak_working_set")],
     dispatch := ⟨.memoryInfoEx, some "peak_wset", none⟩ },
   { metricName := "winproc.mem.bytes", extraFields := [("type", "paged_pool")],
     dispatch := ⟨.memoryInfoEx, some "paged_pool", none⟩ },
   { metricName := "winproc.mem.bytes", extraFields := [("type", "peak_paged_pool")],
     dispatch := ⟨.memoryInfoEx, some "peak_paged_pool", none⟩ },
   { metricName := "winproc.mem.bytes", extraFields := [("type", "nonpaged_pool")],
     dispatch := ⟨.memoryInfoEx, some "nonpaged_pool", none⟩ },
   { metricName := "winproc.mem.bytes", extraFields := [("type", "peak_nonpaged_pool")],
     dispatch := ⟨.memoryInfoEx, some "peak_nonpaged_pool", none⟩ },
   { metricName := "winproc.mem.bytes", extraFields := [("type", "pagefile")],
     dispatch := ⟨.memoryInfoEx, some "pagefile", none⟩ },
   { metricName := "winproc.mem.bytes", extraFields := [("type", "peak_pagefile")],
     dispatch := ⟨.memoryInfoEx, some "peak_pagefile", none⟩ },
   { metricName := "winproc.mem.bytes", extraFields := [("type", "rss")],
     dispatch := ⟨.memoryInfo, some "rss", none⟩ },
   { metricName := "winproc.mem.bytes", extraFields := [("type", "vms")],
     dispatch := ⟨.memoryInfo, some "vms", none⟩ }]

/-- `_PROCESS_DISK_IO_METRICS`. -/
def processDiskIoMetrics : List MetricLiteral :=
  [{ metricName := "winproc.disk.ops", extraFields := [("type", "read")],
     dispatch := ⟨.ioCounters, some "read_count", none⟩ },
   { metricName := "winproc.disk.ops", extraFields := [("type", "write")],
     dispatch := ⟨.ioCounters, some "write_count", none⟩ },
   { metricName := "winproc.disk.bytes", extraFields := [("type", "read")],
     dispatch := ⟨.ioCounters, some "read_bytes", none⟩ },
   { metricName := "winproc.disk.bytes", extraFields := [("type", "write")],
     dispatch := ⟨.ioCounters, some "write_bytes", none⟩ }]

/-- The literals of `METRICS`, in the order of its four parts. -/
def metricLiterals : List MetricLiteral :=
  processCpuMetrics ++ processAttributeMetrics ++ processMemoryMetrics ++ processDiskIoMetrics

/-! ## The loaded module -/

/-- A `METRIC` of the loaded module: its metric name, the reference of its `extra_fields` dict
(`None` would be the value `None`), and its gatherer. -/
structure Metric where
  metricName : String
  extraFields : Option Nat
  dispatch : GatherMetric
  deriving DecidableEq, Repr

/-- Loading the module: the dict literal of the `i`-th entry becomes the object `i`. -/
def loadMetrics (lits : List MetricLiteral) : List Metric :=
  lits.enum.map fun (i, l) => ⟨l.metricName, some i, l.dispatch⟩

/-- The dict objects after loading: the `i`-th literal's items at reference `i`. -/
def loadHeap (lits : List MetricLiteral) : Heap := fun r =>
  match lits[r]? with
  | some l => l.extraFields
  | none => []

/-- `METRICS`. -/
def metrics : List Metric := loadMetrics metricLiterals

/-- The dict objects of the module as it loads. -/
def moduleHeap : Heap := loadHeap metricLiterals

/-- Eighteen metrics. -/
theorem length_metrics : metrics.length = 18 := rfl

/-- The entry at position `i` is the `i`-th literal, referring to the object `i`. -/
theorem metrics_getElem? (i : Nat) :
    metrics[i]? = metricLiterals[i]?.map fun l => ⟨l.metricName, some i, l.dispatch⟩ := by
  simp only [metrics, loadMetrics, List.getElem?_map, List.getElem?_enum, Option.map_map]
  rfl

/-- A process that answers every method of the table at every tick with a reply the table can
read. -/
def Live (p : Process) : Prop :=
  ∀ t, ∀ m ∈ metrics,
    ∃ r, p.call t m.dispatch.method = .ok r ∧ readable m.dispatch r = true

theorem metrics_refs_nodup : (metrics.map (·.extraFields)).Nodup := by decide

theorem app_not_mem_moduleHeap (r : Nat) : "app" ∉ (moduleHeap r).map Prod.fst := by
  have hlits : ∀ l ∈ metricLiterals, "app" ∉ l.extraFields.map Prod.fst := by decide
  simp only [moduleHeap, loadHeap]
  split
  · next l hl => exact hlits l (List.mem_iff_getElem?.2 ⟨_, hl⟩)
  · simp

end ScalyrAgent.ProcessMetrics
