import ScalyrAgent.ProcessMetrics.Monitor

/-!
# Many instances sharing the table

The agent runs one `ProcessMonitor` per configured process, and every instance walks the same
module-level `METRICS`.  `runHost` is that host: each instance has its own configuration and
`__process`, all of them share the module's dict objects, and each call runs against a system
of its own.  The calls of different instances run one after the other here; the agent runs each
monitor on a thread of its own, so this is one of the orders the agent can take.

The write `extra_fields["app"] = self.__id` goes to the dict the table holds, so the table does
not keep the items it had at load.  What it keeps is this, `AppOf`: every dict holds the items of
its literal, and at most the key `app` after them, set to the id of one of the instances that ran.
Since the write comes before the emit, every sample still carries its own instance's id.

* `runHost_appOf`: every run keeps `AppOf` of the ids of its instances.
* `sampleKeys_of_appOf`: from a table of that shape, a full call emits every entry's literal
  items and `app`.
* `runHost_live_heap`: a call of an instance against a live process sets `app` in every dict.
-/

namespace ScalyrAgent.ProcessMetrics

/-! ## The host -/

/-- The module and its instances between calls: the `__process` of each instance, the dict
objects and the samples. -/
structure Host where
  processes : Nat → Option Process
  heap : Heap
  tick : Nat
  trace : List Sample

/-- The module as it loads, before any instance has run. -/
def Host.init : Host := ⟨fun _ => none, moduleHeap, 0, []⟩

/-- The state a call of instance `i` runs in. -/
def Host.world (h : Host) (i : Nat) : PWorld := ⟨h.processes i, h.heap, h.tick, h.trace⟩

/-- The host after a call of instance `i` left the state `w`. -/
def Host.after (h : Host) (i : Nat) (w : PWorld) : Host :=
  ⟨Function.update h.processes i w.process, w.heap, w.tick, w.trace⟩

/-- The host: each call `(i, sys)` is a `gather_sample` of instance `i`, with configuration
`cfg i`, against the system `sys`.  What a call raises is the host's to log. -/
def runHost (cfg : Nat → Config) : List (Nat × System) → Host → Host
  | [], h => h
  | (i, sys) :: calls, h =>
    runHost cfg calls (h.after i (gatherSample (cfg i) sys (h.world i)).state)

theorem runHost_append (cfg : Nat → Config) :
    ∀ (calls more : List (Nat × System)) (h : Host),
      runHost cfg (calls ++ more) h = runHost cfg more (runHost cfg calls h)
  | [], _, _ => rfl
  | _ :: calls, more, _ => runHost_append cfg calls more _

/-! ## What the table holds -/

/-- Every dict holds the items of its literal, and at most the key `app` after them, set to one
of `ids`. -/
def AppOf (ids : List String) (heap : Heap) : Prop :=
  ∀ r, heap r = moduleHeap r ∨ ∃ x ∈ ids, heap r = moduleHeap r ++ [("app", x)]

theorem AppOf.init (ids : List String) : AppOf ids moduleHeap := fun _ => .inl rfl

section AppOf

variable {ids : List String} {heap : Heap} (h : AppOf ids heap)
include h

/-- Setting `app` in a dict of such a table leaves the literal's items and the new id. -/
theorem AppOf.set_app (id : String) (r : Nat) :
    (heap r).set "app" id = moduleHeap r ++ [("app", id)] := by
  rcases h r with h | ⟨x, -, h⟩ <;> rw [h]
  · exact PyDict.set_of_not_mem (app_not_mem_moduleHeap r) _
  · exact PyDict.set_append_self (app_not_mem_moduleHeap r) _ _

theorem AppOf.write {id : String} (hid : id ∈ ids) (ms : List Metric) :
    AppOf ids (appHeap id heap ms) := fun r => by
  unfold appHeap
  split
  · exact .inr ⟨id, hid, h.set_app id r⟩
  · exact h r

/-- A call of an instance whose id is among `ids` keeps the shape. -/
theorem AppOf.gatherSample {cfg : Config} (sys : System) {w : PWorld} (hw : w.heap = heap)
    (hid : cfg.id ∈ ids) : AppOf ids (gatherSample cfg sys w).state.heap := by
  obtain ⟨k, hk, -⟩ := gatherSample_prefix cfg sys w
  rw [hk, hw]
  exact h.write hid _

/-- From such a table, a call through every entry emits, for each, its literal's metric name
and items with `app` set to the caller's id. -/
theorem sampleKeys_of_appOf (id : String) :
    sampleKeys id heap metrics =
      metricLiterals.map fun l => (l.metricName, l.extraFields ++ [("app", id)]) := by
  apply List.ext_getElem?
  intro n
  simp only [sampleKeys, List.getElem?_map, metrics_getElem?, Option.map_map]
  cases hl : metricLiterals[n]? with
  | none => rfl
  | some l =>
    simp only [Option.map_some', Function.comp, sampleExtra, h.set_app, moduleHeap, loadHeap, hl]

end AppOf

/-- Every run keeps the shape, for any set of ids that holds the id of every instance that
runs. -/
theorem runHost_appOf (cfg : Nat → Config) (ids : List String) :
    ∀ (calls : List (Nat × System)) (h : Host), AppOf ids h.heap →
      (∀ c ∈ calls, (cfg c.1).id ∈ ids) → AppOf ids (runHost cfg calls h).heap
  | [], _, hh, _ => hh
  | (i, sys) :: calls, _, hh, hids =>
    runHost_appOf cfg ids calls _ (hh.gatherSample sys rfl (hids (i, sys) (List.mem_cons_self _ _)))
      fun c hc => hids c (List.mem_cons_of_mem _ hc)

/-- A call of instance `i` whose target is a live process sets `app` in every dict to the id
of `i`. -/
theorem runHost_live_heap {cfg : Nat → Config} {i : Nat} {sys : System} {p : Process}
    (ht : targetOf (cfg i) sys = .ok (some p)) (hl : Live p) (h : Host) :
    (runHost cfg [(i, sys)] h).heap = appHeap (cfg i).id h.heap metrics := by
  obtain ⟨w, hw, -, ⟨hd, -⟩, -⟩ := gatherSample_live ht (h.world i) hl
  simp only [runHost, hw]
  exact hd

/-! ## Runs -/

/-- In every run from the loaded module, every dict of the table holds the items of its literal,
and at most the key `app` after them, set to the id of one of the instances that ran. -/
theorem run_keeps_literal_items (cfg : Nat → Config) (calls : List (Nat × System)) :
    AppOf (calls.map fun c => (cfg c.1).id) (runHost cfg calls Host.init).heap :=
  runHost_appOf cfg _ calls Host.init (AppOf.init _) fun _ hc => List.mem_map_of_mem _ hc

/-- After any run, a call of instance `i` against a live process emits one sample for each entry
of the table, with the entry's metric name, the value the entry's method and attribute read from
the process at the tick of that read (the first at the tick the call starts at), and the items of
its literal with `app` set to the id of `i`: whatever the other instances wrote into the dicts,
the samples carry the right id. -/
theorem run_live_call_samples (cfg : Nat → Config) (calls : List (Nat × System)) (i : Nat)
    (sys : System) {p : Process} (ht : targetOf (cfg i) sys = .ok (some p)) (hl : Live p) :
    ∃ seg, (runHost cfg (calls ++ [(i, sys)]) Host.init).trace =
        (runHost cfg calls Host.init).trace ++ seg ∧
      seg.map Sample.keys =
        metricLiterals.map (fun l => (l.metricName, l.extraFields ++ [("app", (cfg i).id)])) ∧
      ReadFrom sys p (runHost cfg calls Host.init).tick (seg.map (·.2.1))
        (metricLiterals.map (·.dispatch)) := by
  have hA := runHost_appOf cfg (calls.map fun c => (cfg c.1).id) calls Host.init (AppOf.init _)
    fun _ hc => List.mem_map_of_mem _ hc
  obtain ⟨w, hw, -, ⟨-, seg, htr, hk⟩, seg', htr', hv⟩ :=
    gatherSample_live ht ((runHost cfg calls Host.init).world i) hl
  obtain rfl : seg' = seg := List.append_cancel_left (htr'.symm.trans htr)
  refine ⟨seg', ?_, hk.trans (sampleKeys_of_appOf hA _), hv⟩
  rw [runHost_append]
  simp only [runHost, hw]
  exact htr

/-- Two instances watching the agent's own process (`pid: $$`), with ids `iis` and `web`. -/
def iisWeb : Nat → Config
  | 0 => ⟨none, some "$$", "iis"⟩
  | _ => ⟨none, some "$$", "web"⟩

theorem live_call_samples_iisWeb :
    targetOf (iisWeb 1) agentSystem = .ok (some liveProcess) ∧ Live liveProcess ∧
      ∃ seg, (runHost iisWeb ([(0, agentSystem)] ++ [(1, agentSystem)]) Host.init).trace =
          (runHost iisWeb [(0, agentSystem)] Host.init).trace ++ seg ∧
        seg.map Sample.keys =
          metricLiterals.map (fun l => (l.metricName, l.extraFields ++ [("app", "web")])) ∧
        ReadFrom agentSystem liveProcess (runHost iisWeb [(0, agentSystem)] Host.init).tick
          (seg.map (·.2.1)) (metricLiterals.map (·.dispatch)) :=
  ⟨rfl, liveProcess_live,
    @run_live_call_samples iisWeb [(0, agentSystem)] 1 agentSystem liveProcess rfl
      liveProcess_live⟩

/-- Two calls, one of each instance: the dict of the first entry of `METRICS`, loaded as
`{"type": "user"}`, ends up with the key `app` set to the second instance's id. -/
theorem metrics_extra_fields_overwritten :
    metrics[0]?.map (·.extraFields) = some (some 0) ∧ moduleHeap 0 = [("type", "user")] ∧
      (runHost iisWeb [(0, agentSystem), (1, agentSystem)] Host.init).heap 0 =
        [("type", "user"), ("app", "web")] := by
  refine ⟨rfl, rfl, ?_⟩
  rw [show [(0, agentSystem), (1, agentSystem)] = [(0, agentSystem)] ++ [(1, agentSystem)] from rfl,
    runHost_append, @runHost_live_heap iisWeb 1 agentSystem liveProcess rfl liveProcess_live,
    @runHost_live_heap iisWeb 0 agentSystem liveProcess rfl liveProcess_live]
  decide

end ScalyrAgent.ProcessMetrics
