import ScalyrAgent.ProcessMetrics.Threads

/-!
# Calls one at a time

`app_race` needs a second thread to take a step between a call's store of `app` and its emit.
This module shows that it is the only way to get one.  When the agent runs each call to its end
before the next starts (`serial`), its threads do exactly what the host of `runHost` does.

* `gather_sample` never reads the samples logged before it (`IgnoresLog`), so a call does the
  same with its instance's log or with the host's shared log in front.
* `run_replicate_step` runs a call's steps in the agent as `runAlone` does, and `run_serialCall`
  ends them where `gather_sample` ends.
* `serial_refines_host`: after a serial schedule the agent and the host have the same
  processes, dicts and tick, each call has one segment, the samples the host's call appended,
  and each instance's log is the segments of its own calls.  `serial_samples_keys` reads off
  that every sample then carries the id of the instance that logged it.
-/

namespace ScalyrAgent.ProcessMetrics

/-! ## `gather_sample` does not read the log -/

/-- The state with the samples `T` logged before its own. -/
def PWorld.retrace (T : List Sample) (w : PWorld) : PWorld := { w with trace := T ++ w.trace }

/-- A result whose state has the samples `T` logged before its own. -/
def retraceResult {α : Type} (T : List Sample) :
    EStateM.Result PyExc PWorld α → EStateM.Result PyExc PWorld α
  | .ok a w => .ok a (w.retrace T)
  | .error e w => .error e (w.retrace T)

@[simp] theorem state_retraceResult {α : Type} (T : List Sample) (r : EStateM.Result PyExc PWorld α) :
    (retraceResult T r).state = r.state.retrace T := by
  cases r <;> rfl

/-- `x` does not read the log: after `T` more samples it does the same, and leaves them in
front of its own. -/
def IgnoresLog {α : Type} (x : PM α) : Prop :=
  ∀ T w, x (w.retrace T) = retraceResult T (x w)

namespace IgnoresLog

variable {α β : Type}

theorem pure' (a : α) : IgnoresLog (pure a : PM α) := fun _ _ => rfl

theorem throw' (e : PyExc) : IgnoresLog (throw e : PM α) := fun _ _ => rfl

theorem bind {x : PM α} {f : α → PM β} (hx : IgnoresLog x) (hf : ∀ a, IgnoresLog (f a)) :
    IgnoresLog (x >>= f) := fun T w => by
  rw [bind_apply, bind_apply, hx]
  cases x w with
  | ok a s => exact hf a T s
  | error e s => rfl

theorem tryCatch {x : PM α} {h : PyExc → PM α} (hx : IgnoresLog x) (hh : ∀ e, IgnoresLog (h e)) :
    IgnoresLog (tryCatch x h) := fun T w => by
  rw [tryCatch_apply, tryCatch_apply, hx]
  cases x w with
  | ok a s => rfl
  | error e s => exact hh e T s

theorem modify {f : PWorld → PWorld} (hf : ∀ T w, f (w.retrace T) = (f w).retrace T) :
    IgnoresLog (modify f : PM PUnit) := fun T w =>
  show EStateM.Result.ok () (f (w.retrace T)) = _ by rw [hf]; rfl

/-- A read of the state that does not look at the log. -/
theorem get_bind {f : PWorld → PM β} (hf : ∀ s, IgnoresLog (f s))
    (hs : ∀ T s, f (s.retrace T) = f s) : IgnoresLog (get >>= f) := fun T w =>
  show f (w.retrace T) (w.retrace T) = retraceResult T (f w w) by rw [hs]; exact hf w T w

end IgnoresLog

section Primitives

variable (sys : System) (id : String)

theorem liftExcept_ignoresLog {α : Type} (x : Except PyExc α) : IgnoresLog (liftExcept x) := by
  cases x
  · exact IgnoresLog.throw' _
  · exact IgnoresLog.pure' _

theorem processCall_ignoresLog (p : Process) (m : Method) : IgnoresLog (processCall p m) :=
  fun T w => by
    dsimp only [processCall, PWorld.retrace]
    cases p.call w.tick m <;> rfl

theorem setProcess_ignoresLog (p : Option Process) : IgnoresLog (setProcess p) :=
  IgnoresLog.modify fun _ _ => rfl

theorem emitValue_ignoresLog (metricName : String) (value : Reply) (extra : PyDict String) :
    IgnoresLog (emitValue metricName value extra) :=
  IgnoresLog.modify fun _ _ => by simp [PWorld.retrace]

theorem gatherMetric_ignoresLog (g : GatherMetric) (p : Process) :
    IgnoresLog (gatherMetric sys g p) :=
  IgnoresLog.bind (processCall_ignoresLog p g.method) fun _ =>
    IgnoresLog.bind (liftExcept_ignoresLog _) fun _ => by
      cases g.transform with
      | none => exact IgnoresLog.pure' _
      | some t =>
        cases t
        exact IgnoresLog.bind (fun _ _ => rfl) fun _ => liftExcept_ignoresLog _

theorem appExtraFields_ignoresLog : ∀ ref, IgnoresLog (appExtraFields id ref)
  | some _ => IgnoresLog.bind (IgnoresLog.modify fun _ _ => rfl) fun _ =>
    IgnoresLog.get_bind (fun _ => IgnoresLog.pure' _) fun _ _ => rfl
  | none => IgnoresLog.pure' _

theorem emitMetrics_ignoresLog : ∀ ms, IgnoresLog (emitMetrics sys id ms)
  | [] => IgnoresLog.pure' _
  | metric :: rest => IgnoresLog.get_bind (fun s => by
      cases s.process with
      | none => exact IgnoresLog.pure' _
      | some p =>
        exact IgnoresLog.bind (gatherMetric_ignoresLog sys metric.dispatch p) fun _ =>
          IgnoresLog.bind (appExtraFields_ignoresLog id _) fun _ =>
          IgnoresLog.bind (emitValue_ignoresLog _ _ _) fun _ => emitMetrics_ignoresLog rest)
    fun _ _ => rfl

/-- `gather_sample` does the same after any samples, and leaves them in front of its own. -/
theorem gatherSample_ignoresLog (cfg : Config) : IgnoresLog (gatherSample cfg sys) :=
  IgnoresLog.tryCatch (IgnoresLog.bind (IgnoresLog.bind (liftExcept_ignoresLog _) fun _ =>
      setProcess_ignoresLog _) fun _ => emitMetrics_ignoresLog sys cfg.id metrics)
    fun e => by
      split
      · exact setProcess_ignoresLog none
      · exact IgnoresLog.throw' e

end Primitives

/-! ## A call with no other thread in between -/

section Agent

variable (cfg : Nat → Config) {i : Nat} {s : System}

@[simp] theorem Agent.after_world (a : Agent) (pc : Pc) (w : PWorld) :
    (a.after i s pc w).world i = w := by
  simp [Agent.after, Agent.world]

@[simp] theorem Agent.after_calls (a : Agent) (pc : Pc) (w : PWorld) :
    (a.after i s pc w).calls i = some (s, pc) := by
  simp [Agent.after]

@[simp] theorem Agent.after_after (a : Agent) (pc pc' : Pc) (w w' : PWorld) :
    (a.after i s pc w).after i s pc' w' = a.after i s pc' w' := by
  simp [Agent.after]

/-- A step that leaves the call and the state as they were changes nothing. -/
theorem Agent.after_self {a : Agent} {pc : Pc} (h : a.calls i = some (s, pc)) :
    a.after i s pc (a.world i) = a := by
  rcases a with ⟨processes, calls, logs, heap, tick⟩
  simp only [Agent.after, Agent.world, Function.update_eq_self, ← h]

/-- The steps of instance `i` with no other thread in between run its call as `runAlone` does;
a step that raises ends the call. -/
theorem run_replicate_step : ∀ (n : Nat) (a : Agent) (pc : Pc), a.calls i = some (s, pc) →
    a.run cfg (List.replicate n (.step i)) = match runAlone (cfg i) s n pc (a.world i) with
      | .ok pc' w => a.after i s pc' w
      | .error e w => a.after i s (.done (some e)) w
  | 0, _, _, h => (Agent.after_self h).symm
  | n + 1, a, pc, h => by
    rw [List.replicate_succ, Agent.run_cons, runAlone_succ]
    cases hs : pc.step (cfg i) s (a.world i) with
    | ok pc' w =>
      rw [Agent.exec_step h hs, run_replicate_step n _ pc' (Agent.after_calls a pc' w),
        Agent.after_world]
      dsimp only
      cases runAlone (cfg i) s n pc' w <;> exact Agent.after_after ..
    | error e w =>
      have hx : a.exec cfg (.step i) = a.after i s (.done (some e)) w := by
        simp only [Agent.exec, h, hs]
      rw [hx, run_replicate_step n _ _ (Agent.after_calls a _ w), Agent.after_world, runAlone_done]
      exact Agent.after_after ..

/-- A call of instance `i`: its start, then the steps it takes. -/
def serialCall (i : Nat) (sys : System) : List Action :=
  .start i sys :: List.replicate (3 * metrics.length + 2) (.step i)

/-- A call started when instance `i` has none running, and given its steps with no other thread
in between, ends where `gather_sample` ends. -/
theorem run_serialCall {a : Agent} (hidle : a.busy i = false) :
    ∃ r, a.run cfg (serialCall i s) = a.after i s (.done r) (gatherSample (cfg i) s (a.world i)).state := by
  have hstart : a.exec cfg (.start i s) =
      { a with calls := Function.update a.calls i (some (s, .select)) } := by
    simp only [Agent.exec, hidle]
    rfl
  have hsel := runAlone_select (cfg i) s (a.world i) 0
  rw [Nat.zero_add] at hsel
  rw [serialCall, Agent.run_cons, hstart,
    run_replicate_step cfg _ _ .select (Function.update_same i _ a.calls),
    show ({ a with calls := Function.update a.calls i (some (s, .select)) } : Agent).world i =
      a.world i from rfl, hsel]
  cases gatherSample (cfg i) s (a.world i) with
  | ok _ w => exact ⟨none, by simp [Agent.after, finish, EStateM.Result.state]⟩
  | error e w => exact ⟨some e, by simp [Agent.after, finish, EStateM.Result.state]⟩

end Agent

/-! ## Serial schedules refine the host -/

/-- A serial schedule: each call of `calls` starts, then takes the steps that end it, with no
other thread in between. -/
def serial (calls : List (Nat × System)) : List Action :=
  calls.flatMap fun c => serialCall c.1 c.2

/-- The agent after a serial schedule and the host after the same calls, with `segs` the
samples of each call: the same processes, dicts and tick, no call running, the host's samples
the calls' in order, and each instance's log those of its own calls.  The dicts hold the items
of their literals and the ids of the calls so far, and each call's samples carry its own id. -/
structure SerialOf (cfg : Nat → Config) (h : Host) (a : Agent) (segs : List (Nat × List Sample)) :
    Prop where
  processes : a.processes = h.processes
  heap : a.heap = h.heap
  tick : a.tick = h.tick
  idle : ∀ i, a.busy i = false
  trace : h.trace = (segs.map Prod.snd).flatten
  logs : ∀ i, a.logs i = ((segs.filter (·.1 == i)).map Prod.snd).flatten
  app : AppOf (segs.map fun c => (cfg c.1).id) h.heap
  keys : ∀ c ∈ segs, ∀ x ∈ c.2, ∃ l ∈ metricLiterals,
    x.keys = (l.metricName, l.extraFields ++ [("app", (cfg c.1).id)])

theorem SerialOf.init (cfg : Nat → Config) : SerialOf cfg Host.init Agent.init [] :=
  ⟨rfl, rfl, rfl, fun _ => rfl, rfl, fun _ => rfl, AppOf.init [], fun _ h => (by cases h)⟩

theorem AppOf.mono {ids ids' : List String} {heap : Heap} (h : AppOf ids heap)
    (hs : ∀ x ∈ ids, x ∈ ids') : AppOf ids' heap := fun r =>
  (h r).imp_right fun ⟨x, hx, he⟩ => ⟨x, hs x hx, he⟩

/-- From a table of that shape, a call of instance `i` that starts with no sample logged emits
samples that carry their literal's items and the id of `i`. -/
theorem gatherSample_own_keys {ids : List String} {cfg : Config} (sys : System) {w0 : PWorld}
    (hw : AppOf ids w0.heap) (ht : w0.trace = []) :
    ∀ x ∈ (gatherSample cfg sys w0).state.trace, ∃ l ∈ metricLiterals,
      x.keys = (l.metricName, l.extraFields ++ [("app", cfg.id)]) := by
  obtain ⟨k, -, seg, hseg, hk⟩ := gatherSample_prefix cfg sys w0
  intro x hx
  rw [hseg, ht, List.nil_append] at hx
  obtain ⟨m, hm, hmx⟩ : ∃ m ∈ metrics.take k, x.keys = (m.metricName, sampleExtra cfg.id w0.heap m.extraFields) := by
    have := List.mem_map_of_mem Sample.keys hx
    rw [hk, sampleKeys, List.mem_map] at this
    obtain ⟨m, hm, he⟩ := this
    exact ⟨m, hm, he.symm⟩
  obtain ⟨l, hl, he⟩ := metrics_sample (List.mem_of_mem_take hm) cfg.id
  refine ⟨l, hl, hmx.trans (Eq.trans ?_ he)⟩
  rcases m.extraFields with _ | r
  · rfl
  · exact congrArg _ ((hw.set_app cfg.id r).trans
      (PyDict.set_of_not_mem (app_not_mem_moduleHeap r) _).symm)

section Serial

variable {cfg : Nat → Config} {h : Host} {a : Agent} {segs : List (Nat × List Sample)}

/-- One more call of the host is one more serial call of the agent, whose samples go to the
log of the instance that made it. -/
theorem SerialOf.call (hs : SerialOf cfg h a segs) (i : Nat) (sys : System) :
    ∃ seg, SerialOf cfg (runHost cfg [(i, sys)] h) (a.run cfg (serialCall i sys))
      (segs ++ [(i, seg)]) := by
  let w0 : PWorld := ⟨h.processes i, h.heap, h.tick, []⟩
  have hh : h.world i = w0.retrace h.trace := by simp [Host.world, PWorld.retrace, w0]
  have ha : a.world i = w0.retrace (a.logs i) := by
    simp [Agent.world, PWorld.retrace, w0, hs.processes, hs.heap, hs.tick]
  obtain ⟨r, hrun⟩ := run_serialCall cfg (s := sys) (hs.idle i)
  set W := (gatherSample (cfg i) sys w0).state with hW
  have hhost : runHost cfg [(i, sys)] h = h.after i (W.retrace h.trace) := by
    rw [hW, ← state_retraceResult, ← gatherSample_ignoresLog, ← hh]
    rfl
  have hagent : a.run cfg (serialCall i sys) = a.after i sys (.done r) (W.retrace (a.logs i)) := by
    rw [hrun, ha, gatherSample_ignoresLog, state_retraceResult]
  refine ⟨W.trace, ?_⟩
  rw [hhost, hagent]
  have happ : AppOf ((segs ++ [(i, W.trace)]).map fun c => (cfg c.1).id) W.heap :=
    (hs.app.mono fun x hx => by simp [hx]).gatherSample sys rfl (by simp)
  refine ⟨?_, rfl, rfl, fun j => ?_, ?_, fun j => ?_, happ, fun c hc x hx => ?_⟩
  · simp [Agent.after, Host.after, PWorld.retrace, hs.processes]
  · by_cases hj : j = i
    · subst hj
      simp [Agent.busy, Agent.after, Pc.running]
    · simpa [Agent.busy, Agent.after, Function.update_noteq hj] using hs.idle j
  · simp [Host.after, PWorld.retrace, hs.trace]
  · by_cases hj : j = i
    · subst hj
      simp [Agent.after, PWorld.retrace, hs.logs, List.filter_append]
    · simp [Agent.after, Function.update_noteq hj, hs.logs, List.filter_append, Ne.symm hj]
  · rcases List.mem_append.1 hc with hc | hc
    · exact hs.keys c hc x hx
    · obtain rfl := List.mem_singleton.1 hc
      exact gatherSample_own_keys sys hs.app rfl x hx

/-- Every further list of calls, run by the host and as a serial schedule by the agent, keeps
the two in step, with one segment per call: the samples the host's call appended. -/
theorem SerialOf.run : ∀ (calls : List (Nat × System)) {h : Host} {a : Agent}
    {segs : List (Nat × List Sample)}, SerialOf cfg h a segs →
      ∃ segs', segs'.map Prod.fst = calls.map Prod.fst ∧
        (∀ k, (runHost cfg (calls.take k) h).trace =
          h.trace ++ ((segs'.take k).map Prod.snd).flatten) ∧
        SerialOf cfg (runHost cfg calls h) (a.run cfg (serial calls)) (segs ++ segs')
  | [], _, _, _, hs => ⟨[], rfl, fun _ => by simp [runHost], by simpa using hs⟩
  | (i, sys) :: calls, h, a, _, hs => by
    obtain ⟨seg, hc⟩ := hs.call i sys
    obtain ⟨segs', hf, hpre, hr⟩ := SerialOf.run calls hc
    have hone : (runHost cfg [(i, sys)] h).trace = h.trace ++ seg := by
      rw [hc.trace, hs.trace]
      simp
    refine ⟨(i, seg) :: segs', by simp [hf], fun k => ?_, ?_⟩
    · cases k with
      | zero => simp [runHost]
      | succ k =>
        rw [List.take_succ_cons, List.take_succ_cons, show runHost cfg ((i, sys) :: calls.take k) h =
          runHost cfg (calls.take k) (runHost cfg [(i, sys)] h) from rfl, hpre k, hone]
        simp
    · rw [show serial ((i, sys) :: calls) = serialCall i sys ++ serial calls from rfl, Agent.run,
        List.foldl_append]
      simpa using hr

end Serial

/-- After every serial schedule, the agent's threads have done what the host does for the same
calls: the same processes, dicts and tick, with no call running.  There is one segment per call,
the samples the host's call appended (the first `k` calls of the host log the first `k`
segments), and each instance's log holds the segments of its own calls, in order. -/
theorem serial_refines_host (cfg : Nat → Config) (calls : List (Nat × System)) :
    ∃ segs, segs.map Prod.fst = calls.map Prod.fst ∧
      (∀ k, (runHost cfg (calls.take k) Host.init).trace = ((segs.take k).map Prod.snd).flatten) ∧
      SerialOf cfg (runHost cfg calls Host.init) (Agent.init.run cfg (serial calls)) segs :=
  (SerialOf.init cfg).run calls

/-- Under every serial schedule, every sample an instance's logger wrote carries its entry's
literal items and `app` set to the id of that instance. -/
theorem serial_samples_keys (cfg : Nat → Config) (calls : List (Nat × System)) (i : Nat) :
    ∀ s ∈ (Agent.init.run cfg (serial calls)).logs i, ∃ l ∈ metricLiterals,
      s.keys = (l.metricName, l.extraFields ++ [("app", (cfg i).id)]) := by
  obtain ⟨segs, -, -, hs⟩ := (SerialOf.init cfg).run calls
  intro x hx
  rw [hs.logs i, List.mem_flatten] at hx
  obtain ⟨seg, hseg, hx⟩ := hx
  obtain ⟨c, hc, rfl⟩ := List.mem_map.1 hseg
  obtain ⟨hcs, hci⟩ := List.mem_filter.1 hc
  obtain ⟨l, hl, hk⟩ := hs.keys c hcs x hx
  exact ⟨l, hl, by rw [hk, beq_iff_eq.1 hci]⟩

set_option maxRecDepth 4000 in
/-- The calls of `iis` and then `web`, one at a time: the sample of `iis` carries `iis`, though
the dict it came from now holds `web`. -/
theorem serial_samples_keys_iisWeb :
    (("winproc.cpu", .num 12, [("type", "user"), ("app", "iis")]) : Sample) ∈
        (Agent.init.run iisWeb (serial [(0, agentSystem), (1, agentSystem)])).logs 0 ∧
      ∃ l ∈ metricLiterals, Sample.keys ("winproc.cpu", .num 12, [("type", "user"), ("app", "iis")]) =
        (l.metricName, l.extraFields ++ [("app", (iisWeb 0).id)]) :=
  have hm : (("winproc.cpu", .num 12, [("type", "user"), ("app", "iis")]) : Sample) ∈
      (Agent.init.run iisWeb (serial [(0, agentSystem), (1, agentSystem)])).logs 0 := by
    decide
  ⟨hm, serial_samples_keys iisWeb _ 0 _ hm⟩

end ScalyrAgent.ProcessMetrics
