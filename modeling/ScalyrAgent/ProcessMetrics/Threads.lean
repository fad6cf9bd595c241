import ScalyrAgent.ProcessMetrics.Host

/-!
# Monitor threads

The agent runs every monitor instance on a thread of its own, and every instance walks the same
`METRICS`, whose entries hold the module's dict objects.  `runHost` runs the calls of the
instances one after the other.  This module lets their steps interleave.

Python runs one thread at a time and may switch threads between two bytecodes.  A call of
`gather_sample` is cut here at the points where what it does can meet what another thread does:
`_select_target_process`, then for each entry the read of `metric_value`, the store
`extra_fields["app"] = self.__id` into the shared dict, and `emit_value`, which reads that dict.
A step reads and writes only the instance's own `__process` and `psutil`, except the store and
the emit, which touch the dict alone.

* `Pc` says where a call stands and `Pc.step` is one step.  `runAlone_select` is the
  refinement: the steps of one call with no other thread in between end exactly as
  `gatherSample` does.
* `Agent` is every instance's `__process`, running call and log, with the shared dicts, and
  `Agent.run` runs any schedule of `Action`s: an instance starts a call once its last one has
  ended, and any running call may take the next step.
* `Safe` is the invariant of every schedule: the dicts keep the items of their literals, and
  every sample carries an entry's metric name with its literal's items and `app` set to the id
  of an instance that ran.  `run_safe` proves it by one step lemma per kind of step.
* `app_race`: the id a sample carries need not be its own instance's.  Whenever two instances
  with different ids watch live processes, some schedule makes the first one emit a sample whose
  `app` is the second one's id.
-/

namespace ScalyrAgent.ProcessMetrics

/-! ## The steps of a call -/

/-- Where a `gather_sample` call stands. -/
inductive Pc where
  /-- Before `_select_target_process`. -/
  | select
  /-- At the top of the loop, with the entries `rest` to go. -/
  | loop (rest : List Metric)
  /-- `metric_value` read for the entry `metric`; the store of `app` is next. -/
  | write (metric : Metric) (v : Reply) (rest : List Metric)
  /-- `app` stored; `emit_value`, which reads the dict, is next. -/
  | emit (metric : Metric) (v : Reply) (rest : List Metric)
  /-- The call has returned, or raised the exception. -/
  | done (raised : Option PyExc)
  deriving DecidableEq

/-- Not yet ended. -/
def Pc.running : Pc → Bool
  | .done _ => false
  | _ => true

/-- The clause `except psutil.NoSuchProcess: self.__process = None`, for a step that raised
`e`: the call ends, returning, or raising `e`. -/
def settle (e : PyExc) : PM Pc :=
  if e = .noSuchProcess then do
    setProcess none
    pure (.done none)
  else pure (.done (some e))

/-- One step of a call with the configuration `cfg` against the system `sys`. -/
def Pc.step (cfg : Config) (sys : System) : Pc → PM Pc
  | .select => tryCatch (do selectTargetProcess cfg sys; pure (.loop metrics)) settle
  | .loop [] => pure (.done none)
  | .loop (metric :: rest) => do
    match (← get).process with
    | none => pure (.done none)
    | some p =>
      tryCatch (do
          let metricValue ← gatherMetric sys metric.dispatch p
          pure (.write metric metricValue rest))
        settle
  | .write metric v rest => do
    match metric.extraFields with
    | some r => setItem r "app" cfg.id
    | none => pure ()
    pure (.emit metric v rest)
  | .emit metric v rest => do
    let extraFields ← match metric.extraFields with
      | some r => readDict r
      | none => pure (PyDict.set [] "app" cfg.id)
    emitValue metric.metricName v extraFields
    pure (.loop rest)
  | .done raised => pure (.done raised)

/-- At most `n` steps of one call, with no other thread in between. -/
def runAlone (cfg : Config) (sys : System) : Nat → Pc → PM Pc
  | 0, pc => pure pc
  | n + 1, pc => do runAlone cfg sys n (← pc.step cfg sys)

/-- How a call ended, as the steps record it: returned, or raised `e`. -/
def finish : EStateM.Result PyExc PWorld Unit → EStateM.Result PyExc PWorld Pc
  | .ok _ w => .ok (.done none) w
  | .error e w => .ok (.done (some e)) w

/-- The end of a loop that returned, or raised `e` into the `except` clause. -/
def settleResult : EStateM.Result PyExc PWorld Unit → EStateM.Result PyExc PWorld Pc
  | .ok _ w => .ok (.done none) w
  | .error e w => settle e w

/-! ## One call alone -/

section Apply

variable {α β : Type}

theorem bind_apply (x : PM α) (f : α → PM β) (w : PWorld) :
    (x >>= f) w = match x w with
      | .ok a s => f a s
      | .error e s => .error e s := by
  show EStateM.bind x f w = _
  unfold EStateM.bind
  cases x w <;> rfl

theorem tryCatch_apply (x : PM α) (h : PyExc → PM α) (w : PWorld) :
    (tryCatch x h) w = match x w with
      | .ok a s => .ok a s
      | .error e s => h e s := by
  show EStateM.tryCatch x h w = _
  unfold EStateM.tryCatch
  cases x w <;> rfl

end Apply

section Alone

variable (cfg : Config) (sys : System)

theorem runAlone_succ (n : Nat) (pc : Pc) (w : PWorld) :
    runAlone cfg sys (n + 1) pc w = match pc.step cfg sys w with
      | .ok pc' w' => runAlone cfg sys n pc' w'
      | .error e w' => .error e w' := by
  rw [runAlone, bind_apply]
  cases Pc.step cfg sys pc w <;> rfl

theorem runAlone_done : ∀ (n : Nat) (r : Option PyExc) (w : PWorld),
    runAlone cfg sys n (.done r) w = .ok (.done r) w
  | 0, _, _ => rfl
  | n + 1, r, w => runAlone_done n r w

/-- After the `except` clause, the call has ended. -/
theorem runAlone_settle (n : Nat) (e : PyExc) (w : PWorld) :
    (match settle e w with
      | .ok pc' w' => runAlone cfg sys n pc' w'
      | .error e w' => .error e w') = settle e w := by
  by_cases he : e = .noSuchProcess
  · rw [settle, if_pos he]
    exact runAlone_done cfg sys n none _
  · rw [settle, if_neg he]
    exact runAlone_done cfg sys n _ w

theorem step_select (w : PWorld) :
    Pc.step cfg sys .select w = match selectTargetProcess cfg sys w with
      | .ok _ w' => .ok (.loop metrics) w'
      | .error e w' => settle e w' := by
  rw [Pc.step, tryCatch_apply, bind_apply]
  cases selectTargetProcess cfg sys w <;> rfl

section Loop

variable (metric : Metric) (rest : List Metric) {w : PWorld}

theorem step_loop_none (hp : w.process = none) :
    Pc.step cfg sys (.loop (metric :: rest)) w = .ok (.done none) w := by
  rcases w with ⟨_ | _, heap, tick, trace⟩
  · rfl
  · cases hp

theorem step_loop_some {p : Process} (hp : w.process = some p) :
    Pc.step cfg sys (.loop (metric :: rest)) w = match gatherMetric sys metric.dispatch p w with
      | .ok v w' => .ok (.write metric v rest) w'
      | .error e w' => settle e w' := by
  rcases w with ⟨_ | q, heap, tick, trace⟩
  · cases hp
  · cases hp
    show tryCatch _ settle _ = _
    rw [tryCatch_apply, bind_apply]
    cases gatherMetric sys metric.dispatch p ⟨some p, heap, tick, trace⟩ <;> rfl

theorem emitMetrics_cons_none (hp : w.process = none) :
    emitMetrics sys cfg.id (metric :: rest) w = .ok () w := by
  rcases w with ⟨_ | _, heap, tick, trace⟩
  · rfl
  · cases hp

theorem emitMetrics_cons_some {p : Process} (hp : w.process = some p) :
    emitMetrics sys cfg.id (metric :: rest) w = (do
      let metricValue ← gatherMetric sys metric.dispatch p
      let extraFields ← appExtraFields cfg.id metric.extraFields
      emitValue metric.metricName metricValue extraFields
      emitMetrics sys cfg.id rest) w := by
  rcases w with ⟨_ | q, heap, tick, trace⟩
  · cases hp
  · cases hp
    rfl

end Loop

theorem step_write (metric : Metric) (v : Reply) (rest : List Metric) (w : PWorld) :
    Pc.step cfg sys (.write metric v rest) w =
      .ok (.emit metric v rest) (match metric.extraFields with
        | some r => { w with heap := Function.update w.heap r ((w.heap r).set "app" cfg.id) }
        | none => w) := by
  rcases metric with ⟨_, _ | r, _⟩ <;> rfl

theorem step_emit (metric : Metric) (v : Reply) (rest : List Metric) (w : PWorld) :
    Pc.step cfg sys (.emit metric v rest) w =
      .ok (.loop rest) { w with trace := w.trace ++ [(metric.metricName, v,
        match metric.extraFields with
        | some r => w.heap r
        | none => PyDict.set [] "app" cfg.id)] } := by
  rcases metric with ⟨_, _ | r, _⟩ <;> rfl

/-- The store and the emit of an entry, then the rest of the loop. -/
theorem runAlone_write (metric : Metric) (v : Reply) (rest : List Metric) (n : Nat)
    (w : PWorld) :
    runAlone cfg sys (n + 2) (.write metric v rest) w =
      (do
        let extraFields ← appExtraFields cfg.id metric.extraFields
        emitValue metric.metricName v extraFields
        runAlone cfg sys n (.loop rest)) w := by
  rcases metric with ⟨_, _ | r, _⟩ <;> rfl

/-- The steps from the top of the loop, with fuel for every entry, end as the loop does. -/
theorem runAlone_loop : ∀ (rest : List Metric) (n : Nat) (w : PWorld),
    runAlone cfg sys (n + 3 * rest.length + 1) (.loop rest) w =
      settleResult (emitMetrics sys cfg.id rest w)
  | [], n, w => runAlone_done cfg sys n none w
  | metric :: rest, n, w => by
    rw [show n + 3 * (metric :: rest).length + 1 = n + 3 * rest.length + 1 + 2 + 1 by
      simp only [List.length_cons]; omega, runAlone_succ]
    cases hp : w.process with
    | none =>
      rw [step_loop_none cfg sys metric rest hp, emitMetrics_cons_none cfg sys metric rest hp]
      exact runAlone_done cfg sys _ none w
    | some p =>
      rw [step_loop_some cfg sys metric rest hp, emitMetrics_cons_some cfg sys metric rest hp,
        bind_apply]
      cases gatherMetric sys metric.dispatch p w with
      | error e w1 => exact runAlone_settle cfg sys _ e w1
      | ok v w1 =>
        dsimp only
        rw [runAlone_write]
        rcases metric with ⟨_, _ | r, _⟩ <;> exact runAlone_loop rest n _

/-- `gather_sample` as the steps record its end: the `except` clause sees whatever the
selection or the loop raised. -/
theorem finish_gatherSample (w : PWorld) :
    finish (gatherSample cfg sys w) = match selectTargetProcess cfg sys w with
      | .ok _ w' => settleResult (emitMetrics sys cfg.id metrics w')
      | .error e w' => settle e w' := by
  have hh : ∀ e w', finish ((if e = .noSuchProcess then setProcess none else throw e : PM Unit) w') =
      settle e w' := fun e w' => by
    unfold settle
    split <;> rfl
  rw [gatherSample, tryCatch_apply, bind_apply]
  cases selectTargetProcess cfg sys w with
  | error e w' => exact hh e w'
  | ok _ w' =>
    dsimp only
    cases emitMetrics sys cfg.id metrics w' with
    | ok _ _ => rfl
    | error e w'' => exact hh e w''

/-- A call's steps with no other thread in between end exactly as `gather_sample` does: the same
dicts, `__process`, tick and samples, having returned or raised the same exception.  Steps past
the end change nothing. -/
theorem runAlone_select (w : PWorld) (n : Nat) :
    runAlone cfg sys (n + 3 * metrics.length + 2) .select w = finish (gatherSample cfg sys w) := by
  rw [finish_gatherSample, runAlone_succ, step_select]
  cases selectTargetProcess cfg sys w with
  | ok _ w' => exact runAlone_loop cfg sys metrics n w'
  | error e w' => exact runAlone_settle cfg sys _ e w'

end Alone

/-! ## What a step touches -/

/-- The dicts are `H` and the samples `T`. -/
def Still (H : Heap) (T : List Sample) (w : PWorld) : Prop := w.heap = H ∧ w.trace = T

section Still

variable {H : Heap} {T : List Sample} (cfg : Config) (sys : System)

theorem settle_still (e : PyExc) :
    Triple (Still H T) (settle e) (fun pc w => Still H T w ∧ ∃ r, pc = .done r)
      (fun _ _ => False) := by
  unfold settle
  split
  · exact Triple.bind (Triple.modify' (Q := fun _ => Still H T) fun _ h => h) fun _ =>
      Triple.pure' fun _ h => ⟨h, _, rfl⟩
  · exact Triple.pure' fun _ h => ⟨h, _, rfl⟩

/-- `_select_target_process` touches neither the dicts nor the log. -/
theorem step_select_still :
    Triple (Still H T) (Pc.step cfg sys .select)
      (fun pc w => Still H T w ∧ (pc = .loop metrics ∨ ∃ r, pc = .done r)) (fun _ _ => False) :=
  Triple.tryCatch (Triple.bind (Triple.bind (Triple.conseq (liftExcept_triple _) (fun _ h => h)
      (fun _ _ h => h.1) (fun _ _ h => h.1)) fun _ =>
        Triple.modify' (Q := fun _ => Still H T) fun _ h => h) fun _ =>
      Triple.pure' fun _ h => ⟨h, .inl rfl⟩)
    fun e => Triple.conseq (settle_still e) (fun _ h => h) (fun _ _ ⟨h, hr⟩ => ⟨h, .inr hr⟩)
      (fun _ _ h => h)

/-- The read of a value touches neither the dicts nor the log. -/
theorem step_loop_still (metric : Metric) (rest : List Metric) :
    Triple (Still H T) (Pc.step cfg sys (.loop (metric :: rest)))
      (fun pc w => Still H T w ∧ ((∃ v, pc = .write metric v rest) ∨ ∃ r, pc = .done r))
      (fun _ _ => False) := by
  refine Triple.bind (Triple.get' (Q := fun s w => Still H T w ∧ s = w) fun _ h => ⟨h, rfl⟩)
    fun s => ?_
  rcases s.process with _ | p
  · exact Triple.pure' fun _ h => ⟨h.1, .inr ⟨_, rfl⟩⟩
  · exact Triple.tryCatch (Triple.bind (Triple.conseq (gatherMetric_keeps (fun _ _ h => h) sys
        metric.dispatch p) (fun _ h => h.1) (fun _ _ h => h) (fun _ _ h => h)) fun v =>
          Triple.pure' fun _ h => ⟨h, .inl ⟨v, rfl⟩⟩)
      fun e => Triple.conseq (settle_still e) (fun _ h => h) (fun _ _ ⟨h, hr⟩ => ⟨h, .inr hr⟩)
        (fun _ _ h => h)

end Still

/-! ## The agent's threads -/

/-- The agent between two steps of its threads: for each instance its `__process`, the call it
runs with the system that call runs against, and the samples its logger wrote; the dicts and
the tick are shared. -/
structure Agent where
  processes : Nat → Option Process
  calls : Nat → Option (System × Pc)
  logs : Nat → List Sample
  heap : Heap
  tick : Nat

/-- The module loaded, no call made. -/
def Agent.init : Agent := ⟨fun _ => none, fun _ => none, fun _ => [], moduleHeap, 0⟩

/-- The state a step of instance `i` runs in. -/
def Agent.world (a : Agent) (i : Nat) : PWorld := ⟨a.processes i, a.heap, a.tick, a.logs i⟩

/-- The agent after a step of instance `i` left its call at `pc` and the state `w`. -/
def Agent.after (a : Agent) (i : Nat) (sys : System) (pc : Pc) (w : PWorld) : Agent :=
  ⟨Function.update a.processes i w.process, Function.update a.calls i (some (sys, pc)),
    Function.update a.logs i w.trace, w.heap, w.tick⟩

/-- Instance `i` has a call running. -/
def Agent.busy (a : Agent) (i : Nat) : Bool :=
  match a.calls i with
  | some (_, pc) => pc.running
  | none => false

/-- What can happen next: instance `i` starts a `gather_sample` call against `sys`, or the call
of instance `i` takes its next step. -/
inductive Action where
  | start (i : Nat) (sys : System)
  | step (i : Nat)

/-- One action of the schedule.  A thread starts its next call once the last one has ended; a
step of an instance with no running call changes nothing. -/
def Agent.exec (cfg : Nat → Config) (a : Agent) : Action → Agent
  | .start i sys =>
    if a.busy i then a else { a with calls := Function.update a.calls i (some (sys, .select)) }
  | .step i =>
    match a.calls i with
    | none => a
    | some (sys, pc) =>
      match pc.step (cfg i) sys (a.world i) with
      | .ok pc' w => a.after i sys pc' w
      | .error e w => a.after i sys (.done (some e)) w

/-- A schedule, in order. -/
def Agent.run (cfg : Nat → Config) (acts : List Action) (a : Agent) : Agent :=
  acts.foldl (Agent.exec cfg) a

theorem Agent.exec_step {cfg : Nat → Config} {a : Agent} {i : Nat} {s : System} {c c' : Pc}
    {w : PWorld} (h : a.calls i = some (s, c)) (hs : c.step (cfg i) s (a.world i) = .ok c' w) :
    a.exec cfg (.step i) = a.after i s c' w := by
  simp only [Agent.exec, h, hs]

/-! ## What every schedule keeps -/

/-- What a call may hold between two steps, with `ids` the ids the dicts may carry: the entries
it has to go are a tail of `METRICS`, and the dict of an entry whose emit is next holds `app`. -/
def Pc.Ok (ids : List String) (heap : Heap) : Pc → Prop
  | .select | .done _ => True
  | .loop rest => rest <:+ metrics
  | .write metric _ rest => metric :: rest <:+ metrics
  | .emit metric _ rest => metric :: rest <:+ metrics ∧
      ∀ r, metric.extraFields = some r → ∃ x ∈ ids, heap r = moduleHeap r ++ [("app", x)]

/-- A store of `app` set to one of `ids` leaves every call as it was. -/
theorem Pc.Ok.write {ids : List String} {heap : Heap} {pc : Pc} (h : pc.Ok ids heap)
    (hheap : AppOf ids heap) {id : String} (hid : id ∈ ids) (r : Nat) :
    pc.Ok ids (Function.update heap r ((heap r).set "app" id)) := by
  cases pc with
  | emit metric v rest =>
    refine ⟨h.1, fun r' hr' => ?_⟩
    by_cases hr : r' = r
    · subst hr
      exact ⟨id, hid, by rw [Function.update_same, hheap.set_app]⟩
    · rw [Function.update_noteq hr]
      exact h.2 r' hr'
  | _ => exact h

/-- The samples of a log are entries of `METRICS`, each with its literal's items and `app` set
to one of `ids`. -/
def LogOk (ids : List String) (log : List Sample) : Prop :=
  ∀ s ∈ log, ∃ m ∈ metrics, ∃ x ∈ ids, s.keys = (m.metricName, sampleExtra x moduleHeap m.extraFields)

/-- The invariant of every schedule, for instances whose ids are among `ids`. -/
structure Safe (cfg : Nat → Config) (ids : List String) (a : Agent) : Prop where
  heap : AppOf ids a.heap
  calls : ∀ i sys pc, a.calls i = some (sys, pc) → (cfg i).id ∈ ids ∧ pc.Ok ids a.heap
  logs : ∀ i, LogOk ids (a.logs i)

theorem Safe.init (cfg : Nat → Config) (ids : List String) : Safe cfg ids Agent.init :=
  ⟨AppOf.init ids, fun _ _ _ h => (by cases h), fun _ _ h => (by cases h)⟩

section Safe

variable {cfg : Nat → Config} {ids : List String} {a : Agent} (h : Safe cfg ids a)
include h

/-- A step of instance `i` keeps the invariant when the dicts, the new place of its call, the
other calls and its log do. -/
theorem Safe.after {i : Nat} {sys : System} {pc pc' : Pc} {w : PWorld}
    (hcall : a.calls i = some (sys, pc)) (hheap : AppOf ids w.heap) (hok : pc'.Ok ids w.heap)
    (hothers : ∀ k sys' pc'', k ≠ i → a.calls k = some (sys', pc'') → pc''.Ok ids w.heap)
    (hlog : LogOk ids w.trace) : Safe cfg ids (a.after i sys pc' w) := by
  refine ⟨hheap, fun k sys' pc'' hk => ?_, fun k => ?_⟩
  · by_cases hki : k = i
    · subst hki
      simp only [Agent.after, Function.update_same, Option.some.injEq, Prod.mk.injEq] at hk
      obtain ⟨-, rfl⟩ := hk
      exact ⟨(h.calls k sys pc hcall).1, hok⟩
    · simp only [Agent.after, Function.update_noteq hki] at hk
      exact ⟨(h.calls k sys' pc'' hk).1, hothers k sys' pc'' hki hk⟩
  · by_cases hki : k = i
    · subst hki
      simp only [Agent.after, Function.update_same]
      exact hlog
    · simp only [Agent.after, Function.update_noteq hki]
      exact h.logs k

/-- A step that touches neither the dicts nor the log keeps the invariant when the new place of
its call is one. -/
theorem Safe.after_still {i : Nat} {sys : System} {pc pc' : Pc} {w : PWorld}
    (hcall : a.calls i = some (sys, pc)) (hw : Still a.heap (a.logs i) w)
    (hok : pc'.Ok ids a.heap) : Safe cfg ids (a.after i sys pc' w) := by
  obtain ⟨hh, ht⟩ := hw
  refine h.after hcall (hh ▸ h.heap) (hh ▸ hok) (fun k sys' pc'' _ hk => hh ▸ (h.calls k sys' pc'' hk).2)
    (ht ▸ h.logs i)

/-- Every step keeps the invariant. -/
theorem Safe.step (i : Nat) : Safe cfg ids (a.exec cfg (.step i)) := by
  rcases hcall : a.calls i with _ | ⟨sys, pc⟩
  · simp only [Agent.exec, hcall]
    exact h
  have ⟨hid, hok⟩ := h.calls i sys pc hcall
  have hw : Still a.heap (a.logs i) (a.world i) := ⟨rfl, rfl⟩
  cases pc with
  | select =>
    obtain ⟨pc', w, hs, hw', hpc⟩ := Triple.ok_of (step_select_still (cfg i) sys) hw
    rw [Agent.exec_step hcall hs]
    refine h.after_still hcall hw' ?_
    rcases hpc with rfl | ⟨r, rfl⟩
    · exact List.suffix_refl _
    · trivial
  | loop rest =>
    cases rest with
    | nil => rw [Agent.exec_step hcall rfl]; exact h.after_still hcall hw trivial
    | cons metric rest =>
      obtain ⟨pc', w, hs, hw', hpc⟩ := Triple.ok_of (step_loop_still (cfg i) sys metric rest) hw
      rw [Agent.exec_step hcall hs]
      refine h.after_still hcall hw' ?_
      rcases hpc with ⟨v, rfl⟩ | ⟨r, rfl⟩
      · exact hok
      · trivial
  | write metric v rest =>
    rw [Agent.exec_step hcall (step_write (cfg i) sys metric v rest _)]
    rcases hr : metric.extraFields with _ | r
    · exact h.after_still hcall hw ⟨hok, fun _ h' => absurd (hr.symm.trans h') (by simp)⟩
    · refine h.after (w := { a.world i with
          heap := Function.update a.heap r ((a.heap r).set "app" (cfg i).id) })
        hcall (fun r' => ?_) ⟨hok, fun r' hr' => ?_⟩
        (fun k sys' pc'' _ hk => (h.calls k sys' pc'' hk).2.write h.heap hid r) (h.logs i)
      · by_cases hr' : r' = r
        · subst hr'
          exact .inr ⟨_, hid, by simp only [Function.update_same, h.heap.set_app]⟩
        · simp only [Function.update_noteq hr']
          exact h.heap r'
      · obtain rfl : r' = r := Option.some.inj (hr'.symm.trans hr)
        exact ⟨_, hid, by simp only [Function.update_same, h.heap.set_app]⟩
  | emit metric v rest =>
    rw [Agent.exec_step hcall (step_emit (cfg i) sys metric v rest _)]
    refine h.after hcall h.heap ((List.suffix_cons metric rest).trans hok.1)
      (fun k sys' pc'' _ hk => (h.calls k sys' pc'' hk).2) fun s hs => ?_
    rcases List.mem_append.1 hs with hs | hs
    · exact h.logs i s hs
    obtain rfl := List.mem_singleton.1 hs
    refine ⟨metric, hok.1.subset (List.mem_cons_self _ _), ?_⟩
    rcases hr : metric.extraFields with _ | r
    · exact ⟨_, hid, by simp only [Sample.keys, hr, sampleExtra]⟩
    · obtain ⟨x, hx, hheap⟩ := hok.2 r hr
      exact ⟨x, hx, by simp only [Sample.keys, hr, sampleExtra, Agent.world, hheap,
        PyDict.set_of_not_mem (app_not_mem_moduleHeap r)]⟩
  | done r =>
    rw [Agent.exec_step hcall rfl]
    exact h.after_still hcall hw trivial

/-- A start keeps the invariant when the instance's id is among `ids`. -/
theorem Safe.start {i : Nat} (hid : (cfg i).id ∈ ids) (sys : System) :
    Safe cfg ids (a.exec cfg (.start i sys)) := by
  show Safe cfg ids (if a.busy i then a else { a with calls := _ })
  split
  · exact h
  · refine ⟨h.heap, fun k sys' pc hk => ?_, h.logs⟩
    by_cases hki : k = i
    · subst hki
      simp only [Function.update_same, Option.some.injEq, Prod.mk.injEq] at hk
      obtain ⟨-, rfl⟩ := hk
      exact ⟨hid, trivial⟩
    · simp only [Function.update_noteq hki] at hk
      exact h.calls k sys' pc hk

end Safe

theorem Agent.run_cons (cfg : Nat → Config) (act : Action) (acts : List Action) (a : Agent) :
    a.run cfg (act :: acts) = (a.exec cfg act).run cfg acts := rfl

/-- Every schedule keeps the invariant, for any `ids` that hold the id of every instance it
starts. -/
theorem run_safe (cfg : Nat → Config) (ids : List String) :
    ∀ (acts : List Action) (a : Agent), (∀ i sys, Action.start i sys ∈ acts → (cfg i).id ∈ ids) →
      Safe cfg ids a → Safe cfg ids (a.run cfg acts)
  | [], _, _, h => h
  | act :: acts, a, hids, h => by
    rw [Agent.run_cons]
    refine run_safe cfg ids acts _ (fun i sys hm => hids i sys (List.mem_cons_of_mem _ hm)) ?_
    cases act with
    | start i sys => exact h.start (hids i sys (List.mem_cons_self _ _)) sys
    | step i => exact h.step i

/-- The ids of the instances a schedule starts. -/
def startedIds (cfg : Nat → Config) (acts : List Action) : List String :=
  acts.filterMap fun
    | .start i _ => some (cfg i).id
    | .step _ => none

theorem mem_startedIds {cfg : Nat → Config} {acts : List Action} {x : String} :
    x ∈ startedIds cfg acts ↔ ∃ j sys, Action.start j sys ∈ acts ∧ x = (cfg j).id := by
  simp only [startedIds, List.mem_filterMap]
  constructor
  · rintro ⟨act, hm, hx⟩
    cases act with
    | start j sys => exact ⟨j, sys, hm, (Option.some.inj hx).symm⟩
    | step _ => cases hx
  · rintro ⟨j, sys, hm, rfl⟩
    exact ⟨_, hm, rfl⟩

theorem safe_run (cfg : Nat → Config) (acts : List Action) :
    Safe cfg (startedIds cfg acts) (Agent.init.run cfg acts) :=
  run_safe cfg _ acts _ (fun _ _ hm => mem_startedIds.2 ⟨_, _, hm, rfl⟩) (Safe.init cfg _)

/-- The metric name and extra fields of the sample of an entry of `METRICS`, with `app` set to
`x`, are its literal's name and items and `app`. -/
theorem metrics_sample {m : Metric} (hm : m ∈ metrics) (x : String) :
    ∃ l ∈ metricLiterals,
      (m.metricName, sampleExtra x moduleHeap m.extraFields) = (l.metricName, l.extraFields ++ [("app", x)]) := by
  obtain ⟨n, hn⟩ := List.mem_iff_getElem?.1 hm
  rw [metrics_getElem?] at hn
  cases hl : metricLiterals[n]? with
  | none => rw [hl] at hn; cases hn
  | some l =>
    rw [hl] at hn
    cases hn
    refine ⟨l, List.mem_iff_getElem?.2 ⟨n, hl⟩, ?_⟩
    have hheap : moduleHeap n = l.extraFields := by simp only [moduleHeap, loadHeap, hl]
    show (l.metricName, (moduleHeap n).set "app" x) = _
    rw [PyDict.set_of_not_mem (app_not_mem_moduleHeap n), hheap]

/-- Under every schedule of the agent's threads, each dict of the table holds the items of its
literal, and at most the key `app` after them, set to the id of an instance the schedule
started. -/
theorem agent_keeps_literal_items (cfg : Nat → Config) (acts : List Action) (r : Nat) :
    (Agent.init.run cfg acts).heap r = moduleHeap r ∨
      ∃ j sys, Action.start j sys ∈ acts ∧
        (Agent.init.run cfg acts).heap r = moduleHeap r ++ [("app", (cfg j).id)] := by
  rcases (safe_run cfg acts).heap r with h | ⟨x, hx, h⟩
  · exact .inl h
  · obtain ⟨j, sys, hm, rfl⟩ := mem_startedIds.1 hx
    exact .inr ⟨j, sys, hm, h⟩

/-- Under every schedule of the agent's threads, every sample an instance's logger wrote has
the metric name of an entry of `METRICS` and that entry's literal items with `app` set to the id
of an instance the schedule started, which need not be the instance that wrote it. -/
theorem agent_samples_keys (cfg : Nat → Config) (acts : List Action) (i : Nat) :
    ∀ s ∈ (Agent.init.run cfg acts).logs i, ∃ l ∈ metricLiterals, ∃ j sys,
      Action.start j sys ∈ acts ∧ s.keys = (l.metricName, l.extraFields ++ [("app", (cfg j).id)]) := by
  intro s hs
  obtain ⟨m, hm, x, hx, hk⟩ := (safe_run cfg acts).logs i s hs
  obtain ⟨j, sys, hj, rfl⟩ := mem_startedIds.1 hx
  obtain ⟨l, hl, he⟩ := metrics_sample hm (cfg j).id
  exact ⟨l, hl, j, sys, hj, hk.trans he⟩

/-- Instance `iis` alone, through its first entry: its sample carries its own id. -/
theorem agent_samples_keys_iis :
    (("winproc.cpu", .num 12, [("type", "user"), ("app", "iis")]) : Sample) ∈
        (Agent.init.run iisWeb [.start 0 agentSystem, .step 0, .step 0, .step 0, .step 0]).logs 0 ∧
      ∃ l ∈ metricLiterals, ∃ j sys,
        Action.start j sys ∈ [.start 0 agentSystem, .step 0, .step 0, .step 0, .step 0] ∧
        Sample.keys ("winproc.cpu", .num 12, [("type", "user"), ("app", "iis")]) =
          (l.metricName, l.extraFields ++ [("app", (iisWeb j).id)]) :=
  have hm : (("winproc.cpu", .num 12, [("type", "user"), ("app", "iis")]) : Sample) ∈
      (Agent.init.run iisWeb [.start 0 agentSystem, .step 0, .step 0, .step 0, .step 0]).logs 0 := by
    decide
  ⟨hm, agent_samples_keys iisWeb _ 0 _ hm⟩

/-! ## A sample carrying another instance's id -/

section Race

variable (cfg : Config) (sys : System)

theorem step_select_found {p : Process} (hp : targetOf cfg sys = .ok (some p)) (w : PWorld) :
    Pc.step cfg sys .select w = .ok (.loop metrics) { w with process := some p } := by
  rw [step_select]
  simp only [selectTargetProcess, hp]
  rfl

/-- Against a live process, the read of a value returns and touches nothing but the tick. -/
theorem step_loop_live {p : Process} (hl : Live p) {metric : Metric} (hm : metric ∈ metrics)
    (rest : List Metric) {w : PWorld} (hp : w.process = some p) :
    ∃ v w', Pc.step cfg sys (.loop (metric :: rest)) w = .ok (.write metric v rest) w' ∧
      w'.process = w.process ∧ w'.heap = w.heap ∧ w'.trace = w.trace := by
  rw [step_loop_some cfg sys metric rest hp]
  obtain ⟨v, w', hg, hw'⟩ := Triple.ok_of (gatherMetric_readable
    (I := fun w' => w'.process = w.process ∧ w'.heap = w.heap ∧ w'.trace = w.trace)
    (fun _ _ h => h) sys metric.dispatch p fun t => hl t metric hm) ⟨rfl, rfl, rfl⟩
  rw [hg]
  exact ⟨v, w', rfl, hw'⟩

end Race

/-- Whenever two instances watch live processes, some schedule makes the first one emit its
`winproc.cpu` sample of user time with `app` set to the second one's id: the second stores its
id into the shared dict between the first one's store and its emit. -/
theorem app_race (cfg : Nat → Config) {i j : Nat} (hij : i ≠ j) {sysi sysj : System}
    {p q : Process} (hp : targetOf (cfg i) sysi = .ok (some p))
    (hq : targetOf (cfg j) sysj = .ok (some q)) (hlp : Live p) (hlq : Live q) :
    ∃ v, ("winproc.cpu", v, [("type", "user"), ("app", (cfg j).id)]) ∈
      (Agent.init.run cfg [.start i sysi, .start j sysj, .step i, .step j, .step i, .step j,
        .step i, .step j, .step i]).logs i := by
  have hji := Ne.symm hij
  let m0 : Metric := ⟨"winproc.cpu", some 0, ⟨.cpuTimes, some "user", none⟩⟩
  have hm : metrics = m0 :: metrics.tail := rfl
  have hmem : m0 ∈ metrics := by rw [hm]; exact List.mem_cons_self _ _
  -- both calls start, and each selects its process
  let c1 := Function.update Agent.init.calls i (some (sysi, .select))
  let a2 : Agent := { Agent.init with calls := Function.update c1 j (some (sysj, .select)) }
  have h2 : (Agent.init.exec cfg (.start i sysi)).exec cfg (.start j sysj) = a2 := by
    show (if _ then _ else _) = _
    rw [if_neg (by simp [Agent.busy, Agent.exec, Agent.init, c1, Function.update_noteq hji])]
    rfl
  rw [Agent.run_cons, Agent.run_cons, h2, Agent.run_cons,
    Agent.exec_step (by simp [a2, c1, Function.update_noteq hij]) (step_select_found _ _ hp _)]
  let a3 := a2.after i sysi (.loop metrics) { a2.world i with process := some p }
  rw [Agent.run_cons, Agent.exec_step (a := a3) (by simp [a3, a2, Agent.after, Function.update_noteq hji])
    (step_select_found _ _ hq _)]
  let a4 := a3.after j sysj (.loop metrics) { a3.world j with process := some q }
  -- each reads its first value
  obtain ⟨v, wi, hsi, hwi⟩ := step_loop_live (cfg i) sysi hlp hmem metrics.tail (w := a4.world i)
    (by simp [a4, a3, Agent.after, Agent.world, Function.update_noteq hij])
  rw [Agent.run_cons, Agent.exec_step (a := a4) (c := .loop (m0 :: metrics.tail))
    (by simp [a4, a3, Agent.after, Function.update_noteq hij]; rfl) hsi]
  let a5 := a4.after i sysi (.write m0 v metrics.tail) wi
  obtain ⟨v', wj, hsj, hwj⟩ := step_loop_live (cfg j) sysj hlq hmem metrics.tail (w := a5.world j)
    (by simp [a5, a4, Agent.after, Agent.world, Function.update_noteq hji])
  rw [Agent.run_cons, Agent.exec_step (a := a5) (c := .loop (m0 :: metrics.tail))
    (by simp [a5, a4, Agent.after, Function.update_noteq hji]; rfl) hsj]
  let a6 := a5.after j sysj (.write m0 v' metrics.tail) wj
  -- the first stores its id, then the second
  have hs7 : Pc.step (cfg i) sysi (.write m0 v metrics.tail) (a6.world i) = .ok
      (.emit m0 v metrics.tail) { a6.world i with
        heap := Function.update a6.heap 0 ((a6.heap 0).set "app" (cfg i).id) } :=
    step_write _ _ m0 v _ _
  rw [Agent.run_cons, Agent.exec_step (a := a6) (s := sysi)
    (by simp [a6, a5, Agent.after, Function.update_noteq hij]) hs7]
  let a7 := a6.after i sysi (.emit m0 v metrics.tail)
    { a6.world i with heap := Function.update a6.heap 0 ((a6.heap 0).set "app" (cfg i).id) }
  have hs8 : Pc.step (cfg j) sysj (.write m0 v' metrics.tail) (a7.world j) = .ok
      (.emit m0 v' metrics.tail) { a7.world j with
        heap := Function.update a7.heap 0 ((a7.heap 0).set "app" (cfg j).id) } :=
    step_write _ _ m0 v' _ _
  rw [Agent.run_cons, Agent.exec_step (a := a7) (s := sysj)
    (by simp [a7, a6, Agent.after, Function.update_noteq hji]) hs8]
  let a8 := a7.after j sysj (.emit m0 v' metrics.tail)
    { a7.world j with heap := Function.update a7.heap 0 ((a7.heap 0).set "app" (cfg j).id) }
  -- the first emits the dict as the second left it
  have hs9 : Pc.step (cfg i) sysi (.emit m0 v metrics.tail) (a8.world i) = .ok (.loop metrics.tail)
      { a8.world i with trace := a8.logs i ++ [("winproc.cpu", v, a8.heap 0)] } :=
    step_emit _ _ m0 v _ _
  rw [Agent.run_cons, Agent.exec_step (a := a8) (s := sysi)
    (by simp [a8, a7, Agent.after, Function.update_noteq hij]) hs9]
  have hheap : a6.heap = moduleHeap := by
    simp only [a6, a5, Agent.after, hwj.2.1, hwi.2.1]
    rfl
  have hdict : a8.heap 0 = [("type", "user"), ("app", (cfg j).id)] := by
    simp only [a8, a7, Agent.after, Agent.world, Function.update_same, hheap, PyDict.set_set]
    exact PyDict.set_of_not_mem (app_not_mem_moduleHeap 0) _
  refine ⟨v, ?_⟩
  simp only [Agent.run, List.foldl_nil, Agent.after, Agent.world, Function.update_same]
  rw [← hdict]
  exact List.mem_append_right _ (List.mem_singleton_self _)

/-- Two instances with the ids `iis` and `web`, each watching the agent's own process. -/
theorem app_race_iisWeb :
    (0 : Nat) ≠ 1 ∧ targetOf (iisWeb 0) agentSystem = .ok (some liveProcess) ∧
      targetOf (iisWeb 1) agentSystem = .ok (some liveProcess) ∧ Live liveProcess ∧
      ∃ v, ("winproc.cpu", v, [("type", "user"), ("app", "web")]) ∈
        (Agent.init.run iisWeb [.start 0 agentSystem, .start 1 agentSystem, .step 0, .step 1,
          .step 0, .step 1, .step 0, .step 1, .step 0]).logs 0 :=
  ⟨by decide, rfl, rfl, liveProcess_live,
    app_race iisWeb (by decide) rfl rfl liveProcess_live liveProcess_live⟩

end ScalyrAgent.ProcessMetrics
