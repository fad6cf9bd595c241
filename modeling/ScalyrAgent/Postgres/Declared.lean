import ScalyrAgent.Postgres.Accounting

/-!
# The metrics the monitor declares

The module declares its metrics with `define_metric`, each with the extra fields it is
reported under (`definedMetrics`).  `gather_sample` emits from two places only: the size, and
the loop over `_database_stats`.  This module proves that every sample a run emits, against
every driver behaviour, is one of the declared metrics with its declared extra fields
(`Declared`), that `stats_reset` is emitted as a number of milliseconds, and that the size is
never emitted as `None`.

* `Blind` invariants read only the samples of the trace.  `close` and `connect` append no
  sample, so they keep every such invariant (`close_blind`, `connect_blind`), whatever the
  driver answers.
* `emitSize_declared` and `emitStats_declared` are the two places that emit, and
  `pgStatDatabase_declared` is the check of the table against the declarations.
-/

namespace ScalyrAgent.Postgres

/-- The metrics of the `define_metric` calls, with their `extra_fields` (`None` for a call
without them), in the order of the source. -/
def definedMetrics : List (String × ExtraFields) :=
  [("postgres.database.connections", none),
   ("postgres.database.transactions", some [("result", "committed")]),
   ("postgres.database.transactions", some [("result", "rolledback")]),
   ("postgres.database.disk_blocks", some [("type", "read")]),
   ("postgres.database.disk_blocks", some [("type", "hit")]),
   ("postgres.database.query_rows", some [("op", "returned")]),
   ("postgres.database.query_rows", some [("op", "fetched")]),
   ("postgres.database.query_rows", some [("op", "inserted")]),
   ("postgres.database.query_rows", some [("op", "updated")]),
   ("postgres.database.query_rows", some [("op", "deleted")]),
   ("postgres.database.temp_files", none),
   ("postgres.database.temp_bytes", none),
   ("postgres.database.deadlocks", none),
   ("postgres.database.blocks_op_time", some [("op", "read")]),
   ("postgres.database.blocks_op_time", some [("op", "write")]),
   ("postgres.database.stats_reset", none),
   ("postgres.database.size", none)]

/-- The metric and the extra fields of a sample: what tells two reports apart. -/
def sampleKey (s : Sample) : String × ExtraFields := (s.1, s.2.2)

/-- The key under which the loop emits a column of the table: `entry[0]`, with the extra fields
of the entry, or none for `stats_reset`. -/
def entryKey (entry : String × List String) : String × ExtraFields :=
  (entry.2.getD 0 "", if entry.1 != "stats_reset" then entryExtra entry.2 else none)

/-- A sample as the module declares it: a declared metric with its declared extra fields,
`stats_reset` as a number of milliseconds, and the size never `None`. -/
structure Declared (s : Sample) : Prop where
  defined : sampleKey s ∈ definedMetrics
  reset_ms : s.1 = "postgres.database.stats_reset" → ∃ t, s.2.1 = .int t
  size_not_null : s.1 = "postgres.database.size" → s.2.1 ≠ .null

/-- Every sample of the trace so far is declared. -/
def EmitsDeclared (w : World) : Prop :=
  ∀ s ∈ emitted w.trace, Declared s

/-- Each column of the table is emitted as a declared metric: with the extra fields of its entry,
or none for `stats_reset`.  Only `stats_reset` is emitted as the reset time, and no column as the
size. -/
theorem pgStatDatabase_declared : ∀ entry ∈ pgStatDatabase,
    entryKey entry ∈ definedMetrics ∧
      (entry.2.getD 0 "" = "postgres.database.stats_reset" → entry.1 = "stats_reset") ∧
      entry.2.getD 0 "" ≠ "postgres.database.size" := by
  decide

/-! ## Invariants of the samples alone -/

/-- `I` reads only the samples of the trace. -/
def Blind (I : World → Prop) : Prop :=
  ∀ w w' t, I w → (∀ e ∈ t, Silent e) → w'.trace = w.trace ++ t → I w'

section Blind

variable {I : World → Prop} (hI : Blind I) (d : Driver) (p : DbParams)
include hI

theorem Blind.quiet : Quiet I := fun w w' t h ht hw _ _ => hI w w' t h (fun e he => (ht e he).1) hw

theorem Blind.steady : Steady I := fun w w' e h he ht _ _ _ _ => hI w w' [e] h (by simpa using he) ht

/-- Setting a field keeps `I`. -/
theorem modify_blind {E : Exc → World → Prop} {f : World → World} (hf : ∀ w, (f w).trace = w.trace) :
    Triple I (modify f) (fun _ => I) E :=
  Triple.modify' fun w h => hI w _ [] h (by simp) (by simp [hf])

theorem closeCursor_blind : Keeps I (closeCursor d) :=
  Triple.bind (Triple.get' fun _ h => h) fun s => by
    cases s.cursor with
    | none => exact Triple.pure' fun _ h => h
    | some cur =>
      exact driverCall_quiet hI.quiet (fun _ => by simp [Plain, Silent, Event.lostOn])
        fun _ _ => ⟨rfl, rfl, rfl⟩

theorem closeDb_blind : Keeps I (closeDb d) :=
  Triple.bind (Triple.get' fun _ h => h) fun s => by
    cases s.db with
    | none => exact Triple.pure' fun _ h => h
    | some c =>
      exact driverCall_quiet hI.quiet (fun _ => by simp [Plain, Silent, Event.lostOn])
        fun _ _ => ⟨rfl, rfl, rfl⟩

theorem close_blind : Keeps I (close d) :=
  Triple.bind (closeCursor_blind hI d) fun _ => Triple.bind (closeDb_blind hI d) fun _ =>
    Triple.bind (modify_blind hI fun _ => rfl) fun _ => modify_blind hI fun _ => rfl

theorem connect_blind : Keeps I (connect d p) :=
  Triple.tryCatch
    (Triple.bind (Triple.conseq (pgConnect_answered hI.quiet d p) (fun _ h => h)
        (fun _ _ h => h.1) (fun _ _ h => h.1)) fun c =>
      Triple.bind (modify_blind hI fun _ => rfl) fun _ =>
      Triple.bind (Triple.conseq (connCursor_answered hI.quiet d c) (fun _ h => h)
        (fun _ _ h => h.1) (fun _ _ h => h.1)) fun _ =>
      Triple.bind (modify_blind hI fun _ => rfl) fun _ => gatherDbInformation_steady hI.steady d)
    fun _ => Triple.ite'
      (fun _ => Triple.bind (modify_blind hI fun _ => rfl) fun _ =>
        Triple.bind (modify_blind hI fun _ => rfl) fun _ => record_quiet hI.quiet (by simp [Plain, Silent, Event.lostOn]))
      fun _ => Triple.ite'
        (fun _ => Triple.bind (record_quiet hI.quiet (by simp [Plain, Silent, Event.lostOn])) fun _ =>
          Triple.throw' fun _ h => h)
        fun _ => Triple.throw' fun _ h => h

theorem reconnect_blind : Keeps I (reconnect d p) :=
  Triple.bind (close_blind hI d) fun _ => connect_blind hI d p

end Blind

/-! ## The two places that emit -/

theorem EmitsDeclared.blind : Blind EmitsDeclared := fun w _ t h ht hw s hs => by
  rw [hw, emitted_append, emitted_silent ht, List.append_nil] at hs
  exact h s hs

theorem emitValue_declared {E : Exc → World → Prop} {m : String} {v : Value} {x : ExtraFields}
    (h : Declared (m, v, x)) : Triple EmitsDeclared (emitValue m v x) (fun _ => EmitsDeclared) E :=
  Triple.modify' fun w hw s hs => by
    simp only [emitted_append, List.mem_append] at hs
    rcases hs with hs | hs
    · exact hw s hs
    · simp only [emitted, List.mem_singleton] at hs
      exact hs ▸ h

/-- `emit_value('postgres.database.size', dbsize)` only for a size that is not `None`. -/
theorem emitSize_declared (v : Value) : Keeps EmitsDeclared (emitSize v) :=
  have hdef : ("postgres.database.size", (none : ExtraFields)) ∈ definedMetrics := by decide
  have hsize : ("postgres.database.size" : String) ≠ "postgres.database.stats_reset" := by decide
  Triple.ite' (fun hv => emitValue_declared ⟨hdef, fun h => absurd h hsize,
    fun _ => by simpa using hv⟩) fun _ => Triple.pure' fun _ h => h

/-- A column of the table is emitted under its entry's metric; `stats_reset` only once
`timestamp_ms` has made it a number. -/
theorem emitEntry_declared (dbstats : PyDict Value) {entry : String × List String}
    (he : entry ∈ pgStatDatabase) : Keeps EmitsDeclared (emitEntry dbstats entry) := by
  obtain ⟨hdef, hreset, hsize⟩ := pgStatDatabase_declared entry he
  unfold emitEntry
  split
  · exact Triple.pure' fun _ h => h
  · refine Triple.ite' (fun hr => emitValue_declared ⟨by simpa [entryKey, hr] using hdef,
      fun h => absurd (hreset h) (by simpa using hr), fun h => absurd h hsize⟩) fun hr =>
      Triple.bind (liftExcept_keeps _) fun t => emitValue_declared ⟨by simpa [entryKey, hr] using hdef,
        fun _ => ⟨t, rfl⟩, fun h => absurd h hsize⟩

theorem forM_keeps_mem {α : Type} {I : World → Prop} {f : α → PgM PUnit} :
    ∀ l : List α, (∀ a ∈ l, Keeps I (f a)) → Keeps I (l.forM f)
  | [], _ => Triple.pure' fun _ h => h
  | a :: l, hf => Triple.bind (hf a (List.mem_cons_self a l)) fun _ =>
    forM_keeps_mem l fun b hb => hf b (List.mem_cons_of_mem a hb)

theorem emitStats_declared (dbstats : PyDict Value) : Keeps EmitsDeclared (emitStats dbstats) :=
  forM_keeps_mem databaseStats fun table ht =>
    forM_keeps_mem table.2 fun _ he => emitEntry_declared dbstats <| by
      obtain rfl := List.mem_singleton.1 ht
      exact he

/-- Every sample a run emits, against every driver behaviour, is a metric that `define_metric`
declares, with the extra fields it is declared with; `stats_reset` is emitted as a number of
milliseconds, and the size never as `None`. -/
theorem run_emits_declared (p : DbParams) (ds : List Driver) :
    ∀ s ∈ emitted (run p ds World.init).trace, Declared s :=
  run_steady EmitsDeclared.blind.steady p (reconnect_blind EmitsDeclared.blind · p)
    (close_blind EmitsDeclared.blind) emitSize_declared emitStats_declared ds _ fun _ h => by cases h

/-- A call against a server with no statistics row emits the size `42`. -/
theorem noStatsRow_size_declared :
    ("postgres.database.size", Value.int 42, none) ∈
        emitted (run exampleParams [noStatsRow] World.init).trace ∧
      Declared ("postgres.database.size", Value.int 42, none) :=
  have h : ("postgres.database.size", Value.int 42, none) ∈
      emitted (run exampleParams [noStatsRow] World.init).trace := by decide
  ⟨h, run_emits_declared exampleParams [noStatsRow] _ h⟩

/-! ## One call reports each metric once -/

/-- The keys `gather_sample` emits, in the order it emits them: the size, then the columns of
the table in the order `keys()` gives them. -/
def sampleOrder : List (String × ExtraFields) :=
  ("postgres.database.size", none) :: pgStatDatabase.map entryKey

theorem sampleOrder_nodup : sampleOrder.Nodup := by decide

/-- Since the trace `t0`, the keys of the samples are a sublist of `L`. -/
def KeysWithin (t0 : List Event) (L : List (String × ExtraFields)) (w : World) : Prop :=
  ∃ seg, w.trace = t0 ++ seg ∧ ((emitted seg).map sampleKey).Sublist L

section Keys

variable (t0 : List Event) (d : Driver) (p : DbParams)

theorem KeysWithin.mono {L L' : List (String × ExtraFields)} {w : World} (h : KeysWithin t0 L w)
    (hL : L.Sublist L') : KeysWithin t0 L' w :=
  let ⟨seg, ht, hs⟩ := h
  ⟨seg, ht, hs.trans hL⟩

theorem KeysWithin.blind (L : List (String × ExtraFields)) : Blind (KeysWithin t0 L) :=
  fun _ _ t ⟨seg, ht, hs⟩ hsil hw => ⟨seg ++ t, by rw [hw, ht, List.append_assoc],
    by rwa [emitted_append, emitted_silent hsil, List.append_nil]⟩

/-- A program that keeps the keys within `L` raises with them within any longer `L'`. -/
theorem KeysWithin.raise {α : Type} {L L' : List (String × ExtraFields)} (hL : L.Sublist L')
    {x : PgM α} (h : Keeps (KeysWithin t0 L) x) :
    Triple (KeysWithin t0 L) x (fun _ => KeysWithin t0 L) (fun _ => KeysWithin t0 L') :=
  Triple.conseq h (fun _ h => h) (fun _ _ h => h) fun _ _ h => h.mono t0 hL

theorem emitValue_keys {E : Exc → World → Prop} (L : List (String × ExtraFields)) (m : String)
    (v : Value) (x : ExtraFields) :
    Triple (KeysWithin t0 L) (emitValue m v x) (fun _ => KeysWithin t0 (L ++ [(m, x)])) E :=
  Triple.modify' fun _ ⟨seg, ht, hs⟩ => ⟨seg ++ [.emit m v x], by simp [ht],
    by simpa [emitted, sampleKey] using hs.append (List.Sublist.refl [(m, x)])⟩

theorem emitSize_keys (v : Value) :
    Triple (KeysWithin t0 []) (emitSize v) (fun _ => KeysWithin t0 [("postgres.database.size", none)])
      (fun _ => KeysWithin t0 sampleOrder) :=
  Triple.ite' (fun _ => emitValue_keys t0 [] _ v none) fun _ =>
    Triple.pure' fun _ h => h.mono t0 (List.nil_sublist _)

/-- One turn of the loop emits at most the key of its entry. -/
theorem emitEntry_keys (L : List (String × ExtraFields)) (dbstats : PyDict Value)
    (entry : String × List String) :
    Triple (KeysWithin t0 L) (emitEntry dbstats entry)
      (fun _ => KeysWithin t0 (L ++ [entryKey entry])) (fun _ => KeysWithin t0 (L ++ [entryKey entry])) := by
  have hL : L.Sublist (L ++ [entryKey entry]) := List.sublist_append_left L _
  unfold emitEntry
  split
  · exact Triple.pure' fun _ h => h.mono t0 hL
  · refine Triple.ite' (fun hr => ?_) fun hr =>
      Triple.bind (KeysWithin.raise t0 hL (liftExcept_keeps _)) fun _ => ?_
    · rw [show entryKey entry = (entry.2.getD 0 "", entryExtra entry.2) from
        congrArg (Prod.mk _) (if_pos hr)]
      exact emitValue_keys t0 L _ _ _
    · rw [show entryKey entry = (entry.2.getD 0 "", none) from congrArg (Prod.mk _) (if_neg hr)]
      exact emitValue_keys t0 L _ _ _

theorem forM_emitEntry_keys (dbstats : PyDict Value) :
    ∀ (l : List (String × List String)) (L : List (String × ExtraFields)),
      Triple (KeysWithin t0 L) (l.forM (emitEntry dbstats))
        (fun _ => KeysWithin t0 (L ++ l.map entryKey)) (fun _ => KeysWithin t0 (L ++ l.map entryKey))
  | [], L => Triple.pure' fun _ h => by simpa using h
  | entry :: l, L =>
    Triple.bind (Triple.conseq (emitEntry_keys t0 L dbstats entry) (fun _ h => h) (fun _ _ h => h)
        fun _ _ h => h.mono t0 (by simp)) fun _ =>
      Triple.conseq (forM_emitEntry_keys dbstats l _) (fun _ h => h)
        (fun _ _ h => by rwa [List.append_assoc] at h) (fun _ _ h => by rwa [List.append_assoc] at h)

theorem emitStats_keys (dbstats : PyDict Value) :
    Triple (KeysWithin t0 [("postgres.database.size", none)]) (emitStats dbstats)
      (fun _ => KeysWithin t0 sampleOrder) (fun _ => KeysWithin t0 sampleOrder) :=
  Triple.bind (forM_emitEntry_keys t0 dbstats pgStatDatabase _) fun _ => Triple.pure' fun _ h => h

/-- Size, statistics and `close`: the lost connections the retrieve methods reconnect on emit
nothing. -/
theorem sampleConnected_keys :
    Triple (KeysWithin t0 []) (sampleConnected d p) (fun _ => KeysWithin t0 sampleOrder)
      (fun _ => KeysWithin t0 sampleOrder) :=
  have hrec := fun L => reconnect_blind (KeysWithin.blind t0 L) d p
  Triple.bind (KeysWithin.raise t0 (List.nil_sublist _)
      (retrieveDatabaseSize_steady (KeysWithin.blind t0 []).steady d p (hrec []))) fun v =>
    Triple.bind (emitSize_keys t0 v) fun _ =>
    Triple.bind (KeysWithin.raise t0 ((List.nil_sublist _).cons₂ _)
      (retrieveDatabaseStats_steady (KeysWithin.blind t0 _).steady d p (hrec _))) fun dbstats =>
    Triple.bind (emitStats_keys t0 dbstats) fun _ => close_blind (KeysWithin.blind t0 sampleOrder) d

theorem gatherSample_keys :
    Triple (KeysWithin t0 []) (gatherSample d p) (fun _ => KeysWithin t0 sampleOrder)
      (fun _ => KeysWithin t0 sampleOrder) :=
  have hB := KeysWithin.blind t0 []
  have hnil : ([] : List (String × ExtraFields)).Sublist sampleOrder := List.nil_sublist _
  Triple.bind (KeysWithin.raise t0 hnil (reconnectOrWarn_steady hB.steady d p (reconnect_blind hB d p)))
    fun _ => Triple.ite' (fun _ => Triple.bind (Triple.bind (Triple.get' fun _ h => h) fun _ =>
        Triple.pure' fun _ h => h) fun _ =>
      Triple.ite' (fun _ => sampleConnected_keys t0 d p) fun _ =>
        Triple.conseq (record_quiet hB.quiet (by simp [Plain, Silent, Event.lostOn])) (fun _ h => h)
          (fun _ _ h => h.mono t0 hnil) (fun _ _ h => h))
      fun _ => Triple.pure' fun _ h => h.mono t0 hnil

end Keys

/-- One `gather_sample` call, from every state and against every driver behaviour, only appends
to the trace, and the samples it appends have distinct metrics and extra fields, the size first
and then the columns in the order `keys()` gives them: no metric is reported twice in one sample
period, also when a lost connection makes the call reconnect in the middle. -/
theorem gatherSample_reports_once (d : Driver) (p : DbParams) (w : World) :
    ∃ seg, (gatherSample d p w).state.trace = w.trace ++ seg ∧
      ((emitted seg).map sampleKey).Sublist sampleOrder ∧ ((emitted seg).map sampleKey).Nodup :=
  let ⟨seg, ht, hs⟩ := (gatherSample_keys w.trace d p).state ⟨[], (List.append_nil _).symm, List.nil_sublist _⟩
  ⟨seg, ht, hs, hs.nodup sampleOrder_nodup⟩

end ScalyrAgent.Postgres
