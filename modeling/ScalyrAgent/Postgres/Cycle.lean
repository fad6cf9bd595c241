import ScalyrAgent.Postgres.Lifecycle
import ScalyrAgent.Postgres.Samples

/-!
# One cycle against a server that answers or loses the connection

`Serves` is a server that answers every call of a `gather_sample` call: the connection, the
cursor, the three statements of the sample and the closes all return, with the given size and
statistics row.  `ServesOrDrops` lets each statement of the size and of the statistics answer
in the same way or lose the connection (`OperationalError` 2006), which the retrieve methods
answer with a reconnect and `None`.

Against such a server a call returns normally from every state, whatever an earlier call left
in the fields, and `gatherSample_drops` says what it emits: the size unless a statement of
the size lost the connection, then one sample for each entry of
`_database_stats["pg_stat_database"]` whose column the row has, unless a statement of the
statistics lost it.  The statements the call lost are exactly those: the size query when the
size was lost, and the statement of the statistics that lost it.  A loss of the size leaves the
statistics to the new connection.

* `retrieveDatabaseSize_drops`, `retrieveDatabaseTableStats_drops` and
  `retrieveDatabaseStats_drops`: each retrieve method gives its answer, or after a loss, which
  adds the statement to the lost ones, its `None` (`{}` for the statistics) on a new connection
  and cursor.
* `gatherSample_emits_row`: against `Serves`, the size and the statistics.  A `NULL` column is
  emitted as `None`; `gatherSample_emits_null` is a row where that happens.
-/

namespace ScalyrAgent.Postgres

/-! ## Servers -/

/-- The size query is answered with a row that starts with `size`. -/
structure AnswersSize (d : Driver) (p : DbParams) (size : Value) (rest : Row) : Prop where
  sizeExecute : ∀ t cur, d.execute t cur (sizeQuery p.database) = .ok ()
  sizeRow : ∀ t cur, d.fetchone t cur (sizeQuery p.database) = .ok (some (size :: rest))

/-- The two statistics queries are answered with the columns `fields` and the row `row`. -/
structure AnswersStats (d : Driver) (p : DbParams) (fields : List String) (row : Row) : Prop where
  fieldsExecute : ∀ t cur, d.execute t cur (fieldsQuery "pg_stat_database" p.database) = .ok ()
  columns : ∀ t cur, d.description t cur (fieldsQuery "pg_stat_database" p.database) = .ok fields
  statsExecute : ∀ t cur, d.execute t cur (statsQuery "pg_stat_database" p.database) = .ok ()
  statsRow : ∀ t cur, d.fetchone t cur (statsQuery "pg_stat_database" p.database) = .ok (some row)

/-- A server that answers every call of the sample.  The version query may get any answer. -/
structure Serves (d : Driver) (p : DbParams) (size : Value) (rest : Row) (fields : List String)
    (row : Row) extends Opens d p, AnswersSize d p size rest, AnswersStats d p fields row : Prop

/-- Each statement of the size query is answered as `AnswersSize` says, or loses the
connection. -/
structure SizeOrGone (d : Driver) (p : DbParams) (size : Value) (rest : Row) : Prop where
  sizeExecute : ∀ t cur, OkOrGone (d.execute t cur (sizeQuery p.database)) ()
  sizeRow : ∀ t cur, OkOrGone (d.fetchone t cur (sizeQuery p.database)) (some (size :: rest))

/-- Each statement of the statistics is answered as `AnswersStats` says, or loses the
connection. -/
structure StatsOrGone (d : Driver) (p : DbParams) (fields : List String) (row : Row) : Prop where
  fieldsExecute : ∀ t cur, OkOrGone (d.execute t cur (fieldsQuery "pg_stat_database" p.database)) ()
  columns : ∀ t cur, OkOrGone (d.description t cur (fieldsQuery "pg_stat_database" p.database)) fields
  statsExecute : ∀ t cur, OkOrGone (d.execute t cur (statsQuery "pg_stat_database" p.database)) ()
  statsRow : ∀ t cur,
    OkOrGone (d.fetchone t cur (statsQuery "pg_stat_database" p.database)) (some row)

/-- Connections and closes always return; each statement of the sample answers or loses the
connection. -/
structure ServesOrDrops (d : Driver) (p : DbParams) (size : Value) (rest : Row)
    (fields : List String) (row : Row)
    extends Opens d p, SizeOrGone d p size rest, StatsOrGone d p fields row : Prop

section Answers

variable {d : Driver} {p : DbParams}

theorem AnswersSize.orGone {size : Value} {rest : Row} (h : AnswersSize d p size rest) :
    SizeOrGone d p size rest :=
  ⟨fun t cur => .inl (h.sizeExecute t cur), fun t cur => .inl (h.sizeRow t cur)⟩

theorem AnswersStats.orGone {fields : List String} {row : Row} (h : AnswersStats d p fields row) :
    StatsOrGone d p fields row :=
  ⟨fun t cur => .inl (h.fieldsExecute t cur), fun t cur => .inl (h.columns t cur),
    fun t cur => .inl (h.statsExecute t cur), fun t cur => .inl (h.statsRow t cur)⟩

theorem Serves.orDrops {size : Value} {rest : Row} {fields : List String} {row : Row}
    (h : Serves d p size rest fields row) : ServesOrDrops d p size rest fields row :=
  ⟨h.toOpens, h.toAnswersSize.orGone, h.toAnswersStats.orGone⟩

end Answers

/-! ## The retrieve methods -/

section Retrieve

variable {d : Driver} {p : DbParams} (ho : Opens d p) (t0 : List Event) (E : List Sample)
  (L : List String) (c : Conn)
include ho

/-- `retrieve_database_size` on the cursor of `c`: the size, or after a loss of the size query
`None` on a new connection; only a server that can lose the size gives `None`. -/
theorem retrieveDatabaseSize_drops {size : Value} {rest : Row} (hs : SizeOrGone d p size rest) :
    Triple (Fields t0 E L (some c) (some ⟨c⟩)) (retrieveDatabaseSize d p)
      (fun v w => ∃ a : Bool,
        (∃ c, Fields t0 E (L ++ if a then [] else [sizeQuery p.database]) (some c) (some ⟨c⟩) w) ∧
        v = (if a then size else .null) ∧ (AnswersSize d p size rest → a = true))
      (fun _ _ => False) :=
  have hsql := sizeQuery_ne_versionQuery p.database
  Triple.tryCatch (show Triple _ _ _ (fun e w => Fields t0 E (L ++ [sizeQuery p.database]) (some c)
      (some ⟨c⟩) w ∧ e.isGone = true ∧ ¬AnswersSize d p size rest) from
    Triple.bind (liveCursor_some (fun _ h => h.2.1) _) fun cur =>
      Triple.bind (cursorExecute_drops t0 E L _ _ d hsql cur (hs.sizeExecute · cur)
        (·.sizeExecute · cur)) fun _ =>
      Triple.bind (liveCursor_some (fun _ h => h.1.2.1) _) fun cur =>
      Triple.bind (cursorFetchone_drops t0 E L _ _ d hsql cur (hs.sizeRow · cur) (·.sizeRow · cur))
        fun r =>
      fun w ⟨hw, hr⟩ => by subst hr; exact ⟨true, ⟨c, by simpa using hw⟩, rfl, fun _ => rfl⟩)
    fun _ => Triple.and_fact fun ⟨hg, hn⟩ =>
      Triple.conseq (onOperationalError_gone ho t0 E _ Value.null hg) (fun _ h => h.2.2)
        (fun _ _ ⟨h, hv⟩ => ⟨false, h, hv, fun ha => absurd ha hn⟩) (fun _ _ h => h)

/-- `_retrieve_database_table_stats("pg_stat_database")` on the cursor of `c`: the columns of
the table among those of the row, or after a loss of one of its two statements `None` on a new
connection. -/
theorem retrieveDatabaseTableStats_drops {fields : List String} {row : Row}
    (hs : StatsOrGone d p fields row) :
    Triple (Fields t0 E L (some c) (some ⟨c⟩))
      (retrieveDatabaseTableStats d p "pg_stat_database" pgStatDatabase)
      (fun r w => ∃ b : Bool, ∃ s,
        (∃ c, Fields t0 E (L ++ if b then [] else [s]) (some c) (some ⟨c⟩) w) ∧
        (s = fieldsQuery "pg_stat_database" p.database ∨
          s = statsQuery "pg_stat_database" p.database) ∧
        r = (if b then some (selectColumns pgStatDatabase (PyDict.ofList (fields.zip row)))
          else none) ∧ (AnswersStats d p fields row → b = true))
      (fun _ _ => False) := by
  have hf := fieldsQuery_ne_versionQuery "pg_stat_database" p.database
  have hst := statsQuery_ne_versionQuery "pg_stat_database" p.database
  have hlost {s : String} (hs : s = fieldsQuery "pg_stat_database" p.database ∨
      s = statsQuery "pg_stat_database" p.database) (e : Exc) (w : World)
      (h : Fields t0 E (L ++ [s]) (some c) (some ⟨c⟩) w ∧ e.isGone = true ∧
        ¬AnswersStats d p fields row) :
      ∃ s, Fields t0 E (L ++ [s]) (some c) (some ⟨c⟩) w ∧
        (s = fieldsQuery "pg_stat_database" p.database ∨
          s = statsQuery "pg_stat_database" p.database) ∧ e.isGone = true ∧
        ¬AnswersStats d p fields row := ⟨s, h.1, hs, h.2⟩
  refine Triple.bind (show Triple _ _ (fun fetched w => ∃ b : Bool, ∃ s,
      (∃ c, Fields t0 E (L ++ if b then [] else [s]) (some c) (some ⟨c⟩) w) ∧
      (s = fieldsQuery "pg_stat_database" p.database ∨
        s = statsQuery "pg_stat_database" p.database) ∧
      fetched = (if b then some (fields, some row) else none) ∧
      (AnswersStats d p fields row → b = true)) _ from
    Triple.tryCatch (show Triple _ _ _ (fun e w => ∃ s, Fields t0 E (L ++ [s]) (some c) (some ⟨c⟩) w ∧
        (s = fieldsQuery "pg_stat_database" p.database ∨
          s = statsQuery "pg_stat_database" p.database) ∧ e.isGone = true ∧
        ¬AnswersStats d p fields row) from ?_)
      fun _ => Triple.of_exists fun s => Triple.and_fact fun ⟨hs, hg, hn⟩ =>
      Triple.conseq (onOperationalError_gone ho t0 E _ none hg) (fun _ h => h.2.2)
        (fun _ _ ⟨h, hv⟩ => ⟨false, s, h, hs, hv, fun ha => absurd ha hn⟩) (fun _ _ h => h))
    fun fetched => Triple.of_exists fun b => Triple.of_exists fun s =>
      Triple.and_fact fun ⟨hs, hf, hb⟩ => ?_
  · exact Triple.bind (liveCursor_some (fun _ h => h.2.1) _) fun cur =>
      Triple.bind (Triple.conseq (cursorExecute_drops t0 E L _ _ d hf cur
        (hs.fieldsExecute · cur) (·.fieldsExecute · cur)) (fun _ h => h) (fun _ _ h => h)
        (hlost (.inl rfl))) fun _ =>
      Triple.bind (liveCursor_some (fun _ h => h.1.2.1) _) fun cur =>
      Triple.bind (Triple.conseq (cursorDescription_drops t0 E L _ _ d hf cur (hs.columns · cur)
        (·.columns · cur)) (fun _ h => h) (fun _ _ h => h) (hlost (.inl rfl))) fun fs =>
      Triple.and_fact fun hfs =>
      Triple.bind (liveCursor_some (fun _ h => h.2.1) _) fun cur =>
      Triple.bind (Triple.conseq (cursorExecute_drops t0 E L _ _ d hst cur
        (hs.statsExecute · cur) (·.statsExecute · cur)) (fun _ h => h) (fun _ _ h => h)
        (hlost (.inr rfl))) fun _ =>
      Triple.bind (liveCursor_some (fun _ h => h.1.2.1) _) fun cur =>
      Triple.bind (Triple.conseq (cursorFetchone_drops t0 E L _ _ d hst cur (hs.statsRow · cur)
        (·.statsRow · cur)) (fun _ h => h) (fun _ _ h => h) (hlost (.inr rfl))) fun r =>
      Triple.and_fact fun hr =>
      Triple.pure' fun _ h => ⟨true, _, ⟨c, by simpa using h⟩, .inl rfl, by rw [hfs, hr]; rfl,
        fun _ => rfl⟩
  · subst hf
    cases b
    · exact Triple.pure' fun _ h => ⟨false, s, h, hs, rfl, hb⟩
    · exact Triple.pure' fun _ h => ⟨true, s, h, hs, rfl, hb⟩

/-- `retrieve_database_stats` on the cursor of `c`: `update` of `{}` by keys that do not
repeat is the dict itself. -/
theorem retrieveDatabaseStats_drops {fields : List String} {row : Row}
    (hs : StatsOrGone d p fields row) :
    Triple (Fields t0 E L (some c) (some ⟨c⟩)) (retrieveDatabaseStats d p)
      (fun r w => ∃ b : Bool, ∃ s,
        (∃ c, Fields t0 E (L ++ if b then [] else [s]) (some c) (some ⟨c⟩) w) ∧
        (s = fieldsQuery "pg_stat_database" p.database ∨
          s = statsQuery "pg_stat_database" p.database) ∧
        r = (if b then selectColumns pgStatDatabase (PyDict.ofList (fields.zip row)) else []) ∧
          (AnswersStats d p fields row → b = true))
      (fun _ _ => False) := by
  have hnodup : (pgStatDatabase.map Prod.fst).Nodup := by decide
  simp only [retrieveDatabaseStats, databaseStats, List.foldlM]
  refine Triple.bind (Triple.bind (retrieveDatabaseTableStats_drops ho t0 E L c hs) fun r =>
    Triple.of_exists fun b => Triple.of_exists fun s => Triple.and_fact fun ⟨hs, hr, hb⟩ => ?_)
    fun _ => Triple.pure' fun _ h => h
  subst hr
  cases b
  · exact Triple.pure' fun _ h => ⟨false, s, h, hs, rfl, hb⟩
  · refine Triple.pure' fun _ h => ⟨true, s, h, hs, ?_, hb⟩
    rw [PyDict.update_eq_append (by simpa using (selectColumns_keys_sublist _ _).nodup hnodup),
      List.nil_append]
    rfl

/-- The cycle after the size: the statistics, their samples, and `close`. -/
theorem sampleStats_drops {fields : List String} {row : Row} (hs : StatsOrGone d p fields row)
    (hreset : ResetIsDatetime (PyDict.ofList (fields.zip row))) :
    Triple (Fields t0 E L (some c) (some ⟨c⟩))
      (do let dbstats ← retrieveDatabaseStats d p; emitStats dbstats; close d)
      (fun _ w => ∃ b : Bool, ∃ s,
        Fields t0 (E ++ if b then statSamples (PyDict.ofList (fields.zip row)) else [])
          (L ++ if b then [] else [s]) none none w ∧
        (s = fieldsQuery "pg_stat_database" p.database ∨
          s = statsQuery "pg_stat_database" p.database) ∧
        (AnswersStats d p fields row → b = true))
      (fun _ _ => False) :=
  Triple.bind (retrieveDatabaseStats_drops ho t0 E L c hs) fun _ =>
    Triple.of_exists fun b => Triple.of_exists fun s => Triple.and_fact fun ⟨hs, hr, hb⟩ =>
    Triple.of_exists fun _ => by
    subst hr
    have hreset' : ResetIsDatetime
        (if b then selectColumns pgStatDatabase (PyDict.ofList (fields.zip row)) else []) := by
      cases b
      · exact ResetIsDatetime.nil
      · exact hreset.selectColumns
    exact Triple.bind (emitStats_fields t0 E _ _ _ _ hreset') fun _ =>
      Triple.conseq (close_closes ho.toCloses t0 _ _) (fun _ h => h.2.2)
        (fun _ _ h => ⟨b, s, by cases b <;> simpa [statSamples_selectColumns] using h, hs, hb⟩)
        (fun _ _ h => h)

end Retrieve

/-! ## The whole call -/

section Call

variable {d : Driver} {p : DbParams} {size : Value} {rest : Row} {fields : List String} {row : Row}
  (hs : ServesOrDrops d p size rest fields row)
  (hreset : ResetIsDatetime (PyDict.ofList (fields.zip row))) (t0 : List Event)
include hs hreset

theorem sampleConnected_drops (c : Conn) :
    Triple (Fields t0 [] [] (some c) (some ⟨c⟩)) (sampleConnected d p)
      (fun _ w => ∃ a b : Bool, ∃ s,
        Fields t0 ((if a then sizeSamples size else []) ++
          (if b then statSamples (PyDict.ofList (fields.zip row)) else []))
          ((if a then [] else [sizeQuery p.database]) ++ (if b then [] else [s])) none none w ∧
        (s = fieldsQuery "pg_stat_database" p.database ∨
          s = statsQuery "pg_stat_database" p.database) ∧
        (AnswersSize d p size rest → a = true) ∧ (AnswersStats d p fields row → b = true))
      (fun _ _ => False) :=
  Triple.bind (retrieveDatabaseSize_drops hs.toOpens t0 [] [] c hs.toSizeOrGone) fun _ =>
    Triple.of_exists fun a => Triple.and_fact fun ⟨hv, ha⟩ => Triple.of_exists fun c => by
    subst hv
    exact Triple.bind (emitSize_fields t0 [] _ _ _ _) fun _ =>
      Triple.conseq (sampleStats_drops hs.toOpens t0 _ _ c hs.toStatsOrGone hreset) (fun _ h => h)
        (fun _ _ ⟨b, s, h, hs, hb⟩ => ⟨a, b, s,
          by rwa [List.nil_append, List.nil_append, sizeSamples_ite] at h, hs, ha, hb⟩)
        (fun _ _ h => h)

/-- A `gather_sample` call against a server that answers or loses the connection, from any
state: it returns, emits the size unless a statement of the size lost the connection and then
the statistics unless one of theirs lost it, and leaves both fields reset.  The lost statements
of the call are exactly those losses. -/
theorem gatherSample_drops :
    Triple (Emits t0 [] []) (gatherSample d p)
      (fun _ w => ∃ a b : Bool, ∃ s,
        Fields t0 ((if a then sizeSamples size else []) ++
          (if b then statSamples (PyDict.ofList (fields.zip row)) else []))
          ((if a then [] else [sizeQuery p.database]) ++ (if b then [] else [s])) none none w ∧
        (s = fieldsQuery "pg_stat_database" p.database ∨
          s = statsQuery "pg_stat_database" p.database) ∧
        (AnswersSize d p size rest → a = true) ∧ (AnswersStats d p fields row → b = true))
      (fun _ _ => False) :=
  Triple.bind (reconnectOrWarn_opens hs.toOpens t0 [] []) fun _ => Triple.and_fact fun hb => by
    subst hb
    refine Triple.of_exists fun c => ?_
    exact Triple.bind (isConnected_fields t0 [] [] _ _) fun _ => Triple.and_fact fun hc => by
      subst hc
      exact sampleConnected_drops hs hreset t0 c

end Call

/-- A `gather_sample` call in which every driver call returns, the statistics query gives a row
and `stats_reset`, when the row has it, is a `datetime`, returns normally from any state.  Its
samples are `postgres.database.size` with the size (unless it is `NULL`), then, for each entry of
`_database_stats["pg_stat_database"]` whose column the row has, one sample named by the entry,
with its extra fields, valued with the row's value, `NULL` included, or with `timestamp_ms` of
it for `stats_reset`.  Both fields are reset after it. -/
theorem gatherSample_emits_row {d : Driver} {p : DbParams} {size : Value} {rest : Row}
    {fields : List String} {row : Row} (hs : Serves d p size rest fields row)
    (hreset : ResetIsDatetime (PyDict.ofList (fields.zip row))) (w : World) :
    ∃ w', gatherSample d p w = .ok () w' ∧ w'.db = none ∧ w'.cursor = none ∧
      ∃ seg, w'.trace = w.trace ++ seg ∧
        emitted seg = sizeSamples size ++ statSamples (PyDict.ofList (fields.zip row)) := by
  obtain ⟨_, w', hrun, a, b, -, ⟨hd, hc, seg, ht, hE, -⟩, -, ha, hb⟩ :=
    Triple.ok_of (gatherSample_drops hs.orDrops hreset w.trace) (Emits.start w)
  rw [ha hs.toAnswersSize, hb hs.toAnswersStats] at hE
  exact ⟨w', hrun, hd, hc, seg, ht, hE⟩

/-- The columns of the statistics row of the examples below. -/
def statsColumns : List String := ["datid", "datname", "numbackends", "xact_commit", "stats_reset"]

/-- `1970-01-01T00:00:01.5`, naive. -/
def resetTime : Datetime :=
  { year := 1970, month := 1, day := 1, hour := 0, minute := 0, second := 1,
    microsecond := 500000, tzinfo := none }

/-- A statistics row whose `xact_commit` is `NULL`. -/
def nullCommitRow : Row := [.int 1, .text "db", .int 3, .null, .datetime resetTime]

/-- The statistics row with no `NULL`. -/
def fullRow : Row := [.int 1, .text "db", .int 3, .int 5, .datetime resetTime]

/-- A server that answers every call, with the size `42` and the statistics row `row`. -/
def statsServer (row : Row) : Driver where
  connect _ _ := .ok ()
  cursor _ _ := .ok ()
  execute _ _ _ := .ok ()
  description _ _ _ := .ok statsColumns
  fetchone _ _ sql :=
    if sql = sizeQuery "db" then .ok (some [.int 42])
    else if sql = statsQuery "pg_stat_database" "db" then .ok (some row)
    else .ok none
  closeCursor _ _ := .ok ()
  closeConn _ _ := .ok ()

/-- `statsServer` with the row `nullCommitRow`. -/
def nullCommitServer : Driver := statsServer nullCommitRow

theorem nullCommitServer_serves :
    Serves nullCommitServer exampleParams (.int 42) [] statsColumns nullCommitRow where
  connect _ := rfl
  cursor _ _ := rfl
  closeCursor _ _ := rfl
  closeConn _ _ := rfl
  sizeExecute _ _ := rfl
  sizeRow _ _ := rfl
  fieldsExecute _ _ := rfl
  columns _ _ := rfl
  statsExecute _ _ := rfl
  statsRow _ _ := rfl

theorem nullCommitServer_reset :
    ResetIsDatetime (PyDict.ofList (statsColumns.zip nullCommitRow)) :=
  ResetIsDatetime.of_lookup resetTime (by decide)

/-- The first call of a run against `nullCommitServer` returns and emits what
`gatherSample_emits_row` says. -/
theorem nullCommitServer_emits_row :
    Serves nullCommitServer exampleParams (.int 42) [] statsColumns
      nullCommitRow ∧
    ResetIsDatetime (PyDict.ofList (statsColumns.zip nullCommitRow)) ∧
    ∃ w', gatherSample nullCommitServer exampleParams World.init = .ok () w' ∧ w'.db = none ∧
      w'.cursor = none ∧ ∃ seg, w'.trace = World.init.trace ++ seg ∧
        emitted seg = sizeSamples (.int 42) ++ statSamples (PyDict.ofList (statsColumns.zip
          nullCommitRow)) :=
  ⟨nullCommitServer_serves, nullCommitServer_reset,
    gatherSample_emits_row nullCommitServer_serves nullCommitServer_reset World.init⟩

/-- Against `nullCommitServer` a call emits `postgres.database.transactions` with the `NULL` of
`xact_commit`: the samples are the size, then `numbackends`, `stats_reset` and the `NULL`, in the
order `keys()` gives the columns. -/
theorem gatherSample_emits_null :
    ∃ w', gatherSample nullCommitServer exampleParams World.init = .ok () w' ∧
      emitted w'.trace = [("postgres.database.size", .int 42, none),
        ("postgres.database.connections", .int 3, none),
        ("postgres.database.stats_reset", .int 1500, none),
        ("postgres.database.transactions", .null, some [("result", "committed")])] := by
  obtain ⟨_, w', hrun, a, b, -, ⟨-, -, seg, hseg, hE, -⟩, -, ha, hb⟩ := Triple.ok_of
    (gatherSample_drops nullCommitServer_serves.orDrops nullCommitServer_reset World.init.trace)
    (Emits.start World.init)
  refine ⟨w', hrun, ?_⟩
  rw [hseg, emitted_append, hE, ha nullCommitServer_serves.toAnswersSize,
    hb nullCommitServer_serves.toAnswersStats]
  decide

end ScalyrAgent.Postgres
