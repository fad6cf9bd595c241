import ScalyrAgent.Postgres.Cycle

/-!
# Calls that leave a connection behind

Two ways a `gather_sample` call ends with `PostgreSQLDb` holding a connection that it will not
close in this call.

When the statistics query finds no row, `_fields_and_data_to_dict` raises the `TypeError` of
`zip(fields, None)` outside the `try` of the retrieve method, and the final `close` of the
cycle never runs: both fields stay set to the connection the call opened
(`gatherSample_noRow`).

When `cursor()` raises an exception outside `pg8000.Error`, the `except Exception` clause of
`connect` logs it and raises a new `Exception` without resetting `_db`, which `connect` assigned
before it asked for the cursor.  `gather_sample` logs a warning and returns with `_db` set and
`_cursor` unset (`gatherSample_cursorRefused`).

In both cases `gatherSample_sound` says that the connection left in `_db` is one pg8000 holds
open, and after the missing row `gatherSample_live` says that the call itself opened it.
-/

namespace ScalyrAgent.Postgres

/-! ## A missing row -/

/-- The statements of the statistics are answered, with the columns `fields`, but the row
query finds no row for the database. -/
structure AnswersNoRow (d : Driver) (p : DbParams) (fields : List String) : Prop where
  fieldsExecute : ∀ t cur, d.execute t cur (fieldsQuery "pg_stat_database" p.database) = .ok ()
  columns : ∀ t cur, d.description t cur (fieldsQuery "pg_stat_database" p.database) = .ok fields
  statsExecute : ∀ t cur, d.execute t cur (statsQuery "pg_stat_database" p.database) = .ok ()
  statsRow : ∀ t cur, d.fetchone t cur (statsQuery "pg_stat_database" p.database) = .ok none

section MissingRow

variable {d : Driver} {p : DbParams} {fields : List String} (hn : AnswersNoRow d p fields)
  (t0 : List Event) (E : List Sample) (L : List String) (c : Conn)
include hn

/-- `_retrieve_database_table_stats("pg_stat_database")` with no row: `zip(fields, None)` raises
outside the `try`, with both fields as they were. -/
theorem retrieveDatabaseTableStats_noRow :
    Triple (Fields t0 E L (some c) (some ⟨c⟩))
      (retrieveDatabaseTableStats d p "pg_stat_database" pgStatDatabase) (fun _ _ => False)
      (fun e w => fieldsAndDataToDict fields none = .error e ∧
        Fields t0 E L (some c) (some ⟨c⟩) w) := by
  have hq := Fields.quiet t0 E L (some c) (some ⟨c⟩)
  refine Triple.bind (show Triple _ _ (fun fetched w => Fields t0 E L (some c) (some ⟨c⟩) w ∧
      fetched = some (fields, none)) _ from
    Triple.tryCatch (show Triple _ _ _ (fun _ _ => False) from ?_) fun _ => Triple.of_false)
    fun fetched => Triple.and_fact fun hf => ?_
  · exact Triple.bind (liveCursor_some (fun _ h => h.2.1) _) fun cur =>
      Triple.bind (cursorExecute_answered hq d cur (hn.fieldsExecute · cur)) fun _ =>
      Triple.bind (liveCursor_some (fun _ h => h.1.2.1) _) fun cur =>
      Triple.bind (cursorDescription_answered hq d cur (hn.columns · cur)) fun fs =>
      Triple.and_fact fun hfs =>
      Triple.bind (liveCursor_some (fun _ h => h.2.1) _) fun cur =>
      Triple.bind (cursorExecute_answered hq d cur (hn.statsExecute · cur)) fun _ =>
      Triple.bind (liveCursor_some (fun _ h => h.1.2.1) _) fun cur =>
      Triple.bind (cursorFetchone_answered hq d cur (hn.statsRow · cur)) fun r =>
      Triple.and_fact fun hr => Triple.pure' fun _ h => ⟨h, by rw [hfs, hr]⟩
  · subst hf
    exact Triple.bind (Triple.throw' fun _ h => ⟨rfl, h⟩) fun _ => Triple.of_false

/-- `retrieve_database_stats` raises that `TypeError` as well. -/
theorem retrieveDatabaseStats_noRow :
    Triple (Fields t0 E L (some c) (some ⟨c⟩)) (retrieveDatabaseStats d p) (fun _ _ => False)
      (fun e w => fieldsAndDataToDict fields none = .error e ∧
        Fields t0 E L (some c) (some ⟨c⟩) w) := by
  simp only [retrieveDatabaseStats, databaseStats, List.foldlM]
  exact Triple.bind (Triple.bind (retrieveDatabaseTableStats_noRow hn t0 E L c) fun _ =>
    Triple.of_false) fun _ => Triple.of_false

/-- A call against a server that opens connections and answers the size, but has no row of
statistics for the database, raises that `TypeError` before the final `close`: both fields stay
set to the connection the call opened. -/
theorem gatherSample_noRow (ho : Opens d p) {size : Value} {rest : Row}
    (hs : AnswersSize d p size rest) :
    Triple (Emits t0 [] []) (gatherSample d p) (fun _ _ => False)
      (fun e w => fieldsAndDataToDict fields none = .error e ∧
        ∃ c, w.db = some c ∧ w.cursor = some ⟨c⟩) :=
  Triple.bind (Triple.noRaise (reconnectOrWarn_opens ho t0 [] [])) fun _ =>
    Triple.and_fact fun hb => by
    subst hb
    refine Triple.of_exists fun c => ?_
    refine Triple.bind (Triple.noRaise (isConnected_fields t0 [] [] _ _)) fun _ =>
      Triple.and_fact fun hc => ?_
    subst hc
    exact Triple.bind (Triple.noRaise (retrieveDatabaseSize_drops ho t0 [] [] c hs.orGone)) fun _ =>
      Triple.of_exists fun _ => Triple.and_fact fun _ => Triple.of_exists fun c' =>
      Triple.bind (Triple.noRaise (emitSize_fields t0 [] _ _ _ _)) fun _ =>
      Triple.bind (Triple.conseq (retrieveDatabaseStats_noRow hn t0 _ _ c') (fun _ h => h)
        (fun _ _ h => h) fun _ _ ⟨he, hd, hcur, _⟩ => ⟨he, c', hd, hcur⟩) fun _ =>
      Triple.of_false

end MissingRow

/-- After any run, a call against a server that opens connections and answers the size and the
statistics statements, but finds no row of `pg_stat_database` for the database, raises the
`TypeError` of `zip(fields, None)` and leaves `_db` and `_cursor` set to a connection that is
still open, one that this call opened. -/
theorem run_missingRow_leaves_open (p : DbParams) (ds : List Driver) {d : Driver} {size : Value}
    {rest : Row} {fields : List String} (ho : Opens d p) (hs : AnswersSize d p size rest)
    (hn : AnswersNoRow d p fields) :
    ∃ e c w, fieldsAndDataToDict fields none = .error e ∧
      gatherSample d p (run p ds World.init) = .error e w ∧
      w.db = some c ∧ w.cursor = some ⟨c⟩ ∧ c ∈ w.openConns ∧
      ∃ seg, w.trace = (run p ds World.init).trace ++ seg ∧ Event.connect c none ∈ seg := by
  have h := gatherSample_noRow hn (run p ds World.init).trace ho hs _ (Emits.start _)
  have hw := gatherSample_live _ _ d p _ (run_sound p ds World.init sound_init).restart
  change (gatherSample d p (run p ds World.init)).Holds _ _ at h hw
  cases hx : gatherSample d p (run p ds World.init) with
  | ok a w => rw [hx] at h; exact h.elim
  | error e w =>
    rw [hx] at h hw
    obtain ⟨he, c, hd, hcur⟩ := h
    obtain ⟨hsound, hlive⟩ := hw
    have hopened := (hlive (by cases he; rfl)).2 ⟨c⟩ hcur
    obtain ⟨seg, hseg⟩ := hsound.trace_from
    rw [← hseg, List.drop_left] at hopened
    exact ⟨e, c, w, he, rfl, hd, hcur, hsound.db_open c (by simp [hd]), seg, hseg.symm, hopened⟩

theorem noStatsRow_missingRow_leaves_open :
    Opens noStatsRow exampleParams ∧ AnswersSize noStatsRow exampleParams (.int 42) [] ∧
      AnswersNoRow noStatsRow exampleParams ["datname", "numbackends"] ∧
      ∃ e c w, fieldsAndDataToDict ["datname", "numbackends"] none = .error e ∧
        gatherSample noStatsRow exampleParams (run exampleParams [] World.init) = .error e w ∧
        w.db = some c ∧ w.cursor = some ⟨c⟩ ∧ c ∈ w.openConns ∧
        ∃ seg, w.trace = (run exampleParams [] World.init).trace ++ seg ∧
          Event.connect c none ∈ seg :=
  have ho : Opens noStatsRow exampleParams := ⟨⟨fun _ _ => rfl, fun _ _ => rfl⟩, fun _ => rfl,
    fun _ _ => rfl⟩
  have hs : AnswersSize noStatsRow exampleParams (.int 42) [] :=
    ⟨fun _ _ => rfl, fun _ _ => by simp only [noStatsRow]; rw [if_pos]; rfl⟩
  have hn : AnswersNoRow noStatsRow exampleParams ["datname", "numbackends"] :=
    ⟨fun _ _ => rfl, fun _ _ => rfl, fun _ _ => rfl,
      fun _ _ => by simp only [noStatsRow]; rw [if_neg]; decide⟩
  ⟨ho, hs, hn, run_missingRow_leaves_open exampleParams [] ho hs hn⟩

/-! ## A refused cursor -/

/-- Connections are accepted and closes return, but `cursor()` raises an exception outside
`pg8000.Error`, such as a `socket.error`. -/
structure RefusesCursor (d : Driver) (p : DbParams) extends Closes d : Prop where
  connect : ∀ t, d.connect t p = .ok ()
  cursor : ∀ t c, ∃ e, d.cursor t c = .error e ∧ e.isPgError = false ∧ e.isException = true

section CursorRefused

variable {d : Driver} {p : DbParams} (hr : RefusesCursor d p) (t0 : List Event)
  (E : List Sample) (L : List String)
include hr

/-- `connect`: `_db` is assigned, `cursor()` raises, and the `except Exception` clause logs it
and raises a new `Exception` with `_db` still set. -/
theorem connect_cursorRefused :
    Triple (Fields t0 E L none none) (connect d p) (fun _ _ => False)
      (fun e w => (∃ c, Fields t0 E L (some c) none w) ∧ e.isException = true) := by
  refine Triple.tryCatch (show Triple _ _ (fun _ _ => False) (fun e w =>
      (∃ c, Fields t0 E L (some c) none w) ∧ e.isPgError = false ∧ e.isException = true) from
    Triple.bind (Triple.conseq (pgConnect_answered (Fields.quiet t0 E L none none) d p)
      (fun _ h => h) (fun _ _ h => h.1) fun _ _ ⟨_, t, ht⟩ => by simp [hr.connect t] at ht)
      fun c => ?_) fun e => ?_
  · have hdb : Triple (Fields t0 E L none none) (setDb (some c)) (fun _ => Fields t0 E L (some c) none)
        (fun _ _ => False) :=
      Triple.modify' fun _ ⟨_, hc, h⟩ => ⟨rfl, hc, h⟩
    refine Triple.bind (Triple.noRaise hdb) fun _ => Triple.bind (Triple.conseq
      (connCursor_answered (Fields.quiet t0 E L (some c) none) d c) (fun _ h => h)
      (fun _ _ ⟨_, _, t, ht⟩ => ?_) fun _ _ ⟨h, t, ht⟩ => ?_) fun _ => Triple.of_false
    · obtain ⟨e, he, hpg, hex⟩ := hr.cursor t c
      rw [he] at ht
      cases ht
      exact ⟨⟨c, h⟩, hpg, hex⟩
    · obtain ⟨e, he, -⟩ := hr.cursor t c
      rw [he] at ht
      cases ht
  · refine Triple.and_fact fun ⟨hpg, hex⟩ => Triple.ite' (fun h => absurd h (by simp [hpg]))
      fun _ => Triple.ite' (fun _ => Triple.of_exists fun c => ?_) fun h => absurd hex h
    exact Triple.bind (record_quiet (Fields.quiet t0 E L (some c) none) (by simp [Plain, Silent, Event.lostOn]))
      fun _ => Triple.throw' fun _ h => ⟨⟨c, h⟩, rfl⟩

/-- The `try` around the reconnect of `gather_sample` logs the `Exception` and answers `false`. -/
theorem reconnectOrWarn_cursorRefused :
    Triple (Emits t0 E L) (reconnectOrWarn d p)
      (fun b w => (∃ c, Fields t0 E L (some c) none w) ∧ b = false) (fun _ _ => False) :=
  Triple.tryCatch (Triple.bind (Triple.bind (Triple.noRaise (close_closes hr.toCloses t0 E L))
      fun _ => connect_cursorRefused hr t0 E L) fun _ => Triple.of_false)
    fun _ => Triple.and_fact fun hex => Triple.ite' (fun _ => Triple.of_exists fun c =>
      Triple.bind (record_quiet (Fields.quiet t0 E L (some c) none) (by simp [Plain, Silent, Event.lostOn])) fun _ =>
        Triple.pure' fun _ h => ⟨⟨c, h⟩, rfl⟩) fun h => absurd hex h

/-- A call against such a server returns, emits nothing, and leaves `_db` set and `_cursor`
unset. -/
theorem gatherSample_cursorRefused :
    Triple (Emits t0 [] []) (gatherSample d p) (fun _ w => ∃ c, Fields t0 [] [] (some c) none w)
      (fun _ _ => False) :=
  Triple.bind (reconnectOrWarn_cursorRefused hr t0 [] []) fun _ => Triple.and_fact fun hb => by
    subst hb
    exact Triple.ite' (fun h => absurd h (by simp)) fun _ => Triple.pure' fun _ h => h

end CursorRefused

/-- After any run, a call against a server that accepts connections but whose `cursor()` raises
an exception outside `pg8000.Error` returns having emitted nothing, with `_db` set to a
connection pg8000 holds open and `_cursor` unset. -/
theorem run_cursorRefused_leaves_db (p : DbParams) (ds : List Driver) {d : Driver}
    (hr : RefusesCursor d p) :
    ∃ c w, gatherSample d p (run p ds World.init) = .ok () w ∧ w.db = some c ∧
      w.cursor = none ∧ c ∈ w.openConns ∧
      ∃ seg, w.trace = (run p ds World.init).trace ++ seg ∧ emitted seg = [] := by
  obtain ⟨_, w, hx, c, hd, hcur, seg, ht, he, -⟩ :=
    Triple.ok_of (gatherSample_cursorRefused hr (run p ds World.init).trace) (Emits.start _)
  have hw := gatherSample_sound [] 0 d p _ (run_sound p ds World.init sound_init)
  change (gatherSample d p (run p ds World.init)).Holds _ _ at hw
  rw [hx] at hw
  exact ⟨c, w, hx, hd, hcur, hw.db_open c (by simp [hd]), seg, ht, he⟩

theorem cursorRefused_leaves_db :
    RefusesCursor cursorRefused exampleParams ∧
      ∃ c w, gatherSample cursorRefused exampleParams (run exampleParams [] World.init) =
          .ok () w ∧ w.db = some c ∧ w.cursor = none ∧ c ∈ w.openConns ∧
        ∃ seg, w.trace = (run exampleParams [] World.init).trace ++ seg ∧ emitted seg = [] :=
  have hr : RefusesCursor cursorRefused exampleParams :=
    ⟨⟨fun _ _ => rfl, fun _ _ => rfl⟩, fun _ => rfl, fun _ _ => ⟨_, rfl, rfl, rfl⟩⟩
  ⟨hr, run_cursorRefused_leaves_db exampleParams [] hr⟩

end ScalyrAgent.Postgres
