import ScalyrAgent.Postgres.Invariant

/-!
# Every statement of a call runs on a connection the call opened

The last statement of `gather_sample` closes the connection, so that the next call reads the
statistics in a new transaction.  Whether or not that close is reached, the next call cannot
run a statement on an old connection: its first step is `reconnect`, and `connect` sets
`_cursor` to a cursor of the connection it has just opened, or leaves it `None`.  Every
statement reads `_cursor`, and a `None` there raises before the driver is called.

This module proves that for every driver behaviour.  The specification of each method is a
triple over `Live t0 f0`, the invariant of a call that started with the trace `t0`, and
`gatherSample_sound` assembles them.

* `pgConnect_spec` is `pg8000.connect` exactly, and `connect_live` is `connect` after `close`.
* `close_triple` says that `close` resets both fields when it returns.  When it raises, both
  fields may still be set, and `reconnect_triple` then passes the raise on without having
  opened anything.
* `retrieveDatabaseStats_live`, `retrieveDatabaseSize_live` and `sampleConnected_live` follow
  the statements of the sample, each run on `_cursor`.
* `run_sound` and `gatherSample_segment` are the results for runs:
  `gatherSample_queries_on_own_connection` states them for every call of every run.
-/

namespace ScalyrAgent.Postgres

section Call

variable (t0 : List Event) (f0 : Nat) (d : Driver) (p : DbParams)

/-! ## The statements -/

/-- A statement runs on the live cursor, whose connection was opened since `t0`. -/
theorem cursorExecute_live (cur : Cursor) (sql : String) :
    Triple (fun w => Live t0 f0 w ∧ w.cursor = some cur) (cursorExecute d cur sql)
      (fun _ => Live t0 f0) (fun _ => Live t0 f0) := by
  refine Triple.conseq driverCall_triple (fun w ⟨h, hc⟩ => ?_) (fun _ _ h => h) (fun _ _ h => h)
  have key : ∀ (r : Option Exc) (w' : World), w'.trace = w.trace ++ [.execute cur sql r] →
      w'.fresh = w.fresh → w'.db = w.db → w'.cursor = w.cursor →
      w'.openConns = w.openConns → Live t0 f0 w' := by
    intro r w' ht hf hd hcur ho
    have hopened : Event.connect cur.conn none ∈ (w.trace ++ [Event.execute cur sql r]).drop t0.length :=
      mem_drop_append h.1.len_le (h.2 cur (hc ▸ rfl))
    refine ⟨h.1.extend t0 f0 _ ht hf.ge (by simp) (by simp) (fun cur' sql' r' hm => ?_) ⟨?_, ?_⟩,
      fun cur' hc' => ?_⟩
    · simp only [List.mem_singleton, Event.execute.injEq] at hm
      rw [ht, hm.1]; exact hopened
    · rw [hcur, hd]; exact h.1.cursor_db
    · rw [hd, ho]; exact h.1.db_open
    · rw [ht]; exact mem_drop_append h.1.len_le (h.2 cur' (hcur ▸ hc'))
  exact ⟨fun _ _ => key none _ rfl rfl rfl rfl rfl, fun e _ => key (some e) _ rfl rfl rfl rfl rfl⟩

theorem cursorDescription_live (cur : Cursor) :
    Triple (fun w => Live t0 f0 w ∧ w.cursor = some cur) (cursorDescription d cur)
      (fun _ => Live t0 f0) (fun _ => Live t0 f0) :=
  Triple.conseq (cursorDescription_keeps (Live.stable t0 f0) d cur) (fun _ h => h.1)
    (fun _ _ h => h) (fun _ _ h => h)

theorem cursorFetchone_live (cur : Cursor) :
    Triple (fun w => Live t0 f0 w ∧ w.cursor = some cur) (cursorFetchone d cur)
      (fun _ => Live t0 f0) (fun _ => Live t0 f0) :=
  Triple.conseq (cursorFetchone_keeps (Live.stable t0 f0) d cur) (fun _ h => h.1)
    (fun _ _ h => h) (fun _ _ h => h)

/-! ## `connect`, `close` and `reconnect` -/

/-- `pg8000.connect` exactly: the next connection number is taken whether the call returns or
not, and a returned connection is open. -/
theorem pgConnect_spec (w0 : World) :
    Triple (· = w0) (pgConnect d p)
      (fun c w => c = ⟨w0.fresh⟩ ∧
        w = { w0 with
              fresh := w0.fresh + 1
              tick := w0.tick + 1
              trace := w0.trace ++ [.connect ⟨w0.fresh⟩ none]
              openConns := ⟨w0.fresh⟩ :: w0.openConns })
      (fun e w =>
        w = { w0 with
              fresh := w0.fresh + 1
              tick := w0.tick + 1
              trace := w0.trace ++ [.connect ⟨w0.fresh⟩ (some e)] }) := by
  intro w hw
  rw [hw]
  show EStateM.Result.Holds _ _ (pgConnect d p w0)
  simp only [pgConnect, driverCall, bind, EStateM.bind, get, getThe, MonadStateOf.get, EStateM.get,
    modify, modifyGet, MonadStateOf.modifyGet, EStateM.modifyGet, pure, EStateM.pure]
  cases d.connect w0.tick p with
  | ok _ => exact ⟨rfl, rfl⟩
  | error _ => rfl

/-- `pg8000.connect` from a state with both fields reset. -/
theorem pgConnect_live :
    Triple (fun w => Live t0 f0 w ∧ w.cursor = none ∧ w.db = none) (pgConnect d p)
      (fun c w => Live t0 f0 w ∧ w.cursor = none ∧ c ∈ w.openConns ∧
        Event.connect c none ∈ w.trace.drop t0.length)
      (fun _ => Live t0 f0) := by
  refine Triple.of_forall fun w0 ⟨h0, hc, hd⟩ =>
    Triple.conseq (pgConnect_spec d p w0) (fun _ h => h) (fun c w ⟨hcw, hw⟩ => ?_) (fun e w hw => ?_)
  · subst hw hcw
    refine ⟨Live.of_none t0 f0 (h0.1.extend t0 f0 [.connect ⟨w0.fresh⟩ none] rfl (by simp)
      (by simp) (by simpa using h0.1.fresh_le) (by simp) ⟨by simp [hc], by simp [hd]⟩) hc, hc,
      List.mem_cons_self _ _, (mem_drop_append_iff h0.1.len_le).2 (.inr (List.mem_singleton_self _))⟩
  · subst hw
    exact Live.of_none t0 f0 (h0.1.extend t0 f0 [.connect ⟨w0.fresh⟩ (some e)] rfl (by simp)
      (by simp) (by simp) (by simp) ⟨by simp [hc], by simp [hd]⟩) hc

theorem getVersion_live : Keeps (Live t0 f0) (getVersion d) :=
  Triple.tryCatch
    (Triple.bind (liveCursor_triple _) fun cur =>
      Triple.bind (cursorExecute_live t0 f0 d cur _) fun _ =>
      Triple.bind (liveCursor_triple _) fun cur =>
      Triple.bind (cursorFetchone_live t0 f0 d cur) fun _ => liftExcept_keeps _)
    fun _ => Triple.bind (record_keeps (Live.stable t0 f0) ⟨by simp, by simp⟩) fun _ =>
      Triple.pure' fun _ h => h

/-- Inside `connect`, after `self._db = conn`: `conn` was opened since `t0`. -/
def OpenedConn (c : Conn) (w : World) : Prop :=
  Live t0 f0 w ∧ w.db = some c ∧ Event.connect c none ∈ w.trace.drop t0.length

theorem OpenedConn.stable (c : Conn) : Stable (OpenedConn t0 f0 c) := by
  intro w w' e ⟨h, hd, hm⟩ he ht hf hd' hc ho
  refine ⟨Live.stable t0 f0 w w' e h he ht hf hd' hc ho, hd' ▸ hd, ?_⟩
  rw [ht]; exact mem_drop_append h.1.len_le hm

/-- `connect` after `close`: whatever happens, the cursor, when set, is one of a connection
opened since `t0`. -/
theorem connect_live :
    Triple (fun w => Live t0 f0 w ∧ w.cursor = none ∧ w.db = none) (connect d p)
      (fun _ => Live t0 f0) (fun _ => Live t0 f0) := by
  refine Triple.tryCatch (Triple.bind (pgConnect_live t0 f0 d p) fun c => ?_) fun e => ?_
  · have hdb : Triple (fun w => Live t0 f0 w ∧ w.cursor = none ∧ c ∈ w.openConns ∧
          Event.connect c none ∈ w.trace.drop t0.length) (setDb (some c))
          (fun _ => OpenedConn t0 f0 c) (fun _ => Live t0 f0) :=
      Triple.modify' fun w ⟨h, hc, ho, hm⟩ => ⟨Live.of_none t0 f0 (h.1.recohere t0 f0 rfl rfl
        ⟨by simp [hc], by simpa using ho⟩) hc, rfl, hm⟩
    have hcur : Triple (OpenedConn t0 f0 c) (connCursor d c)
        (fun cur w => OpenedConn t0 f0 c w ∧ cur = ⟨c⟩) (fun _ => Live t0 f0) :=
      Triple.conseq (connCursor_keeps (OpenedConn.stable t0 f0 c) d c) (fun _ h => h)
        (fun _ _ h => h) (fun _ _ h => h.1)
    have hset : ∀ cur, Triple (fun w => OpenedConn t0 f0 c w ∧ cur = ⟨c⟩) (setCursor (some cur))
        (fun _ => Live t0 f0) (fun _ => Live t0 f0) := fun cur =>
      Triple.modify' fun w ⟨⟨h, hd, hm⟩, hcur⟩ => ⟨h.1.recohere t0 f0 rfl rfl
        ⟨by simpa [hcur] using hd, by simpa [hd] using h.1.db_open⟩, by simpa [hcur] using hm⟩
    exact Triple.bind hdb fun _ => Triple.bind hcur fun cur => Triple.bind (hset cur) fun _ =>
      Triple.bind (getVersion_live t0 f0 d) fun _ => Triple.pure' fun _ h => h
  · have hdb : Triple (Live t0 f0) (setDb none) (fun _ w => Sound t0 f0 { w with cursor := none })
        (fun _ => Live t0 f0) :=
      Triple.modify' fun _ h => h.1.recohere t0 f0 rfl rfl ⟨by simp, by simp⟩
    have hcur : Triple (fun w => Sound t0 f0 { w with cursor := none }) (setCursor none)
        (fun _ => Live t0 f0) (fun _ => Live t0 f0) :=
      Triple.modify' fun _ h => Live.of_none t0 f0 h rfl
    refine Triple.ite' (fun _ => ?_) fun _ => Triple.ite' (fun _ => ?_) fun _ =>
      Triple.throw' fun _ h => h
    · exact Triple.bind hdb fun _ => Triple.bind hcur fun _ =>
        record_keeps (Live.stable t0 f0) ⟨by simp, by simp⟩
    · exact Triple.bind (record_keeps (Live.stable t0 f0) ⟨by simp, by simp⟩) fun _ =>
        Triple.throw' fun _ h => h

/-- `if self._db: self._db.close()`, from a sound state: when it returns, the state is sound
once both fields are reset. -/
theorem closeDb_triple {I : World → Prop} (hI : Stable I) (hIS : ∀ w, I w → Sound t0 f0 w) :
    Triple I (closeDb d) (fun _ w => Sound t0 f0 { w with cursor := none, db := none })
      (fun _ => I) := by
  refine Triple.bind (Triple.get' fun _ h => h) fun s => ?_
  cases s.db with
  | none => exact Triple.pure' fun w h => (hIS w h).recohere t0 f0 rfl rfl ⟨by simp, by simp⟩
  | some c =>
    refine Triple.conseq driverCall_triple (fun w h => ⟨fun _ _ => ?_, fun e _ => ?_⟩)
      (fun _ _ h => h) (fun _ _ h => h)
    · exact (hIS w h).extend t0 f0 [.closeConn c none] rfl (by simp) (by simp) (by simp)
        (by simp) ⟨by simp, by simp⟩
    · exact hI w _ _ h ⟨by simp, by simp⟩ rfl rfl rfl rfl rfl

/-- `close`: when it returns both fields are reset; when it raises, `I` still holds. -/
theorem close_triple {I : World → Prop} (hI : Stable I) (hIS : ∀ w, I w → Sound t0 f0 w) :
    Triple I (close d) (fun _ w => Live t0 f0 w ∧ w.cursor = none ∧ w.db = none) (fun _ => I) :=
  have hcur : Triple (fun w => Sound t0 f0 { w with cursor := none, db := none })
      (setCursor none) (fun _ w => Sound t0 f0 { w with db := none } ∧ w.cursor = none)
      (fun _ => I) :=
    Triple.modify' fun _ h => ⟨h, rfl⟩
  have hdb : Triple (fun w => Sound t0 f0 { w with db := none } ∧ w.cursor = none) (setDb none)
      (fun _ w => Live t0 f0 w ∧ w.cursor = none ∧ w.db = none) (fun _ => I) :=
    Triple.modify' fun _ ⟨h, hc⟩ => ⟨Live.of_none t0 f0 h hc, hc, rfl⟩
  Triple.bind (closeCursor_keeps hI d) fun _ => Triple.bind (closeDb_triple t0 f0 d hI hIS)
    fun _ => Triple.bind hcur fun _ => hdb

/-- `reconnect`: when it returns, the cursor, when set, is one of a connection opened since
`t0`. -/
theorem reconnect_triple {I : World → Prop} (hI : Stable I) (hIS : ∀ w, I w → Sound t0 f0 w)
    (hLI : ∀ w, Live t0 f0 w → I w) :
    Triple I (reconnect d p) (fun _ => Live t0 f0) (fun _ => I) :=
  Triple.bind (close_triple t0 f0 d hI hIS) fun _ =>
    Triple.conseq (connect_live t0 f0 d p) (fun _ h => h) (fun _ _ h => h) (fun _ w h => hLI w h)

theorem reconnect_live : Keeps (Live t0 f0) (reconnect d p) :=
  reconnect_triple t0 f0 d p (Live.stable t0 f0) (fun _ h => h.1) (fun _ h => h)

/-! ## The sample -/

theorem onOperationalError_live {α : Type} (v : α) (e : Exc) :
    Keeps (Live t0 f0) (onOperationalError d p v e) := by
  cases e with
  | operational errcode _ =>
    exact Triple.ite' (fun _ => Triple.throw' fun _ h => h) fun _ =>
      Triple.bind (reconnect_live t0 f0 d p) fun _ => Triple.pure' fun _ h => h
  | _ => exact Triple.throw' fun _ h => h

theorem retrieveDatabaseTableStats_live (table : String) (entries : List (String × List String)) :
    Keeps (Live t0 f0) (retrieveDatabaseTableStats d p table entries) := by
  refine Triple.bind (Triple.tryCatch ?_ fun e => onOperationalError_live t0 f0 d p none e)
    fun fetched => ?_
  · exact Triple.bind (liveCursor_triple _) fun cur =>
      Triple.bind (cursorExecute_live t0 f0 d cur _) fun _ =>
      Triple.bind (liveCursor_triple _) fun cur =>
      Triple.bind (cursorDescription_live t0 f0 d cur) fun _ =>
      Triple.bind (liveCursor_triple _) fun cur =>
      Triple.bind (cursorExecute_live t0 f0 d cur _) fun _ =>
      Triple.bind (liveCursor_triple _) fun cur =>
      Triple.bind (cursorFetchone_live t0 f0 d cur) fun _ => Triple.pure' fun _ h => h
  rcases fetched with _ | ⟨fields, data⟩
  · exact Triple.pure' fun _ h => h
  · exact Triple.bind (liftExcept_keeps _) fun _ => Triple.pure' fun _ h => h

theorem retrieveDatabaseStats_live : Keeps (Live t0 f0) (retrieveDatabaseStats d p) := by
  unfold retrieveDatabaseStats
  apply foldlM_keeps
  intro result table
  refine Triple.bind (retrieveDatabaseTableStats_live t0 f0 d p table.1 table.2) fun tmp => ?_
  cases tmp <;> exact Triple.pure' fun _ h => h

theorem retrieveDatabaseSize_live : Keeps (Live t0 f0) (retrieveDatabaseSize d p) :=
  Triple.tryCatch
    (Triple.bind (liveCursor_triple _) fun cur =>
      Triple.bind (cursorExecute_live t0 f0 d cur _) fun _ =>
      Triple.bind (liveCursor_triple _) fun cur =>
      Triple.bind (cursorFetchone_live t0 f0 d cur) fun _ => liftExcept_keeps _)
    fun e => onOperationalError_live t0 f0 d p Value.null e

theorem sampleConnected_live : Keeps (Live t0 f0) (sampleConnected d p) :=
  Triple.bind (retrieveDatabaseSize_live t0 f0 d p) fun v =>
  Triple.bind (emitSize_keeps (Live.stable t0 f0) v) fun _ =>
  Triple.bind (retrieveDatabaseStats_live t0 f0 d p) fun dbstats =>
  Triple.bind (emitStats_keeps (Live.stable t0 f0) dbstats) fun _ =>
  Triple.conseq (close_triple t0 f0 d (Live.stable t0 f0) fun _ h => h.1) (fun _ h => h)
    (fun _ _ h => h.1) (fun _ _ h => h)

/-- The guarded reconnect: when it answers `true`, the cursor, when set, is one of a connection
opened since `t0`.  It raises only what is not an `Exception`. -/
theorem reconnectOrWarn_sound :
    Triple (Sound t0 f0) (reconnectOrWarn d p) (fun b w => Sound t0 f0 w ∧ (b = true → Live t0 f0 w))
      (fun e w => Sound t0 f0 w ∧ e.isException = false) :=
  Triple.tryCatch (Triple.bind (reconnect_triple t0 f0 d p (Sound.stable t0 f0) (fun _ h => h)
      fun _ h => h.1) fun _ => Triple.pure' fun _ h => ⟨h.1, fun _ => h⟩) fun _ =>
    Triple.ite' (fun _ => Triple.bind (record_keeps (Sound.stable t0 f0) ⟨by simp, by simp⟩)
      fun _ => Triple.pure' fun _ h => ⟨h, by simp⟩)
      fun hne => Triple.throw' fun _ h => ⟨h, by simpa using hne⟩

/-- A whole `gather_sample` call keeps `Sound`, whether it returns or raises, and an `Exception`
it raises leaves `_cursor`, when set, a cursor of a connection opened since `t0`. -/
theorem gatherSample_live :
    Triple (Sound t0 f0) (gatherSample d p) (fun _ => Sound t0 f0)
      (fun e w => Sound t0 f0 w ∧ (e.isException = true → Live t0 f0 w)) := by
  refine Triple.bind (Triple.conseq (reconnectOrWarn_sound t0 f0 d p) (fun _ h => h)
    (fun _ _ h => h) fun _ _ ⟨h, hx⟩ => ⟨h, fun hx' => by simp [hx'] at hx⟩) fun b =>
    Triple.ite' (fun hb => ?_) fun _ => Triple.pure' fun _ h => h.1
  refine Triple.conseq (show Keeps (Live t0 f0) _ from ?_) (fun w h => h.2 hb) (fun _ _ h => h.1)
    (fun _ _ h => ⟨h.1, fun _ => h⟩)
  exact Triple.bind (Triple.bind (Triple.get' fun _ h => h) fun _ => Triple.pure' fun _ h => h)
    fun _ => Triple.ite' (fun _ => sampleConnected_live t0 f0 d p) fun _ =>
      record_keeps (Live.stable t0 f0) ⟨by simp, by simp⟩

theorem gatherSample_sound : Keeps (Sound t0 f0) (gatherSample d p) :=
  Triple.conseq (gatherSample_live t0 f0 d p) (fun _ h => h) (fun _ _ h => h) fun _ _ h => h.1

end Call

/-! ## Runs -/

/-- Every state a run reaches is sound. -/
theorem run_sound (p : DbParams) : ∀ (ds : List Driver) (w : World), Sound [] 0 w →
    Sound [] 0 (run p ds w)
  | [], _, h => h
  | d :: ds, _, h => run_sound p ds _ ((gatherSample_sound [] 0 d p).state h)

/-- Between two calls of any run, `_cursor`, when set, is a cursor of `_db`, and `_db`, when
set, is open. -/
theorem run_coherent (p : DbParams) (ds : List Driver) : Coherent (run p ds World.init) :=
  (run_sound p ds World.init sound_init).toCoherent

/-- A call from a sound state appends to the trace, and every statement among what it appends
runs on a connection opened among what it appends, never on one opened before. -/
theorem gatherSample_segment (p : DbParams) (d : Driver) {t0 : List Event} {f0 : Nat} {w : World}
    (h0 : Sound t0 f0 w) :
    ∃ seg, (gatherSample d p w).state.trace = w.trace ++ seg ∧
      ∀ cur sql r, Event.execute cur sql r ∈ seg →
        Event.connect cur.conn none ∈ seg ∧ ∀ r', Event.connect cur.conn r' ∉ w.trace := by
  have h := (gatherSample_sound w.trace w.fresh d p).state h0.restart
  obtain ⟨seg, hseg⟩ := h.trace_from
  have hdrop : (gatherSample d p w).state.trace.drop w.trace.length = seg := by
    rw [← hseg, List.drop_left]
  refine ⟨seg, hseg.symm, fun cur sql r hm => ?_⟩
  rw [← hdrop] at hm ⊢
  have hopen := h.execute_opened cur sql r hm
  refine ⟨hopen, fun r' hr' => ?_⟩
  have := h.connect_ge _ hopen
  have := h0.connect_lt _ r' hr'
  omega

/-- Every statement a `gather_sample` call runs, whatever the run before it, runs on a
connection that call opened, and on none opened before it. -/
theorem gatherSample_queries_on_own_connection (p : DbParams) (ds : List Driver) (d : Driver) :
    let w := run p ds World.init
    ∃ seg, (gatherSample d p w).state.trace = w.trace ++ seg ∧
      ∀ cur sql r, Event.execute cur sql r ∈ seg →
        Event.connect cur.conn none ∈ seg ∧ ∀ r', Event.connect cur.conn r' ∉ w.trace :=
  gatherSample_segment p d (run_sound p ds World.init sound_init)

/-- A configuration that names a database, a user and a password. -/
def exampleParams : DbParams :=
  { host := "localhost", port := .number 5432, database := "db", username := "u", password := "pw" }

/-- A server that answers every call and has no row of `pg_stat_database` for the database:
the size query returns `42`, every other query no row. -/
def noStatsRow : Driver where
  connect _ _ := .ok ()
  cursor _ _ := .ok ()
  execute _ _ _ := .ok ()
  description _ _ _ := .ok ["datname", "numbackends"]
  fetchone _ _ sql := if sql = sizeQuery "db" then .ok (some [.int 42]) else .ok none
  closeCursor _ _ := .ok ()
  closeConn _ _ := .ok ()

/-- The first call of a run against `noStatsRow` opens connection `0`, and the version query
runs on it. -/
theorem noStatsRow_queries_on_own_connection :
    ∃ seg, (gatherSample noStatsRow exampleParams (run exampleParams [] World.init)).state.trace =
        (run exampleParams [] World.init).trace ++ seg ∧
      Event.execute ⟨⟨0⟩⟩ versionQuery none ∈ seg ∧ Event.connect ⟨0⟩ none ∈ seg := by
  obtain ⟨seg, hseg, hq⟩ := gatherSample_queries_on_own_connection exampleParams [] noStatsRow
  have hs : seg = (gatherSample noStatsRow exampleParams World.init).state.trace := hseg.symm
  have hm : Event.execute ⟨⟨0⟩⟩ versionQuery none ∈ seg := by rw [hs]; decide
  exact ⟨seg, hseg, hm, (hq _ _ _ hm).1⟩

/-- Against `noStatsRow`, `zip(fields, None)` raises in `_fields_and_data_to_dict`, nothing
catches it, and the final `close` is skipped: after the call both fields are set and the
connection is open. -/
theorem noStatsRow_leaves_connection_open :
    (run exampleParams [noStatsRow] World.init).db = some ⟨0⟩ ∧
      (run exampleParams [noStatsRow] World.init).cursor = some ⟨⟨0⟩⟩ ∧
      (run exampleParams [noStatsRow] World.init).openConns = [⟨0⟩] := by
  decide

/-- A server that accepts the connection and then refuses `cursor()` with a socket error. -/
def cursorRefused : Driver where
  connect _ _ := .ok ()
  cursor _ _ := .error (.exception "error" "[Errno 104] Connection reset by peer")
  execute _ _ _ := .ok ()
  description _ _ _ := .ok []
  fetchone _ _ _ := .ok none
  closeCursor _ _ := .ok ()
  closeConn _ _ := .ok ()

/-- Against `cursorRefused`, `connect` has set `_db` when `cursor()` raises, and its
`except Exception` clause re-raises without resetting it: the call ends with `_db` set and
`_cursor` `None`. -/
theorem cursorRefused_leaves_db_without_cursor :
    (run exampleParams [cursorRefused] World.init).db = some ⟨0⟩ ∧
      (run exampleParams [cursorRefused] World.init).cursor = none := by
  decide

end ScalyrAgent.Postgres
