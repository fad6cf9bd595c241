import ScalyrAgent.Postgres.Lifecycle
import ScalyrAgent.Postgres.Samples

/-!
# The connections pg8000 holds open

`close` closes the connection in `_db`, and nothing else in the monitor closes a connection.  So
a connection that `_db` stops holding while it is open stays open for good.  One place in the
source lets go of a connection that way: the `except pg8000.Error` clause of `connect` sets
`_db = None` without closing the connection `pg8000.connect` has just returned, and it is
reached when `cursor()` raises a `pg8000.Error`.

This module proves that it is the only place, for every run and every driver behaviour.

* `Steady` invariants read the fields, the open connections, the counter and the samples, and
  never the statement a cursor last ran.  `gatherSample_steady` proves once that a call keeps
  such an invariant when `close`, `reconnect` and the emission loops keep it, and `run_steady`
  lifts that to runs.
* `Accounted`: every connection pg8000 holds open is `_db`, or one that `connect` dropped after
  its `cursor()` raised a `pg8000.Error`.  `run_open_conns` states it for every run, and
  `run_openConns_eq_db` reads it for a run without such a raise: pg8000 then holds open exactly
  the connection in `_db`.
* `Abandoned c`: `c` is open and is not `_db`.  `run_abandoned_stays_open` says that it stays
  so in every later state.
-/

namespace ScalyrAgent.Postgres

/-- A run is a run of its first part, then of the rest. -/
theorem run_append (p : DbParams) :
    ∀ (ds more : List Driver) (w : World), run p (ds ++ more) w = run p more (run p ds w)
  | [], _, _ => rfl
  | _ :: ds, more, _ => run_append p ds more _

/-- `self._cursor.attr` changes nothing. -/
theorem liveCursor_keeps {I : World → Prop} (a : String) : Keeps I (liveCursor a) :=
  Triple.conseq (liveCursor_triple a) (fun _ h => h) (fun _ _ h => h.1) (fun _ _ h => h)

/-! ## Invariants no statement can break -/

/-- `I` survives an event that is no sample, appended with the fields, the open connections and
the counter as they were. -/
def Steady (I : World → Prop) : Prop :=
  ∀ w w' e, I w → Silent e → w'.trace = w.trace ++ [e] → w'.fresh = w.fresh → w'.db = w.db →
    w'.cursor = w.cursor → w'.openConns = w.openConns → I w'

section Steady

variable {I : World → Prop} (hI : Steady I) (d : Driver) (p : DbParams)
include hI

theorem record_steady {E : Exc → World → Prop} {e : Event} (he : Silent e) :
    Triple I (record e) (fun _ => I) E :=
  fun w h => hI w _ e h he rfl rfl rfl rfl rfl

/-- A driver call whose events are no samples and whose success changes no field `I` reads
keeps `I`. -/
theorem driverCall_steady {α : Type} {answer : Nat → Except Exc α} {event : Option Exc → Event}
    {onOk : α → World → World} (hev : ∀ r, Silent (event r))
    (hok : ∀ a w, (onOk a w).trace = w.trace ∧ (onOk a w).fresh = w.fresh ∧
      (onOk a w).db = w.db ∧ (onOk a w).cursor = w.cursor ∧ (onOk a w).openConns = w.openConns) :
    Keeps I (driverCall answer event onOk) := by
  refine Triple.conseq driverCall_triple (fun w h => ⟨fun a _ => ?_, fun e _ => ?_⟩)
    (fun _ _ h => h) (fun _ _ h => h)
  · obtain ⟨ht, hf, hd, hc, ho⟩ := hok a { w with tick := w.tick + 1, trace := w.trace ++ [event none] }
    exact hI w _ _ h (hev none) ht hf hd hc ho
  · exact hI w _ _ h (hev (some e)) rfl rfl rfl rfl rfl

theorem cursorExecute_steady (cur : Cursor) (sql : String) : Keeps I (cursorExecute d cur sql) :=
  driverCall_steady hI (fun _ _ _ _ => by simp) fun _ _ => ⟨rfl, rfl, rfl, rfl, rfl⟩

theorem cursorDescription_steady (cur : Cursor) : Keeps I (cursorDescription d cur) :=
  Triple.bind (Triple.get' fun _ h => h) fun _ =>
    driverCall_steady hI (fun _ _ _ _ => by simp) fun _ _ => ⟨rfl, rfl, rfl, rfl, rfl⟩

theorem cursorFetchone_steady (cur : Cursor) : Keeps I (cursorFetchone d cur) :=
  Triple.bind (Triple.get' fun _ h => h) fun _ =>
    driverCall_steady hI (fun _ _ _ _ => by simp) fun _ _ => ⟨rfl, rfl, rfl, rfl, rfl⟩

/-- `_get_version` keeps `I` and raises nothing: its bare `except:` catches everything. -/
theorem getVersion_steady : Triple I (getVersion d) (fun _ => I) (fun _ _ => False) :=
  Triple.tryCatch
    (Triple.bind (liveCursor_keeps _) fun cur =>
      Triple.bind (cursorExecute_steady hI d cur _) fun _ =>
      Triple.bind (liveCursor_keeps _) fun cur =>
      Triple.bind (cursorFetchone_steady hI d cur) fun _ => liftExcept_keeps _)
    fun _ => Triple.bind (record_steady hI fun _ _ _ => by simp) fun _ => Triple.pure' fun _ h => h

theorem gatherDbInformation_steady {E : Exc → World → Prop} :
    Triple I (gatherDbInformation d) (fun _ => I) E :=
  Triple.bind (Triple.noRaise (getVersion_steady hI d)) fun _ => Triple.pure' fun _ h => h

section Sample

variable (hrec : Keeps I (reconnect d p))
include hrec

omit hI in
theorem onOperationalError_steady {α : Type} (v : α) (e : Exc) :
    Keeps I (onOperationalError d p v e) := by
  cases e with
  | operational errcode _ =>
    exact Triple.ite' (fun _ => Triple.throw' fun _ h => h) fun _ =>
      Triple.bind hrec fun _ => Triple.pure' fun _ h => h
  | _ => exact Triple.throw' fun _ h => h

theorem retrieveDatabaseTableStats_steady (table : String) (entries : List (String × List String)) :
    Keeps I (retrieveDatabaseTableStats d p table entries) := by
  refine Triple.bind (Triple.tryCatch ?_ fun e => onOperationalError_steady d p hrec none e)
    fun fetched => ?_
  · exact Triple.bind (liveCursor_keeps _) fun cur =>
      Triple.bind (cursorExecute_steady hI d cur _) fun _ =>
      Triple.bind (liveCursor_keeps _) fun cur =>
      Triple.bind (cursorDescription_steady hI d cur) fun _ =>
      Triple.bind (liveCursor_keeps _) fun cur =>
      Triple.bind (cursorExecute_steady hI d cur _) fun _ =>
      Triple.bind (liveCursor_keeps _) fun cur =>
      Triple.bind (cursorFetchone_steady hI d cur) fun _ => Triple.pure' fun _ h => h
  rcases fetched with _ | ⟨fields, data⟩
  · exact Triple.pure' fun _ h => h
  · exact Triple.bind (liftExcept_keeps _) fun _ => Triple.pure' fun _ h => h

theorem retrieveDatabaseSize_steady : Keeps I (retrieveDatabaseSize d p) :=
  Triple.tryCatch
    (Triple.bind (liveCursor_keeps _) fun cur =>
      Triple.bind (cursorExecute_steady hI d cur _) fun _ =>
      Triple.bind (liveCursor_keeps _) fun cur =>
      Triple.bind (cursorFetchone_steady hI d cur) fun _ => liftExcept_keeps _)
    fun e => onOperationalError_steady d p hrec Value.null e

theorem retrieveDatabaseStats_steady : Keeps I (retrieveDatabaseStats d p) := by
  unfold retrieveDatabaseStats
  apply foldlM_keeps
  intro result table
  refine Triple.bind (retrieveDatabaseTableStats_steady hI d p hrec table.1 table.2) fun tmp => ?_
  cases tmp <;> exact Triple.pure' fun _ h => h

theorem reconnectOrWarn_steady : Keeps I (reconnectOrWarn d p) :=
  Triple.tryCatch (Triple.bind hrec fun _ => Triple.pure' fun _ h => h) fun _ =>
    Triple.ite' (fun _ => Triple.bind (record_steady hI fun _ _ _ => by simp) fun _ =>
      Triple.pure' fun _ h => h) fun _ => Triple.throw' fun _ h => h

/-- A whole call keeps `I` when `close`, `reconnect` and the two emission loops do. -/
theorem gatherSample_steady (hclose : Keeps I (close d)) (hsize : ∀ v, Keeps I (emitSize v))
    (hstats : ∀ dbstats, Keeps I (emitStats dbstats)) : Keeps I (gatherSample d p) :=
  Triple.bind (reconnectOrWarn_steady hI d p hrec) fun _ =>
    Triple.ite' (fun _ => Triple.bind (Triple.bind (Triple.get' fun _ h => h) fun _ =>
        Triple.pure' fun _ h => h) fun _ =>
      Triple.ite' (fun _ =>
        Triple.bind (retrieveDatabaseSize_steady hI d p hrec) fun v =>
        Triple.bind (hsize v) fun _ =>
        Triple.bind (retrieveDatabaseStats_steady hI d p hrec) fun dbstats =>
        Triple.bind (hstats dbstats) fun _ => hclose)
        fun _ => record_steady hI fun _ _ _ => by simp)
      fun _ => Triple.pure' fun _ h => h

end Sample

end Steady

/-- Every state of a run keeps an invariant that `close`, `reconnect` and the emission loops
keep against every driver. -/
theorem run_steady {I : World → Prop} (hI : Steady I) (p : DbParams)
    (hrec : ∀ d, Keeps I (reconnect d p)) (hclose : ∀ d, Keeps I (close d))
    (hsize : ∀ v, Keeps I (emitSize v)) (hstats : ∀ dbstats, Keeps I (emitStats dbstats)) :
    ∀ (ds : List Driver) (w : World), I w → I (run p ds w)
  | [], _, h => h
  | d :: ds, _, h => run_steady hI p hrec hclose hsize hstats ds _
    ((gatherSample_steady hI d p (hrec d) (hclose d) hsize hstats).state h)

/-! ## Every open connection is accounted for -/

/-- `connect` dropped `c`: the `cursor()` of `c` raised a `pg8000.Error`, whose handler set
`_db` to `None` without closing `c`. -/
def Dropped (c : Conn) (t : List Event) : Prop :=
  ∃ e, e.isPgError = true ∧ Event.cursor c (some e) ∈ t

theorem Dropped.mono {c : Conn} {t : List Event} (h : Dropped c t) (u : List Event) :
    Dropped c (t ++ u) :=
  let ⟨e, he, hm⟩ := h
  ⟨e, he, List.mem_append_left u hm⟩

/-- The open connections are numbered below the counter, each is open once, and each is `_db`
or was dropped. -/
structure Accounted (w : World) : Prop where
  nodup : w.openConns.Nodup
  lt_fresh : ∀ c ∈ w.openConns, c.id < w.fresh
  held : ∀ c ∈ w.openConns, w.db = some c ∨ Dropped c w.trace

/-- Appending any event keeps `Accounted` when `_db`, the open connections and the counter are
as they were. -/
theorem Accounted.append {w w' : World} (h : Accounted w) (e : Event)
    (ht : w'.trace = w.trace ++ [e]) (hf : w'.fresh = w.fresh) (hd : w'.db = w.db)
    (ho : w'.openConns = w.openConns) : Accounted w' := by
  refine ⟨ho ▸ h.nodup, fun c hc => ?_, fun c hc => ?_⟩
  · rw [hf]; exact h.lt_fresh c (ho ▸ hc)
  · rw [hd, ht]; exact (h.held c (ho ▸ hc)).imp id (·.mono _)

theorem Accounted.steady : Steady Accounted :=
  fun _ _ e h _ ht hf hd _ ho => h.append e ht hf hd ho

theorem Accounted.stable : Stable Accounted :=
  fun _ _ e h _ ht hf hd _ ho => h.append e ht hf hd ho

theorem accounted_init : Accounted World.init :=
  ⟨List.nodup_nil, by simp [World.init], by simp [World.init]⟩

/-- With `_db` reset, every open connection must have been dropped. -/
theorem Accounted.reset {w : World} (h : Accounted w)
    (hd : ∀ c, w.db = some c → Dropped c w.trace) : Accounted { w with db := none } :=
  ⟨h.nodup, h.lt_fresh, fun c hc => .inr ((h.held c hc).elim (hd c) id)⟩

/-- Without a dropped connection, the open connections are `_db`, if it is set. -/
theorem Accounted.openConns_eq {w : World} (h : Accounted w) (hc : Coherent w)
    (hno : ∀ c, ¬Dropped c w.trace) : w.openConns = w.db.toList := by
  have hall : ∀ c ∈ w.openConns, w.db = some c := fun c hm => (h.held c hm).resolve_right (hno c)
  cases hd : w.db with
  | none => exact List.eq_nil_iff_forall_not_mem.2 fun c hm => by simp [hd] at hall; exact hall c hm
  | some c =>
    have hone : ∀ c' ∈ w.openConns, c' = c := fun c' hm => (Option.some.inj ((hall c' hm).symm.trans hd))
    have hmem : c ∈ w.openConns := hc.db_open c (by simp [hd])
    rcases hl : w.openConns with _ | ⟨a, _ | ⟨b, l⟩⟩ <;> rw [hl] at hone hmem
    · cases hmem
    · rw [hone a (List.mem_singleton_self a)]; rfl
    · have hn := h.nodup
      rw [hl] at hn
      exact absurd (List.mem_cons.2 (.inl ((hone a (by simp)).trans (hone b (by simp)).symm)))
        (List.nodup_cons.1 hn).1

section Accounting

variable (d : Driver) (p : DbParams)

/-- `if self._db: self._db.close()`: the connection it closes leaves the open ones, so once
`_db` is reset every open connection was dropped. -/
theorem closeDb_accounted :
    Triple Accounted (closeDb d) (fun _ w => Accounted { w with db := none })
      (fun _ => Accounted) := by
  refine Triple.bind (Triple.get' (Q := fun s w => Accounted w ∧ s = w) fun _ h => ⟨h, rfl⟩)
    fun s => ?_
  cases hs : s.db with
  | none => exact Triple.pure' fun w ⟨h, hw⟩ => h.reset fun c hc => by simp [← hw, hs] at hc
  | some c =>
    refine Triple.conseq driverCall_triple (fun w ⟨h, hw⟩ => ⟨fun _ _ => ?_, fun _ _ =>
      h.append _ rfl rfl rfl rfl⟩) (fun _ _ h => h) (fun _ _ h => h)
    subst hw
    refine ⟨h.nodup.erase c, fun c' hc' => h.lt_fresh c' (List.mem_of_mem_erase hc'),
      fun c' hc' => .inr ?_⟩
    obtain ⟨hne, hmem⟩ := h.nodup.mem_erase_iff.1 hc'
    exact ((h.held c' hmem).resolve_left fun h' => hne (Option.some.inj (h'.symm.trans hs))).mono _

/-- `close`: when it returns, `_db` is reset and every open connection was dropped. -/
theorem close_accounted :
    Triple Accounted (close d) (fun _ w => Accounted w ∧ w.db = none) (fun _ => Accounted) :=
  Triple.bind (closeCursor_keeps Accounted.stable d) fun _ =>
  Triple.bind (closeDb_accounted d) fun _ =>
  Triple.bind (show Triple _ (setCursor none) (fun _ w => Accounted { w with db := none }) _ from
    Triple.modify' fun _ h => ⟨h.1, h.2, h.3⟩) fun _ =>
  Triple.modify' fun _ h => ⟨h, rfl⟩

/-- `pg8000.connect` after `close`: the new connection is numbered at the counter, so it is none
of the open ones, and holding it in `_db` accounts for it. -/
theorem pgConnect_accounted :
    Triple (fun w => Accounted w ∧ w.db = none) (pgConnect d p)
      (fun c w => Accounted { w with db := some c }) (fun _ w => Accounted w ∧ w.db = none) := by
  refine Triple.of_forall fun w0 ⟨h0, hd⟩ => Triple.conseq (pgConnect_spec d p w0) (fun _ h => h)
    (fun c w ⟨hc, hw⟩ => ?_) (fun _ w hw => ?_)
  · subst hc hw
    have hnew : (⟨w0.fresh⟩ : Conn) ∉ w0.openConns := fun hm => Nat.lt_irrefl _ (h0.lt_fresh _ hm)
    refine ⟨List.nodup_cons.2 ⟨hnew, h0.nodup⟩, fun c hc => ?_, fun c hc => ?_⟩
    · rcases List.mem_cons.1 hc with rfl | hc
      · exact Nat.lt_succ_self _
      · exact Nat.lt_succ_of_lt (h0.lt_fresh c hc)
    · rcases List.mem_cons.1 hc with rfl | hc
      · exact .inl rfl
      · exact .inr (((h0.held c hc).resolve_left (by simp [hd])).mono _)
  · subst hw
    exact ⟨⟨h0.nodup, fun c hc => Nat.lt_succ_of_lt (h0.lt_fresh c hc),
      fun c hc => (h0.held c hc).imp id (·.mono _)⟩, hd⟩

/-- `conn.cursor()` with `conn` in `_db`: when it raises a `pg8000.Error`, `_db` holds a
connection that is dropped. -/
theorem connCursor_accounted (c : Conn) :
    Triple (fun w => Accounted w ∧ w.db = some c) (connCursor d c) (fun _ => Accounted)
      (fun e w => Accounted w ∧ (e.isPgError = true → ∀ c', w.db = some c' → Dropped c' w.trace)) := by
  refine Triple.bind (Triple.conseq driverCall_triple (fun w ⟨h, hd⟩ =>
      ⟨fun _ _ => h.append _ rfl rfl rfl rfl,
        fun e _ => ⟨h.append _ rfl rfl rfl rfl, fun hpg c' hc' => ?_⟩⟩)
      (fun _ _ h => h) (fun _ _ h => h)) fun _ => Triple.pure' fun _ h => h
  obtain rfl : c' = c := Option.some.inj (hc'.symm.trans hd)
  exact ⟨e, hpg, List.mem_append_right _ (List.mem_singleton_self _)⟩

/-- `connect` after `close` keeps every open connection accounted for: the handler of a
`pg8000.Error` drops only a connection whose `cursor()` raised it. -/
theorem connect_accounted :
    Triple (fun w => Accounted w ∧ w.db = none) (connect d p) (fun _ => Accounted)
      (fun _ => Accounted) := by
  refine Triple.tryCatch (show Triple _ _ (fun _ => Accounted) (fun e w => Accounted w ∧
      (e.isPgError = true → ∀ c, w.db = some c → Dropped c w.trace)) from
    Triple.bind (Triple.conseq (pgConnect_accounted d p) (fun _ h => h) (fun _ _ h => h)
      fun _ _ ⟨h, hd⟩ => ⟨h, fun _ c hc => by simp [hd] at hc⟩) fun c => ?_) fun e => ?_
  · exact Triple.bind (Triple.modify' fun _ h => ⟨h, rfl⟩) fun _ =>
      Triple.bind (connCursor_accounted d c) fun _ =>
      Triple.bind (Triple.modify' fun _ h => ⟨h.1, h.2, h.3⟩) fun _ =>
      gatherDbInformation_steady Accounted.steady d
  · refine Triple.ite' (fun hpg => ?_) fun _ => Triple.conseq (show Keeps Accounted _ from
      Triple.ite' (fun _ => Triple.bind (record_keeps Accounted.stable ⟨by simp, by simp⟩)
        fun _ => Triple.throw' fun _ h => h) fun _ => Triple.throw' fun _ h => h)
      (fun _ h => h.1) (fun _ _ h => h) (fun _ _ h => h)
    exact Triple.bind (Triple.modify' (Q := fun _ => Accounted) fun _ h => h.1.reset (h.2 hpg))
      fun _ => Triple.bind (Triple.modify' (Q := fun _ => Accounted) fun _ h => ⟨h.1, h.2, h.3⟩)
      fun _ => record_steady Accounted.steady fun _ _ _ => by simp

theorem reconnect_accounted : Keeps Accounted (reconnect d p) :=
  Triple.bind (close_accounted d) fun _ => connect_accounted d p

end Accounting

theorem run_accounted (p : DbParams) (ds : List Driver) : Accounted (run p ds World.init) :=
  run_steady Accounted.steady p (reconnect_accounted · p)
    (fun d => Triple.conseq (close_accounted d) (fun _ h => h) (fun _ _ h => h.1) (fun _ _ h => h))
    (emitSize_keeps Accounted.stable) (emitStats_keeps Accounted.stable) ds _ accounted_init

/-- In every state a run reaches, every connection pg8000 holds open is `_db`, or one whose
`cursor()` raised a `pg8000.Error` inside `connect`, whose handler set `_db` to `None` without
closing it. -/
theorem run_open_conns (p : DbParams) (ds : List Driver) :
    let w := run p ds World.init
    ∀ c ∈ w.openConns, w.db = some c ∨ ∃ e, e.isPgError = true ∧ Event.cursor c (some e) ∈ w.trace :=
  (run_accounted p ds).held

/-- In every state a run reaches in which no `cursor()` call has raised a `pg8000.Error`,
pg8000 holds open exactly the connection in `_db`, if there is one. -/
theorem run_openConns_eq_db (p : DbParams) (ds : List Driver)
    (hno : ∀ c e, Event.cursor c (some e) ∈ (run p ds World.init).trace → e.isPgError = false) :
    (run p ds World.init).openConns = (run p ds World.init).db.toList :=
  (run_accounted p ds).openConns_eq (run_coherent p ds) fun c ⟨e, he, hm⟩ => by
    rw [hno c e hm] at he
    cases he

/-- A run of one call against a server with no statistics row: the call keeps its connection,
and no `cursor()` raised. -/
theorem noStatsRow_openConns :
    (∀ c e, Event.cursor c (some e) ∈ (run exampleParams [noStatsRow] World.init).trace →
        e.isPgError = false) ∧
      (run exampleParams [noStatsRow] World.init).openConns =
        (run exampleParams [noStatsRow] World.init).db.toList :=
  have hall : (run exampleParams [noStatsRow] World.init).trace.all (fun ev =>
      match ev with
      | .cursor _ (some e) => !e.isPgError
      | _ => true) = true := by decide
  have hno : ∀ c e, Event.cursor c (some e) ∈ (run exampleParams [noStatsRow] World.init).trace →
      e.isPgError = false := fun c e hm => by simpa using List.all_eq_true.1 hall _ hm
  ⟨hno, run_openConns_eq_db exampleParams [noStatsRow] hno⟩

/-! ## A dropped connection stays open -/

/-- `c` is open and is not `_db`, and it is numbered below the counter, so no later `connect`
returns it. -/
structure Abandoned (c : Conn) (w : World) : Prop where
  mem_open : c ∈ w.openConns
  not_db : w.db ≠ some c
  lt_fresh : c.id < w.fresh

theorem Abandoned.append {c : Conn} {w w' : World} (h : Abandoned c w) (hf : w'.fresh = w.fresh)
    (hd : w'.db = w.db) (ho : w'.openConns = w.openConns) : Abandoned c w' :=
  ⟨ho ▸ h.mem_open, hd ▸ h.not_db, hf ▸ h.lt_fresh⟩

theorem Abandoned.steady (c : Conn) : Steady (Abandoned c) :=
  fun _ _ _ h _ _ hf hd _ ho => h.append hf hd ho

theorem Abandoned.stable (c : Conn) : Stable (Abandoned c) :=
  fun _ _ _ h _ _ hf hd _ ho => h.append hf hd ho

section Abandoned

variable (c : Conn) (d : Driver) (p : DbParams)

/-- `close` closes `_db`, which is not `c`. -/
theorem close_abandoned : Keeps (Abandoned c) (close d) := by
  have hdb : Keeps (Abandoned c) (closeDb d) := by
    refine Triple.bind (Triple.get' (Q := fun s w => Abandoned c w ∧ s = w) fun _ h => ⟨h, rfl⟩)
      fun s => ?_
    cases hs : s.db with
    | none => exact Triple.pure' fun _ h => h.1
    | some c' =>
      refine Triple.conseq driverCall_triple (fun w ⟨h, hw⟩ => ⟨fun _ _ => ?_, fun _ _ =>
        h.append rfl rfl rfl⟩) (fun _ _ h => h) (fun _ _ h => h)
      subst hw
      have hne : c ≠ c' := fun he => h.not_db (he ▸ hs)
      exact ⟨(List.mem_erase_of_ne hne).2 h.mem_open, h.not_db, h.lt_fresh⟩
  exact Triple.bind (closeCursor_keeps (Abandoned.stable c) d) fun _ =>
    Triple.bind hdb fun _ =>
    Triple.bind (Triple.modify' (Q := fun _ => Abandoned c) fun _ h => ⟨h.1, h.2, h.3⟩) fun _ =>
      Triple.modify' fun _ h => ⟨h.1, by simp, h.3⟩

/-- `connect` opens a connection numbered at the counter, so not `c`, and may hold it in
`_db`. -/
theorem connect_abandoned : Keeps (Abandoned c) (connect d p) := by
  have hconn : Triple (Abandoned c) (pgConnect d p) (fun c' w => Abandoned c w ∧ c' ≠ c)
      (fun _ => Abandoned c) := by
    refine Triple.of_forall fun w0 h0 => Triple.conseq (pgConnect_spec d p w0) (fun _ h => h)
      (fun c' w ⟨hc, hw⟩ => ?_) (fun _ w hw => ?_)
    · subst hc hw
      exact ⟨⟨List.mem_cons_of_mem _ h0.mem_open, h0.not_db, Nat.lt_succ_of_lt h0.lt_fresh⟩,
        fun he => Nat.lt_irrefl _ (he ▸ h0.lt_fresh)⟩
    · subst hw
      exact ⟨h0.mem_open, h0.not_db, Nat.lt_succ_of_lt h0.lt_fresh⟩
  refine Triple.tryCatch (Triple.bind hconn fun c' => ?_) fun e => ?_
  · exact Triple.bind (Triple.modify' fun _ h => ⟨h.1.mem_open, fun he => h.2
        (Option.some.inj he), h.1.lt_fresh⟩) fun _ =>
      Triple.bind (connCursor_keeps (Abandoned.stable c) d c') fun _ =>
      Triple.bind (Triple.modify' fun _ h => ⟨h.1.1, h.1.2, h.1.3⟩) fun _ =>
      gatherDbInformation_steady (Abandoned.steady c) d
  · refine Triple.ite' (fun _ => ?_) fun _ => Triple.ite' (fun _ =>
      Triple.bind (record_keeps (Abandoned.stable c) ⟨by simp, by simp⟩) fun _ =>
        Triple.throw' fun _ h => h) fun _ => Triple.throw' fun _ h => h
    exact Triple.bind (Triple.modify' (Q := fun _ => Abandoned c) fun _ h => ⟨h.1, by simp, h.3⟩)
      fun _ => Triple.bind (Triple.modify' (Q := fun _ => Abandoned c) fun _ h => ⟨h.1, h.2, h.3⟩)
      fun _ => record_steady (Abandoned.steady c) fun _ _ _ => by simp

end Abandoned

/-- A connection that is open and not `_db` in a state a run reaches stays open, and is never
`_db` again, in every later state: nothing closes it. -/
theorem run_abandoned_stays_open (p : DbParams) (ds more : List Driver) {c : Conn}
    (ho : c ∈ (run p ds World.init).openConns) (hd : (run p ds World.init).db ≠ some c) :
    c ∈ (run p (ds ++ more) World.init).openConns ∧ (run p (ds ++ more) World.init).db ≠ some c := by
  rw [run_append]
  have h := run_steady (Abandoned.steady c) p
    (fun d => Triple.bind (close_abandoned c d) fun _ => connect_abandoned c d p)
    (close_abandoned c) (emitSize_keeps (Abandoned.stable c)) (emitStats_keeps (Abandoned.stable c))
    more _ ⟨ho, hd, (run_accounted p ds).lt_fresh c ho⟩
  exact ⟨h.mem_open, h.not_db⟩

/-- Connections are accepted and closed, and `cursor()` raises an `InterfaceError`, a
`pg8000.Error`. -/
def cursorInterfaceError : Driver where
  connect _ _ := .ok ()
  cursor _ _ := .error (.pg "InterfaceError" "connection is closed")
  execute _ _ _ := .ok ()
  description _ _ _ := .ok []
  fetchone _ _ _ := .ok none
  closeCursor _ _ := .ok ()
  closeConn _ _ := .ok ()

/-- One call against that server drops the first connection, and it is still open after a
second call against a server that answers. -/
theorem cursorInterfaceError_abandons :
    (⟨0⟩ : Conn) ∈ (run exampleParams [cursorInterfaceError] World.init).openConns ∧
      (run exampleParams [cursorInterfaceError] World.init).db ≠ some ⟨0⟩ ∧
      (⟨0⟩ : Conn) ∈ (run exampleParams ([cursorInterfaceError] ++ [noStatsRow]) World.init).openConns ∧
      (run exampleParams ([cursorInterfaceError] ++ [noStatsRow]) World.init).db ≠ some ⟨0⟩ :=
  have ho : (⟨0⟩ : Conn) ∈ (run exampleParams [cursorInterfaceError] World.init).openConns := by
    decide
  have hd : (run exampleParams [cursorInterfaceError] World.init).db ≠ some ⟨0⟩ := by decide
  ⟨ho, hd, run_abandoned_stays_open exampleParams [cursorInterfaceError] [noStatsRow] ho hd⟩

end ScalyrAgent.Postgres
