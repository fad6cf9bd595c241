import ScalyrAgent.Postgres.Cycle

/-!
# Losing the connection during a call

`connect` takes a `pg8000.Error` of `pg8000.connect` or of `cursor()` for a refused connection:
it resets both fields, and `gather_sample` returns after its warning.  The retrieve methods take
`OperationalError` 2006 for a lost connection: they `reconnect`, return `None`, and
`gather_sample` goes on with the next method.

`gatherSample_survives_losses` puts the two together.  When no connection can be made, the call
returns normally and emits nothing.  When connections are made and each statement answers or
loses the connection, the call returns normally, and a loss drops only the part of the sample it
hits: the size is emitted exactly when no statement of the size lost the connection in the call,
and the statistics exactly when none of theirs did (`lostParts_iff`).  A lost size leaves the statistics to the connection the internal `reconnect` opened, and
they are emitted after the loss: `gatherSample_sizeLost` is that for a server that always loses
the size query.

The internal `reconnect` may itself fail to connect.  `connect` then sets `_cursor` to `None`
and returns, and the next statement of `_retrieve_database_table_stats` raises
`AttributeError` on it, which no clause of the call catches: `reconnectRefusedServer` is such a
server.
-/

namespace ScalyrAgent.Postgres

/-! ## No connection -/

/-- No connection can be made: `pg8000.connect` fails only with a `pg8000.Error`, and either it
always fails or `cursor()` always raises a `pg8000.Error`. -/
def Unreachable (d : Driver) (p : DbParams) : Prop :=
  (∀ t e, d.connect t p = .error e → e.isPgError = true) ∧
    ((∀ t, ∃ e, d.connect t p = .error e) ∨
      ∀ t c, ∃ e, d.cursor t c = .error e ∧ e.isPgError = true)

section Unreachable

variable {d : Driver} {p : DbParams} (hu : Unreachable d p) (t0 : List Event) (E : List Sample)
  (L : List String)
include hu

/-- The body of `connect` raises a `pg8000.Error`, from `pg8000.connect` or from `cursor()`. -/
theorem connectBody_unreachable :
    Triple (Emits t0 E L)
      (do
        let conn ← pgConnect d p
        setDb (some conn)
        let cur ← connCursor d conn
        setCursor (some cur)
        gatherDbInformation d)
      (fun _ _ => False) (fun e w => Emits t0 E L w ∧ e.isPgError = true) := by
  have hq := Emits.quiet t0 E L
  refine Triple.bind (Triple.conseq (pgConnect_answered hq d p) (fun _ h => h) (fun _ _ h => h)
    fun e _ ⟨h, t, ht⟩ => ⟨h, hu.1 t e ht⟩) fun c => Triple.and_fact fun ⟨t, ht⟩ => ?_
  rcases hu.2 with hconn | hcur
  · obtain ⟨e, he⟩ := hconn t
    simp [he] at ht
  · refine Triple.bind (Triple.modify' fun _ h => h) fun _ =>
      Triple.bind (Triple.conseq (connCursor_answered hq d c) (fun _ h => h) (fun _ _ h => h)
        fun e _ ⟨h, t, ht⟩ => ⟨h, ?_⟩) fun _ _ ⟨_, _, t, ht⟩ => ?_
    · obtain ⟨e', he', hpg⟩ := hcur t c
      rw [he'] at ht
      cases ht
      exact hpg
    · obtain ⟨e, he, -⟩ := hcur t c
      simp [he] at ht

/-- `connect` when no connection can be made: the clause for `pg8000.Error` resets both
fields. -/
theorem connect_unreachable :
    Triple (Emits t0 E L) (connect d p) (fun _ => Fields t0 E L none none) (fun _ _ => False) :=
  have hdb : Triple (Emits t0 E L) (setDb none) (fun _ w => Emits t0 E L w ∧ w.db = none)
      (fun _ _ => False) :=
    Triple.modify' fun _ h => ⟨h, rfl⟩
  have hcur : Triple (fun w => Emits t0 E L w ∧ w.db = none) (setCursor none)
      (fun _ => Fields t0 E L none none) (fun _ _ => False) :=
    Triple.modify' fun _ ⟨h, hd⟩ => ⟨hd, rfl, h⟩
  Triple.tryCatch (Triple.conseq (connectBody_unreachable hu t0 E L) (fun _ h => h)
    (fun _ _ h => h.elim) (fun _ _ h => h)) fun _ => Triple.and_fact fun he =>
    Triple.ite' (fun _ => Triple.bind hdb fun _ => Triple.bind hcur fun _ =>
      record_quiet (Fields.quiet t0 E L none none) (by simp [Plain, Silent, Event.lostOn]))
      fun hne => absurd he hne

/-- A `gather_sample` call when no connection can be made, from any state: it returns with
both fields reset and emits nothing. -/
theorem gatherSample_unreachable (hc : Closes d) :
    Triple (Emits t0 [] []) (gatherSample d p) (fun _ => Fields t0 [] [] none none)
      (fun _ _ => False) :=
  have hre : Triple (Emits t0 [] []) (reconnect d p) (fun _ => Fields t0 [] [] none none)
      (fun _ _ => False) :=
    Triple.bind (close_closes hc t0 [] []) fun _ =>
      Triple.conseq (connect_unreachable hu t0 [] []) (fun _ h => h.2.2) (fun _ _ h => h)
        (fun _ _ h => h)
  have hrec : Triple (Emits t0 [] []) (reconnectOrWarn d p)
      (fun b w => Fields t0 [] [] none none w ∧ b = true) (fun _ _ => False) :=
    Triple.tryCatch (Triple.bind hre fun _ => Triple.pure' fun _ h => ⟨h, rfl⟩)
      fun _ => Triple.of_false
  Triple.bind hrec fun _ => Triple.and_fact fun hb => by
    subst hb
    exact Triple.bind (isConnected_fields t0 [] [] _ _) fun _ => Triple.and_fact fun hc => by
      subst hc
      exact record_quiet (Fields.quiet t0 [] [] none none) (by simp [Plain, Silent, Event.lostOn])

end Unreachable

/-- The statements lost in a call as `gatherSample_drops` gives them: the size query when the
size was lost, and one of the two statistics statements when the statistics were. -/
theorem lostParts_iff {p : DbParams} {L : List String} {a b : Bool} {s : String}
    (hL : L = (if a then [] else [sizeQuery p.database]) ++ (if b then [] else [s]))
    (hs : s = fieldsQuery "pg_stat_database" p.database ∨
      s = statsQuery "pg_stat_database" p.database) :
    (a = false ↔ sizeQuery p.database ∈ L) ∧
      (b = false ↔ fieldsQuery "pg_stat_database" p.database ∈ L ∨
        statsQuery "pg_stat_database" p.database ∈ L) := by
  subst hL
  have hf := (sizeQuery_ne_fieldsQuery "pg_stat_database" p.database p.database).symm
  have hst := (sizeQuery_ne_statsQuery "pg_stat_database" p.database p.database).symm
  rcases hs with rfl | rfl <;> cases a <;> cases b <;> simp [hf, hst]

/-- A `gather_sample` call in which every failure is a loss of the connection returns normally.
When no connection can be made it emits nothing.  When connections and closes succeed and each
statement of the sample answers or loses the connection, a loss drops only the part of the
sample it hits: the size is emitted exactly when no statement of the size lost the connection
in the call, the statistics exactly when none of theirs did, and a server that answers a part
always gets it emitted.  Both fields are reset after the call. -/
theorem gatherSample_survives_losses (p : DbParams) (w : World) :
    (∀ d, Closes d → Unreachable d p →
      ∃ w', gatherSample d p w = .ok () w' ∧ w'.db = none ∧ w'.cursor = none ∧
        ∃ seg, w'.trace = w.trace ++ seg ∧ emitted seg = []) ∧
    (∀ d size rest fields row, ServesOrDrops d p size rest fields row →
      ResetIsDatetime (PyDict.ofList (fields.zip row)) →
      ∃ w', gatherSample d p w = .ok () w' ∧ w'.db = none ∧ w'.cursor = none ∧
        ∃ seg, w'.trace = w.trace ++ seg ∧ ∃ a b : Bool,
          emitted seg = (if a then sizeSamples size else []) ++
            (if b then statSamples (PyDict.ofList (fields.zip row)) else []) ∧
          (a = false ↔ sizeQuery p.database ∈ lostIn seg) ∧
          (b = false ↔ fieldsQuery "pg_stat_database" p.database ∈ lostIn seg ∨
            statsQuery "pg_stat_database" p.database ∈ lostIn seg) ∧
          (AnswersSize d p size rest → a = true) ∧ (AnswersStats d p fields row → b = true)) := by
  refine ⟨fun d hc hu => ?_, fun d size rest fields row hs hreset => ?_⟩
  · obtain ⟨_, w', hrun, hd, hcur, seg, ht, hE, -⟩ :=
      Triple.ok_of (gatherSample_unreachable hu w.trace hc) (Emits.start w)
    exact ⟨w', hrun, hd, hcur, seg, ht, hE⟩
  · obtain ⟨_, w', hrun, a, b, s, ⟨hd, hcur, seg, ht, hE, hL⟩, hs, ha, hb⟩ :=
      Triple.ok_of (gatherSample_drops hs hreset w.trace) (Emits.start w)
    have hparts := lostParts_iff hL hs
    exact ⟨w', hrun, hd, hcur, seg, ht, a, b, hE, hparts.1, hparts.2, ha, hb⟩

/-- `statsServer fullRow`, except that `pg8000.connect` is refused. -/
def refusingServer : Driver :=
  { statsServer fullRow with connect := fun _ _ => .error (.pg "InterfaceError" "communication error") }

/-- `statsServer fullRow`, except that the size query loses the connection. -/
def sizeLostServer : Driver :=
  { statsServer fullRow with
    execute := fun _ _ sql =>
      if sql = sizeQuery "db" then .error (.operational 2006 "server closed the connection unexpectedly")
      else .ok () }

theorem refusingServer_closes : Closes refusingServer := ⟨fun _ _ => rfl, fun _ _ => rfl⟩

theorem refusingServer_unreachable : Unreachable refusingServer exampleParams :=
  ⟨fun _ _ h => by cases h; rfl, .inl fun _ => ⟨_, rfl⟩⟩

theorem sizeLostServer_opens : Opens sizeLostServer exampleParams :=
  ⟨⟨fun _ _ => rfl, fun _ _ => rfl⟩, fun _ => rfl, fun _ _ => rfl⟩

theorem sizeLostServer_answersStats : AnswersStats sizeLostServer exampleParams statsColumns fullRow :=
  ⟨fun _ _ => rfl, fun _ _ => rfl, fun _ _ => rfl, fun _ _ => rfl⟩

theorem sizeLostServer_drops :
    ServesOrDrops sizeLostServer exampleParams (.int 42) [] statsColumns fullRow :=
  ⟨sizeLostServer_opens, ⟨fun _ _ => .inr ⟨_, rfl, rfl⟩, fun _ _ => .inl rfl⟩,
    sizeLostServer_answersStats.orGone⟩

theorem fullRow_reset : ResetIsDatetime (PyDict.ofList (statsColumns.zip fullRow)) :=
  ResetIsDatetime.of_lookup resetTime (by decide)

/-- A call against `refusingServer` and one against `sizeLostServer`, which loses the size and
then answers the statistics. -/
theorem survives_losses_examples :
    (Closes refusingServer ∧ Unreachable refusingServer exampleParams ∧
      ∃ w', gatherSample refusingServer exampleParams World.init = .ok () w' ∧ w'.db = none ∧
        w'.cursor = none ∧ ∃ seg, w'.trace = World.init.trace ++ seg ∧ emitted seg = []) ∧
    (ServesOrDrops sizeLostServer exampleParams (.int 42) [] statsColumns fullRow ∧
      ResetIsDatetime (PyDict.ofList (statsColumns.zip fullRow)) ∧
      ∃ w', gatherSample sizeLostServer exampleParams World.init = .ok () w' ∧ w'.db = none ∧
        w'.cursor = none ∧ ∃ seg, w'.trace = World.init.trace ++ seg ∧ ∃ a b : Bool,
          emitted seg = (if a then sizeSamples (.int 42) else []) ++
            (if b then statSamples (PyDict.ofList (statsColumns.zip fullRow)) else []) ∧
          (a = false ↔ sizeQuery exampleParams.database ∈ lostIn seg) ∧
          (b = false ↔ fieldsQuery "pg_stat_database" exampleParams.database ∈ lostIn seg ∨
            statsQuery "pg_stat_database" exampleParams.database ∈ lostIn seg) ∧
          (AnswersSize sizeLostServer exampleParams (.int 42) [] → a = true) ∧
          (AnswersStats sizeLostServer exampleParams statsColumns fullRow → b = true)) :=
  ⟨⟨refusingServer_closes, refusingServer_unreachable,
      (gatherSample_survives_losses exampleParams World.init).1 _ refusingServer_closes
        refusingServer_unreachable⟩,
    ⟨sizeLostServer_drops, fullRow_reset,
      (gatherSample_survives_losses exampleParams World.init).2 _ _ _ _ _ sizeLostServer_drops
        fullRow_reset⟩⟩

/-! ## Samples after a loss -/

section SizeLost

variable {d : Driver} {p : DbParams} (ho : Opens d p)
  (hl : ∀ t cur, ∃ e, d.execute t cur (sizeQuery p.database) = .error e ∧ e.isGone = true)
include ho hl

/-- `retrieve_database_size` against a server that loses the size query: `None`, on a new
connection, with nothing emitted since the loss. -/
theorem retrieveDatabaseSize_lost (t0 : List Event) (E : List Sample) (L : List String) (c : Conn) :
    Triple (Fields t0 E L (some c) (some ⟨c⟩)) (retrieveDatabaseSize d p)
      (fun v w => (∃ pre cur e c, Fields (pre ++ [.execute cur (sizeQuery p.database) (some e)])
        [] [] (some c) (some ⟨c⟩) w ∧ e.isGone = true) ∧ v = .null)
      (fun _ _ => False) :=
  Triple.tryCatch (show Triple _ _ _ (fun e w =>
      (∃ pre cur, w.trace = pre ++ [.execute cur (sizeQuery p.database) (some e)]) ∧
        e.isGone = true) from
    Triple.bind (liveCursor_some (fun _ h => h.2.1) _) fun cur =>
      Triple.bind (Triple.conseq driverCall_triple (fun w _ =>
          ⟨fun _ ha => by obtain ⟨e, he, -⟩ := hl w.tick cur; simp [he] at ha,
            fun e he => ⟨⟨w.trace, cur, rfl⟩, by
              obtain ⟨e', he', hg⟩ := hl w.tick cur
              rw [he'] at he
              cases he
              exact hg⟩⟩)
        (fun _ _ h => h) (fun _ _ h => h)) fun _ => Triple.of_false)
    fun e => Triple.and_fact fun hg => Triple.of_exists fun pre => Triple.of_exists fun cur =>
      Triple.conseq (onOperationalError_gone ho (pre ++ [_]) [] [] Value.null hg)
        (fun _ hw => ⟨[], by rw [hw, List.append_nil], rfl, rfl⟩)
        (fun _ _ ⟨⟨c, h⟩, hv⟩ => ⟨⟨pre, cur, e, c, h, hg⟩, hv⟩) (fun _ _ h => h)

variable {fields : List String} {row : Row} (hs : AnswersStats d p fields row)
  (hreset : ResetIsDatetime (PyDict.ofList (fields.zip row))) (t0 : List Event)
include hs hreset

theorem sampleConnected_sizeLost (c : Conn) :
    Triple (Fields t0 [] [] (some c) (some ⟨c⟩)) (sampleConnected d p)
      (fun _ w => ∃ pre cur e, e.isGone = true ∧
        Fields (pre ++ [.execute cur (sizeQuery p.database) (some e)])
          (statSamples (PyDict.ofList (fields.zip row))) [] none none w)
      (fun _ _ => False) :=
  Triple.bind (retrieveDatabaseSize_lost ho hl t0 [] [] c) fun _ => Triple.and_fact fun hv => by
    subst hv
    refine Triple.of_exists fun pre => Triple.of_exists fun cur => Triple.of_exists fun e =>
      Triple.of_exists fun c => Triple.and_fact fun hg => ?_
    exact Triple.bind (emitSize_fields _ [] _ _ _ _) fun _ =>
      Triple.conseq (sampleStats_drops ho _ _ _ c hs.orGone hreset) (fun _ h => h)
        (fun _ _ ⟨_, _, h, _, hb⟩ => ⟨pre, cur, e, hg, by simpa [hb hs, sizeSamples] using h⟩)
        (fun _ _ h => h)

/-- A `gather_sample` call against a server that connects, loses the size query and answers
the statistics: the statistics are emitted after the loss. -/
theorem gatherSample_sizeLost :
    Triple (Emits t0 [] []) (gatherSample d p)
      (fun _ w => ∃ pre cur e, e.isGone = true ∧
        Fields (pre ++ [.execute cur (sizeQuery p.database) (some e)])
          (statSamples (PyDict.ofList (fields.zip row))) [] none none w)
      (fun _ _ => False) :=
  Triple.bind (reconnectOrWarn_opens ho t0 [] []) fun _ => Triple.and_fact fun hb => by
    subst hb
    refine Triple.of_exists fun c => ?_
    exact Triple.bind (isConnected_fields t0 [] [] _ _) fun _ => Triple.and_fact fun hc => by
      subst hc
      exact sampleConnected_sizeLost ho hl hs hreset t0 c

end SizeLost

/-- After a `reconnect` that leaves a connection, `gather_sample` is the sample of it. -/
theorem gatherSample_of_reconnected {d : Driver} {p : DbParams} {w w1 : World}
    (h : reconnectOrWarn d p w = .ok true w1) (hc : w1.db.isSome = true) :
    gatherSample d p w = sampleConnected d p w1 := by
  simp only [gatherSample, bind, EStateM.bind, h, isConnected, get, getThe, MonadStateOf.get,
    EStateM.get, pure, EStateM.pure, hc, if_true]

/-- A server that accepts the first connection, loses it at every statement and refuses every
later connection. -/
def reconnectRefusedServer : Driver where
  connect t _ := if t = 0 then .ok () else .error (.pg "InterfaceError" "communication error")
  cursor _ _ := .ok ()
  execute _ _ _ := .error (.operational 2006 "server closed the connection unexpectedly")
  description _ _ _ := .ok []
  fetchone _ _ _ := .ok none
  closeCursor _ _ := .ok ()
  closeConn _ _ := .ok ()

/-- The state after the first `reconnect` of a run against `reconnectRefusedServer`: connected,
with the version query lost. -/
def reconnectRefusedStart : World :=
  ⟨some ⟨0⟩, some ⟨⟨0⟩⟩, [⟨0⟩], 1, 3, "",
    [.connect ⟨0⟩ none, .cursor ⟨0⟩ none,
      .execute ⟨⟨0⟩⟩ versionQuery
        (some (.operational 2006 "server closed the connection unexpectedly")),
      .error "Exception getting database version: OperationalError"]⟩

/-- Against `sizeLostServer` the call emits three statistics after the size query lost the
connection; against `reconnectRefusedServer`, whose internal `reconnect` is refused after the
size query lost the connection, the call raises `AttributeError`. -/
theorem gatherSample_after_loss :
    (∃ w', gatherSample sizeLostServer exampleParams World.init = .ok () w' ∧
      ∃ pre cur e post, w'.trace = pre ++ .execute cur (sizeQuery "db") (some e) :: post ∧
        e.isGone = true ∧ emitted post = [("postgres.database.connections", .int 3, none),
          ("postgres.database.stats_reset", .int 1500, none),
          ("postgres.database.transactions", .int 5, some [("result", "committed")])]) ∧
    ∃ w', gatherSample reconnectRefusedServer exampleParams World.init =
      .error (.exception "AttributeError" "'NoneType' object has no attribute 'execute'") w' := by
  constructor
  · obtain ⟨_, w', hrun, pre, cur, e, hg, -, -, seg, hseg, hE, -⟩ := Triple.ok_of
      (gatherSample_sizeLost sizeLostServer_opens (fun _ _ => ⟨_, rfl, rfl⟩)
        sizeLostServer_answersStats fullRow_reset World.init.trace) (Emits.start World.init)
    refine ⟨w', hrun, pre, cur, e, seg, by rw [hseg, List.append_assoc]; rfl, hg, ?_⟩
    rw [hE]
    decide
  · rw [gatherSample_of_reconnected (show reconnectOrWarn reconnectRefusedServer exampleParams
      World.init = .ok true reconnectRefusedStart from rfl) rfl]
    exact EStateM.Result.eq_error_of_holds (by decide)

end ScalyrAgent.Postgres
