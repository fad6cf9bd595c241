import Mathlib.Data.List.Basic
import ScalyrAgent.Postgres.Invariant

/-!
# The samples a call emits

The samples of a trace are its `emit` events, in order (`emitted`), and the statements that lost
the connection in it are its `execute`, `description` and `fetchone` calls that raised
`OperationalError` 2006, the version query left out (`lostIn`).  `Emits t0 E L w` says that the
trace of `w` is `t0` followed by events whose samples are `E` and whose lost statements are `L`,
and `Fields t0 E L db cur` adds the values of the two fields.  Every driver call that loses no
statement and every log line appends events that change neither (`Plain`), so a property that
only reads the fields, the samples and the lost statements (`Quiet`) is kept by all of them;
only `emit_value` changes `E`, and only a statement that loses the connection changes `L`.

The specifications here are for a server that answers: each driver call that the theorems below
assume to return is given its answer, and then has an exact postcondition and an error
postcondition `False`.  A spec with error postcondition `False` is a proof that the program
returns.

* `getVersion_quiet`: `_get_version` returns whatever the server answers, since its bare
  `except:` catches everything.
* `Opens` is a server whose `connect`, `cursor()` and closes return.  Against it
  `close_opens`, `connect_opens` and `reconnect_opens` give the fields exactly: `close`
  resets both, and `connect` sets `_db` to a connection and `_cursor` to a cursor of it.
* `cursorExecute_drops`, `cursorDescription_drops` and `cursorFetchone_drops`: a statement that
  answers or loses the connection, the loss recorded in `L`.
* `emitSize_fields`, `emitEntry_fields` and `emitStats_fields` are the emission loop:
  `sizeSamples`, `entrySample` and `statSamples` say what it emits, in the order `keys()` gives
  the columns of the table.
-/

namespace ScalyrAgent.Postgres

/-! ## Samples and lost connections -/

/-- An emitted sample: metric, value and extra fields. -/
abbrev Sample := String × Value × ExtraFields

/-- The samples of a trace, in order. -/
def emitted : List Event → List Sample
  | [] => []
  | .emit m v x :: t => (m, v, x) :: emitted t
  | _ :: t => emitted t

@[simp] theorem emitted_nil : emitted [] = [] := rfl

@[simp] theorem emitted_append (s t : List Event) : emitted (s ++ t) = emitted s ++ emitted t := by
  induction s with
  | nil => rfl
  | cons e s ih => cases e <;> simp [emitted, ih]

/-- An event that is no sample. -/
def Silent (e : Event) : Prop := ∀ m v x, e ≠ .emit m v x

theorem emitted_silent {t : List Event} (ht : ∀ e ∈ t, Silent e) : emitted t = [] := by
  induction t with
  | nil => rfl
  | cons e t ih =>
    have he := ht e (List.mem_cons_self _ _)
    rw [show e :: t = [e] ++ t from rfl, emitted_append, ih fun e' h => ht e' (List.mem_cons_of_mem _ h)]
    cases e <;> first | rfl | exact absurd rfl (he _ _ _)

/-- `OperationalError` with the code 2006, "server has gone away": the exception the two
retrieve methods take for a lost connection and answer with a reconnect. -/
def Exc.isGone : Exc → Bool
  | .operational errcode _ => errcode == 2006
  | _ => false

/-- The statement whose `execute`, `description` or `fetchone` lost the connection, if `e` is
such a call.  The version query is left out: `_get_version` takes every failure in its bare
`except:` and never reconnects. -/
def Event.lostOn : Event → Option String
  | .execute _ sql (some e) | .description _ sql (some e) | .fetchone _ sql (some e) =>
    if e.isGone ∧ sql ≠ versionQuery then some sql else none
  | _ => none

/-- The statements that lost the connection in a trace, in order. -/
def lostIn (t : List Event) : List String := t.filterMap Event.lostOn

@[simp] theorem lostIn_append (s t : List Event) : lostIn (s ++ t) = lostIn s ++ lostIn t :=
  List.filterMap_append _ _ _

/-- An event that is no sample and loses no statement. -/
def Plain (e : Event) : Prop := Silent e ∧ e.lostOn = none

theorem lostIn_plain {t : List Event} (ht : ∀ e ∈ t, Plain e) : lostIn t = [] :=
  List.filterMap_eq_nil_iff.2 fun e he => (ht e he).2

/-- A statement that returned loses nothing, and neither does any statement of the version
query. -/
@[simp] theorem lostOn_execute_none (cur : Cursor) (sql : String) :
    (Event.execute cur sql none).lostOn = none := rfl

@[simp] theorem lostOn_description_none (cur : Cursor) (sql : String) :
    (Event.description cur sql none).lostOn = none := rfl

@[simp] theorem lostOn_fetchone_none (cur : Cursor) (sql : String) :
    (Event.fetchone cur sql none).lostOn = none := rfl

theorem plain_version (cur : Cursor) (r : Option Exc) :
    Plain (.execute cur versionQuery r) ∧ Plain (.fetchone cur versionQuery r) := by
  cases r <;> simp [Plain, Silent, Event.lostOn]

/-- A statement other than the version query that raises `OperationalError` 2006 loses it. -/
theorem lostOn_gone {sql : String} (hsql : sql ≠ versionQuery) {e : Exc} (he : e.isGone = true)
    (cur : Cursor) :
    (Event.execute cur sql (some e)).lostOn = some sql ∧
      (Event.description cur sql (some e)).lostOn = some sql ∧
      (Event.fetchone cur sql (some e)).lostOn = some sql := by
  simp [Event.lostOn, he, hsql]

/-- Since the trace `t0`, the samples `E` were emitted and the statements `L` lost the
connection. -/
def Emits (t0 : List Event) (E : List Sample) (L : List String) (w : World) : Prop :=
  ∃ seg, w.trace = t0 ++ seg ∧ emitted seg = E ∧ lostIn seg = L

theorem Emits.emit {t0 : List Event} {E : List Sample} {L : List String} {w : World}
    (h : Emits t0 E L w) (m : String) (v : Value) (x : ExtraFields) :
    Emits t0 (E ++ [(m, v, x)]) L { w with trace := w.trace ++ [.emit m v x] } := by
  obtain ⟨seg, hs, hE, hL⟩ := h
  exact ⟨seg ++ [.emit m v x], by simp [hs], by simp [hE, emitted],
    by rw [lostIn_append, hL]; simp [lostIn, Event.lostOn]⟩

theorem Emits.start (w : World) : Emits w.trace [] [] w := ⟨[], by simp, rfl, rfl⟩

/-- `I` reads only the two fields, the samples and the lost statements of the trace: appending
plain events, and changing anything else, keeps it. -/
def Quiet (I : World → Prop) : Prop :=
  ∀ w w' t, I w → (∀ e ∈ t, Plain e) → w'.trace = w.trace ++ t → w'.db = w.db →
    w'.cursor = w.cursor → I w'

/-- Both fields as given, and the samples `E` and lost statements `L` since `t0`. -/
def Fields (t0 : List Event) (E : List Sample) (L : List String) (db : Option Conn)
    (cur : Option Cursor) (w : World) : Prop :=
  w.db = db ∧ w.cursor = cur ∧ Emits t0 E L w

theorem Emits.quiet (t0 : List Event) (E : List Sample) (L : List String) :
    Quiet (Emits t0 E L) := by
  intro w w' t ⟨seg, hs, hE, hL⟩ ht hw' _ _
  refine ⟨seg ++ t, by rw [hw', hs, List.append_assoc], ?_, ?_⟩
  · rw [emitted_append, hE, emitted_silent fun e he => (ht e he).1, List.append_nil]
  · rw [lostIn_append, hL, lostIn_plain ht, List.append_nil]

theorem Fields.quiet (t0 : List Event) (E : List Sample) (L : List String) (db : Option Conn)
    (cur : Option Cursor) : Quiet (Fields t0 E L db cur) := fun w w' t ⟨hd, hc, h⟩ ht hw' hd' hc' =>
  ⟨hd' ▸ hd, hc' ▸ hc, Emits.quiet t0 E L w w' t h ht hw' hd' hc'⟩

/-- An event that is no sample and loses `sql` adds it to the lost statements. -/
theorem Fields.lose {t0 : List Event} {E : List Sample} {L : List String} {db : Option Conn}
    {cur : Option Cursor} {w : World} (h : Fields t0 E L db cur w) {ev : Event} {sql : String}
    (hs : Silent ev) (hl : ev.lostOn = some sql) :
    Fields t0 E (L ++ [sql]) db cur { w with tick := w.tick + 1, trace := w.trace ++ [ev] } :=
  let ⟨hd, hc, seg, hseg, hE, hL⟩ := h
  ⟨hd, hc, seg ++ [ev], by simp [hseg], by rw [emitted_append, hE, emitted_silent (by simpa using hs),
    List.append_nil], by rw [lostIn_append, hL]; simp [lostIn, hl]⟩

/-! ## Answers and lost connections -/

/-- The driver answers `a`, or raises that the connection is lost. -/
def OkOrGone {α : Type} (r : Except Exc α) (a : α) : Prop :=
  r = .ok a ∨ ∃ e, r = .error e ∧ e.isGone = true

theorem OkOrGone.ok {α : Type} {r : Except Exc α} {a b : α} (h : OkOrGone r a) (hr : r = .ok b) :
    b = a := by
  rcases h with h | ⟨e, h, _⟩ <;> rw [h] at hr <;> cases hr; rfl

theorem OkOrGone.gone {α : Type} {r : Except Exc α} {a : α} {e : Exc} (h : OkOrGone r a)
    (hr : r = .error e) : e.isGone = true := by
  rcases h with h | ⟨e, h, he⟩ <;> rw [h] at hr <;> cases hr; exact he

section Quiet

variable {I : World → Prop} (hI : Quiet I) (d : Driver)
include hI

theorem record_quiet {E : Exc → World → Prop} {e : Event} (he : Plain e) :
    Triple I (record e) (fun _ => I) E :=
  fun w h => hI w _ [e] h (by simpa using he) rfl rfl rfl

/-- A driver call whose events are plain and whose success leaves both fields alone keeps `I`,
and returns or raises what the driver answers at some tick. -/
theorem driverCall_answered {α : Type} {answer : Nat → Except Exc α} {event : Option Exc → Event}
    {onOk : α → World → World} (hev : ∀ r, Plain (event r))
    (hok : ∀ a w, (onOk a w).trace = w.trace ∧ (onOk a w).db = w.db ∧ (onOk a w).cursor = w.cursor) :
    Triple I (driverCall answer event onOk) (fun a w => I w ∧ ∃ t, answer t = .ok a)
      (fun e w => I w ∧ ∃ t, answer t = .error e) := by
  refine Triple.conseq driverCall_triple (fun w h => ⟨fun a ha => ⟨?_, w.tick, ha⟩,
    fun e he => ⟨?_, w.tick, he⟩⟩) (fun _ _ h => h) (fun _ _ h => h)
  · obtain ⟨ht, hd, hc⟩ := hok a { w with tick := w.tick + 1, trace := w.trace ++ [event none] }
    exact hI w _ _ h (by simpa using hev none) ht hd hc
  · exact hI w _ _ h (by simpa using hev (some e)) rfl rfl rfl

theorem driverCall_quiet {α : Type} {answer : Nat → Except Exc α} {event : Option Exc → Event}
    {onOk : α → World → World} (hev : ∀ r, Plain (event r))
    (hok : ∀ a w, (onOk a w).trace = w.trace ∧ (onOk a w).db = w.db ∧ (onOk a w).cursor = w.cursor) :
    Keeps I (driverCall answer event onOk) :=
  Triple.conseq (driverCall_answered hI hev hok) (fun _ h => h) (fun _ _ h => h.1) (fun _ _ h => h.1)

/-- A driver call that always returns `a` never raises. -/
theorem driverCall_ok_quiet {α : Type} {answer : Nat → Except Exc α} {event : Option Exc → Event}
    {onOk : α → World → World} {a : α} (h : ∀ t, answer t = .ok a) (hev : Plain (event none))
    (hok : ∀ a w, (onOk a w).trace = w.trace ∧ (onOk a w).db = w.db ∧ (onOk a w).cursor = w.cursor) :
    Triple I (driverCall answer event onOk) (fun b w => I w ∧ b = a) (fun _ _ => False) :=
  Triple.conseq driverCall_triple (fun w hw => ⟨fun b hb => by
      obtain ⟨ht, hd, hc⟩ := hok b { w with tick := w.tick + 1, trace := w.trace ++ [event none] }
      exact ⟨hI w _ _ hw (by simpa using hev) ht hd hc, by simpa [h] using hb.symm⟩,
    fun _ he => by simp [h] at he⟩) (fun _ _ h => h) (fun _ _ h => h)

theorem modify_quiet {E : Exc → World → Prop} {f : World → World}
    (hf : ∀ w, (f w).trace = w.trace ∧ (f w).db = w.db ∧ (f w).cursor = w.cursor) :
    Triple I (modify f) (fun _ => I) E :=
  Triple.modify' fun w h => hI w _ [] h (by simp) (by simp [(hf w).1]) (hf w).2.1 (hf w).2.2

/-- `cursor.execute(sql)` against a driver that always answers it. -/
theorem cursorExecute_answered (cur : Cursor) {sql : String} (h : ∀ t, d.execute t cur sql = .ok ()) :
    Triple I (cursorExecute d cur sql) (fun _ w => I w ∧ w.pending = sql) (fun _ _ => False) :=
  Triple.conseq driverCall_triple (fun w hw =>
      ⟨fun _ _ => ⟨hI w _ [_] hw (by simp [Plain, Silent]) rfl rfl rfl, rfl⟩,
        fun _ he => by simp [h] at he⟩)
    (fun _ _ h => h) (fun _ _ h => h)

/-- A call that pg8000 answers from the statement `sql` the cursor last ran, and that loses
nothing: it keeps `I` and returns what the driver answers. -/
theorem pendingCall_quiet (cur : Cursor) {α : Type} {f : Nat → Cursor → String → Except Exc α}
    (event : String → Option Exc → Event) {sql : String} (hev : ∀ r, Plain (event sql r)) :
    Triple (fun w => I w ∧ w.pending = sql)
      (do let sql := (← get).pending; driverCall (f · cur sql) (event sql) fun _ w => w)
      (fun b w => I w ∧ ∃ t, f t cur sql = .ok b) (fun e w => I w ∧ ∃ t, f t cur sql = .error e) := by
  refine Triple.bind (show Triple _ get (fun s w => I w ∧ s.pending = sql) _ from
    Triple.get' fun _ h => h) fun s => Triple.and_fact fun hs => ?_
  rw [hs]
  exact driverCall_answered hI hev fun _ _ => ⟨rfl, rfl, rfl⟩

/-- A call that pg8000 answers from the statement `sql` the cursor last ran, always with `a`. -/
theorem pendingCall_answered (cur : Cursor) {α : Type} {f : Nat → Cursor → String → Except Exc α}
    (event : String → Option Exc → Event) {sql : String} {a : α} (h : ∀ t, f t cur sql = .ok a)
    (hev : Plain (event sql none)) :
    Triple (fun w => I w ∧ w.pending = sql)
      (do let sql := (← get).pending; driverCall (f · cur sql) (event sql) fun _ w => w)
      (fun b w => I w ∧ b = a) (fun _ _ => False) := by
  refine Triple.bind (show Triple _ get (fun s w => I w ∧ s.pending = sql) _ from
    Triple.get' fun _ h => h) fun s => Triple.and_fact fun hs => ?_
  rw [hs]
  exact driverCall_ok_quiet hI h hev fun _ _ => ⟨rfl, rfl, rfl⟩

theorem cursorFetchone_answered (cur : Cursor) {sql : String} {r : Option Row}
    (h : ∀ t, d.fetchone t cur sql = .ok r) :
    Triple (fun w => I w ∧ w.pending = sql) (cursorFetchone d cur) (fun a w => I w ∧ a = r)
      (fun _ _ => False) :=
  pendingCall_answered hI cur (fun sql => .fetchone cur sql) h (by simp [Plain, Silent])

theorem cursorDescription_answered (cur : Cursor) {sql : String} {fields : List String}
    (h : ∀ t, d.description t cur sql = .ok fields) :
    Triple (fun w => I w ∧ w.pending = sql) (cursorDescription d cur) (fun a w => I w ∧ a = fields)
      (fun _ _ => False) :=
  pendingCall_answered hI cur (fun sql => .description cur sql) h (by simp [Plain, Silent])

theorem pgConnect_answered (p : DbParams) :
    Triple I (pgConnect d p) (fun _ w => I w ∧ ∃ t, d.connect t p = .ok ())
      (fun e w => I w ∧ ∃ t, d.connect t p = .error e) :=
  Triple.bind (Triple.get' fun _ h => h) fun _ =>
    Triple.bind (modify_quiet hI fun _ => ⟨rfl, rfl, rfl⟩) fun _ =>
    Triple.bind (driverCall_answered hI (fun _ => by simp [Plain, Silent, Event.lostOn])
      fun _ _ => ⟨rfl, rfl, rfl⟩) fun _ => Triple.pure' fun _ h => h

theorem connCursor_answered (c : Conn) :
    Triple I (connCursor d c) (fun cur w => I w ∧ cur = ⟨c⟩ ∧ ∃ t, d.cursor t c = .ok ())
      (fun e w => I w ∧ ∃ t, d.cursor t c = .error e) :=
  Triple.bind (driverCall_answered hI (fun _ => by simp [Plain, Silent, Event.lostOn])
    fun _ _ => ⟨rfl, rfl, rfl⟩) fun _ => Triple.pure' fun _ ⟨h, ht⟩ => ⟨h, rfl, ht⟩

/-- `_get_version` never raises, whatever the server answers: its statements lose nothing the
model counts, and its bare `except:` takes every failure. -/
theorem getVersion_quiet : Triple I (getVersion d) (fun _ => I) (fun _ _ => False) := by
  have hexec (cur : Cursor) : Triple I (cursorExecute d cur versionQuery)
      (fun _ w => I w ∧ w.pending = versionQuery) (fun _ => I) :=
    Triple.conseq driverCall_triple (fun w hw =>
        ⟨fun _ _ => ⟨hI w _ [_] hw (by simpa using (plain_version cur none).1) rfl rfl rfl, rfl⟩,
          fun e _ => hI w _ [_] hw (by simpa using (plain_version cur (some e)).1) rfl rfl rfl⟩)
      (fun _ _ h => h) (fun _ _ h => h)
  have hfetch (cur : Cursor) : Triple (fun w => I w ∧ w.pending = versionQuery)
      (cursorFetchone d cur) (fun _ => I) (fun _ => I) :=
    Triple.conseq (pendingCall_quiet hI cur (f := d.fetchone) (fun sql => .fetchone cur sql)
      fun r => (plain_version cur r).2) (fun _ h => h) (fun _ _ h => h.1) (fun _ _ h => h.1)
  exact Triple.tryCatch
    (Triple.bind (liveCursor_triple _) fun cur =>
      Triple.bind (Triple.conseq (hexec cur) (fun _ h => h.1) (fun _ _ h => h) (fun _ _ h => h))
        fun _ =>
      Triple.bind (Triple.conseq (liveCursor_triple _) (fun _ h => h) (fun _ _ h => h.1)
        (fun _ _ h => h.1)) fun cur =>
      Triple.bind (hfetch cur) fun _ => liftExcept_keeps _)
    fun _ => Triple.bind (record_quiet hI (by simp [Plain, Silent, Event.lostOn])) fun _ =>
      Triple.pure' fun _ h => h

end Quiet

/-! ## Statements that answer or lose the connection -/

section Drops

variable (t0 : List Event) (E : List Sample) (L : List String) (db : Option Conn)
  (c : Option Cursor) (d : Driver) {sql : String} (hsql : sql ≠ versionQuery)

/-- A call that pg8000 answers from the statement `sql` the cursor last ran, with `a` or a lost
connection: a loss adds `sql` to the lost statements, and refutes every `A` under which the
driver always answers. -/
theorem pendingCall_drops (cur : Cursor) {α : Type} {f : Nat → Cursor → String → Except Exc α}
    (event : String → Option Exc → Event) {a : α} {A : Prop} (h : ∀ t, OkOrGone (f t cur sql) a)
    (hA : A → ∀ t, f t cur sql = .ok a) (hev : ∀ r, Silent (event sql r))
    (hnone : (event sql none).lostOn = none)
    (hlost : ∀ e, e.isGone = true → (event sql (some e)).lostOn = some sql) :
    Triple (fun w => Fields t0 E L db c w ∧ w.pending = sql)
      (do let sql := (← get).pending; driverCall (f · cur sql) (event sql) fun _ w => w)
      (fun b w => Fields t0 E L db c w ∧ b = a)
      (fun e w => Fields t0 E (L ++ [sql]) db c w ∧ e.isGone = true ∧ ¬A) := by
  refine Triple.bind (show Triple _ get (fun s w => Fields t0 E L db c w ∧ s.pending = sql) _ from
    Triple.get' fun _ h => h) fun s => Triple.and_fact fun hs => ?_
  rw [hs]
  exact Triple.conseq driverCall_triple (fun w hw =>
      ⟨fun b hb => ⟨Fields.quiet t0 E L db c w _ [_] hw (by simpa using (⟨hev none, hnone⟩ : Plain _))
          rfl rfl rfl, (h w.tick).ok hb⟩,
        fun e he => have hg := (h w.tick).gone he
          ⟨hw.lose (hev _) (hlost e hg), hg, fun ha => by simp [hA ha w.tick] at he⟩⟩)
    (fun _ _ h => h) (fun _ _ h => h)

include hsql

/-- `cursor.execute(sql)` against a driver that answers it or loses the connection. -/
theorem cursorExecute_drops (cur : Cursor) {A : Prop}
    (h : ∀ t, OkOrGone (d.execute t cur sql) ()) (hA : A → ∀ t, d.execute t cur sql = .ok ()) :
    Triple (Fields t0 E L db c) (cursorExecute d cur sql)
      (fun _ w => Fields t0 E L db c w ∧ w.pending = sql)
      (fun e w => Fields t0 E (L ++ [sql]) db c w ∧ e.isGone = true ∧ ¬A) :=
  Triple.conseq driverCall_triple (fun w hw =>
      ⟨fun _ _ => ⟨Fields.quiet t0 E L db c w _ [_] hw (by simp [Plain, Silent]) rfl rfl rfl, rfl⟩,
        fun e he => have hg := (h w.tick).gone he
          ⟨hw.lose (by simp [Silent]) (lostOn_gone hsql hg cur).1, hg,
            fun ha => by simp [hA ha w.tick] at he⟩⟩)
    (fun _ _ h => h) (fun _ _ h => h)

theorem cursorFetchone_drops (cur : Cursor) {r : Option Row} {A : Prop}
    (h : ∀ t, OkOrGone (d.fetchone t cur sql) r) (hA : A → ∀ t, d.fetchone t cur sql = .ok r) :
    Triple (fun w => Fields t0 E L db c w ∧ w.pending = sql) (cursorFetchone d cur)
      (fun a w => Fields t0 E L db c w ∧ a = r)
      (fun e w => Fields t0 E (L ++ [sql]) db c w ∧ e.isGone = true ∧ ¬A) :=
  pendingCall_drops t0 E L db c cur (fun sql => .fetchone cur sql) h hA
    (fun _ => by simp [Silent]) rfl fun _ hg => (lostOn_gone hsql hg cur).2.2

theorem cursorDescription_drops (cur : Cursor) {fields : List String} {A : Prop}
    (h : ∀ t, OkOrGone (d.description t cur sql) fields)
    (hA : A → ∀ t, d.description t cur sql = .ok fields) :
    Triple (fun w => Fields t0 E L db c w ∧ w.pending = sql) (cursorDescription d cur)
      (fun a w => Fields t0 E L db c w ∧ a = fields)
      (fun e w => Fields t0 E (L ++ [sql]) db c w ∧ e.isGone = true ∧ ¬A) :=
  pendingCall_drops t0 E L db c cur (fun sql => .description cur sql) h hA
    (fun _ => by simp [Silent]) rfl fun _ hg => (lostOn_gone hsql hg cur).2.1

end Drops

/-! ## A server that answers -/

/-- The closes of cursors and connections return. -/
structure Closes (d : Driver) : Prop where
  closeCursor : ∀ t cur, d.closeCursor t cur = .ok ()
  closeConn : ∀ t c, d.closeConn t c = .ok ()

/-- The calls that open and close connections and cursors all return. -/
structure Opens (d : Driver) (p : DbParams) extends Closes d : Prop where
  connect : ∀ t, d.connect t p = .ok ()
  cursor : ∀ t c, d.cursor t c = .ok ()

section Closes

variable {d : Driver} (hc : Closes d) (t0 : List Event) (E : List Sample) (L : List String)
include hc

theorem closeCursor_closes {I : World → Prop} (hI : Quiet I) :
    Triple I (closeCursor d) (fun _ => I) (fun _ _ => False) :=
  Triple.bind (Triple.get' fun _ h => h) fun s => by
    cases s.cursor with
    | none => exact Triple.pure' fun _ h => h
    | some cur =>
      exact Triple.conseq (driverCall_ok_quiet hI (hc.closeCursor · cur)
        (by simp [Plain, Silent, Event.lostOn]) fun _ _ => ⟨rfl, rfl, rfl⟩) (fun _ h => h) (fun _ _ h => h.1) (fun _ _ h => h)

theorem closeDb_closes {I : World → Prop} (hI : Quiet I) :
    Triple I (closeDb d) (fun _ => I) (fun _ _ => False) :=
  Triple.bind (Triple.get' fun _ h => h) fun s => by
    cases s.db with
    | none => exact Triple.pure' fun _ h => h
    | some c =>
      exact Triple.conseq (driverCall_ok_quiet hI (hc.closeConn · c)
        (by simp [Plain, Silent, Event.lostOn]) fun _ _ => ⟨rfl, rfl, rfl⟩) (fun _ h => h) (fun _ _ h => h.1) (fun _ _ h => h)

/-- `close` against a server whose closes return: both fields reset, nothing emitted. -/
theorem close_closes : Triple (Emits t0 E L) (close d) (fun _ => Fields t0 E L none none)
    (fun _ _ => False) :=
  have hcur : Triple (Emits t0 E L) (setCursor none) (fun _ w => Emits t0 E L w ∧ w.cursor = none)
      (fun _ _ => False) :=
    Triple.modify' fun _ h => ⟨h, rfl⟩
  have hdb : Triple (fun w => Emits t0 E L w ∧ w.cursor = none) (setDb none)
      (fun _ => Fields t0 E L none none) (fun _ _ => False) :=
    Triple.modify' fun _ ⟨h, hc⟩ => ⟨rfl, hc, h⟩
  Triple.bind (closeCursor_closes hc (Emits.quiet t0 E L)) fun _ =>
    Triple.bind (closeDb_closes hc (Emits.quiet t0 E L)) fun _ => Triple.bind hcur fun _ => hdb

end Closes

section Opens

variable {d : Driver} {p : DbParams} (ho : Opens d p) (t0 : List Event) (E : List Sample) (L : List String)
include ho

theorem pgConnect_opens {I : World → Prop} (hI : Quiet I) :
    Triple I (pgConnect d p) (fun _ => I) (fun _ _ => False) :=
  Triple.conseq (pgConnect_answered hI d p) (fun _ h => h) (fun _ _ h => h.1)
    (fun _ _ ⟨_, t, ht⟩ => by simp [ho.connect t] at ht)

theorem connCursor_opens {I : World → Prop} (hI : Quiet I) (c : Conn) :
    Triple I (connCursor d c) (fun cur w => I w ∧ cur = ⟨c⟩) (fun _ _ => False) :=
  Triple.conseq (connCursor_answered hI d c) (fun _ h => h) (fun _ _ h => ⟨h.1, h.2.1⟩)
    (fun _ _ ⟨_, t, ht⟩ => by simp [ho.cursor t c] at ht)

/-- `connect` against a server that accepts: `_db` is a connection and `_cursor` a cursor of
it, whatever the version query gives. -/
theorem connect_opens :
    Triple (Fields t0 E L none none) (connect d p) (fun _ w => ∃ c, Fields t0 E L (some c) (some ⟨c⟩) w)
      (fun _ _ => False) := by
  refine Triple.tryCatch (Triple.bind (pgConnect_opens ho (Fields.quiet t0 E L none none)) fun c => ?_)
    fun _ => Triple.of_false
  have hdb : Triple (Fields t0 E L none none) (setDb (some c)) (fun _ => Fields t0 E L (some c) none)
      (fun _ _ => False) :=
    Triple.modify' fun _ ⟨_, hc, h⟩ => ⟨rfl, hc, h⟩
  have hcur : ∀ cur, Triple (fun w => Fields t0 E L (some c) none w ∧ cur = ⟨c⟩)
      (setCursor (some cur)) (fun _ => Fields t0 E L (some c) (some ⟨c⟩)) (fun _ _ => False) :=
    fun _ => Triple.modify' fun _ ⟨⟨hd, _, h⟩, hcur⟩ => ⟨hd, by rw [hcur], h⟩
  exact Triple.bind hdb fun _ =>
    Triple.bind (connCursor_opens ho (Fields.quiet t0 E L (some c) none) c) fun cur =>
    Triple.bind (hcur cur) fun _ =>
    Triple.bind (getVersion_quiet (Fields.quiet t0 E L (some c) (some ⟨c⟩)) d) fun _ =>
    Triple.pure' fun _ h => ⟨c, h⟩

/-- `reconnect` against a server that accepts: a new connection and its cursor. -/
theorem reconnect_opens :
    Triple (Emits t0 E L) (reconnect d p) (fun _ w => ∃ c, Fields t0 E L (some c) (some ⟨c⟩) w)
      (fun _ _ => False) :=
  Triple.bind (close_closes ho.toCloses t0 E L) fun _ => connect_opens ho t0 E L

theorem reconnectOrWarn_opens :
    Triple (Emits t0 E L) (reconnectOrWarn d p)
      (fun b w => (∃ c, Fields t0 E L (some c) (some ⟨c⟩) w) ∧ b = true) (fun _ _ => False) :=
  Triple.tryCatch (Triple.bind (reconnect_opens ho t0 E L) fun _ =>
    Triple.pure' fun _ h => ⟨h, rfl⟩) fun _ => Triple.of_false

/-- The clause for `OperationalError` of the retrieve methods, on a lost connection: a new
connection and its cursor, and the method's `None`. -/
theorem onOperationalError_gone {α : Type} (none : α) {e : Exc} (he : e.isGone = true) :
    Triple (Emits t0 E L) (onOperationalError d p none e)
      (fun v w => (∃ c, Fields t0 E L (some c) (some ⟨c⟩) w) ∧ v = none) (fun _ _ => False) := by
  cases e with
  | operational errcode _ =>
    obtain rfl : errcode = 2006 := by simpa [Exc.isGone] using he
    simp only [onOperationalError]
    rw [if_neg (by decide)]
    exact Triple.bind (reconnect_opens ho t0 E L) fun _ => Triple.pure' fun _ h => ⟨h, rfl⟩
  | _ => simp [Exc.isGone] at he

end Opens

/-! ## What the emission loop emits -/

/-- `timestamp_ms` of a `datetime`; the loop is not run on anything else here. -/
def msValue : Value → Value
  | .datetime dt => .int (timestampMs dt)
  | v => v

/-- The sample the emission loop emits for `entry` when the dict holds `v` under its column. -/
def entrySample (entry : String × List String) (v : Value) : Sample :=
  if entry.1 != "stats_reset" then (entry.2.getD 0 "", v, entryExtra entry.2)
  else (entry.2.getD 0 "", msValue v, none)

/-- The samples of the size: none for `None`. -/
def sizeSamples (size : Value) : List Sample :=
  if size != .null then [("postgres.database.size", size, none)] else []

/-- The samples of the statistics: one for each entry of the table whose column `data` holds,
in the order `keys()` gives the columns. -/
def statSamples (data : PyDict Value) : List Sample :=
  pgStatDatabase.filterMap fun entry => (data.lookup entry.1).map (entrySample entry)

/-- `stats_reset`, when `data` holds it, is a `datetime`. -/
def ResetIsDatetime (data : PyDict Value) : Prop :=
  ∀ v, data.lookup "stats_reset" = some v → ∃ dt, v = .datetime dt

@[simp] theorem statSamples_nil : statSamples [] = [] := rfl

theorem ResetIsDatetime.nil : ResetIsDatetime [] := fun _ h => by cases h

theorem ResetIsDatetime.of_lookup {data : PyDict Value} (dt : Datetime)
    (h : data.lookup "stats_reset" = some (.datetime dt)) : ResetIsDatetime data :=
  fun _ hv => ⟨dt, Option.some.inj (hv.symm.trans h)⟩

/-- The samples of a size that may have been lost. -/
theorem sizeSamples_ite (a : Bool) (size : Value) :
    sizeSamples (if a then size else .null) = if a then sizeSamples size else [] := by
  cases a <;> rfl

theorem toList_append_filterMap {α β : Type} (f : α → Option β) (a : α) (l : List α) :
    (f a).toList ++ l.filterMap f = (a :: l).filterMap f := by
  rw [List.filterMap_cons]; cases f a <;> rfl

section Emission

variable (t0 : List Event) (E : List Sample) (L : List String) (db : Option Conn)
  (cur : Option Cursor)

theorem emitValue_fields (m : String) (v : Value) (x : ExtraFields) :
    Triple (Fields t0 E L db cur) (emitValue m v x) (fun _ => Fields t0 (E ++ [(m, v, x)]) L db cur)
      (fun _ _ => False) :=
  Triple.modify' fun _ ⟨hd, hc, h⟩ => ⟨hd, hc, h.emit m v x⟩

theorem emitSize_fields (size : Value) :
    Triple (Fields t0 E L db cur) (emitSize size) (fun _ => Fields t0 (E ++ sizeSamples size) L db cur)
      (fun _ _ => False) := by
  unfold emitSize sizeSamples
  split
  · exact emitValue_fields t0 E L db cur _ _ _
  · exact Triple.pure' fun _ h => by simpa using h

theorem emitEntry_fields (dbstats : PyDict Value) (entry : String × List String)
    (hreset : ResetIsDatetime dbstats) :
    Triple (Fields t0 E L db cur) (emitEntry dbstats entry)
      (fun _ => Fields t0 (E ++ ((dbstats.lookup entry.1).map (entrySample entry)).toList) L db
        cur)
      (fun _ _ => False) := by
  unfold emitEntry
  split
  · next h => exact Triple.pure' fun _ hw => by simpa [h] using hw
  · next v h =>
    simp only [h, Option.map_some', Option.toList_some, entrySample]
    by_cases hr : entry.1 != "stats_reset"
    · simp only [if_pos hr]
      exact emitValue_fields t0 E L db cur _ v _
    · simp only [if_neg hr]
      obtain ⟨dt, rfl⟩ := hreset v ((show entry.1 = "stats_reset" by simpa using hr) ▸ h)
      simp only [timestampMsOf, liftExcept, pure_bind, msValue]
      exact emitValue_fields t0 E L db cur _ _ _

theorem forM_emitEntry (dbstats : PyDict Value) (hreset : ResetIsDatetime dbstats) :
    ∀ (l : List (String × List String)) (E : List Sample),
      Triple (Fields t0 E L db cur) (l.forM (emitEntry dbstats))
        (fun _ => Fields t0 (E ++ l.filterMap fun entry => (dbstats.lookup entry.1).map (entrySample entry))
          L db cur) (fun _ _ => False)
  | [], E => Triple.pure' fun _ h => by simpa using h
  | entry :: l, E =>
    Triple.bind (emitEntry_fields t0 E L db cur dbstats entry hreset) fun _ =>
      Triple.conseq (forM_emitEntry dbstats hreset l _) (fun _ h => h)
        (fun _ _ h => by rw [← toList_append_filterMap, ← List.append_assoc]; exact h)
        (fun _ _ h => h)

theorem emitStats_fields (dbstats : PyDict Value) (hreset : ResetIsDatetime dbstats) :
    Triple (Fields t0 E L db cur) (emitStats dbstats)
      (fun _ => Fields t0 (E ++ statSamples dbstats) L db cur) (fun _ _ => False) :=
  Triple.bind (forM_emitEntry t0 L db cur dbstats hreset pgStatDatabase E) fun _ =>
    Triple.pure' fun _ h => h

theorem isConnected_fields :
    Triple (Fields t0 E L db cur) isConnected (fun b w => Fields t0 E L db cur w ∧ b = db.isSome)
      (fun _ _ => False) :=
  Triple.bind (show Triple _ get (fun s w => Fields t0 E L db cur w ∧ s.db = db) _ from
    Triple.get' fun _ h => ⟨h, h.1⟩) fun _ => Triple.and_fact fun hs =>
    Triple.pure' fun _ h => ⟨h, by rw [hs]⟩

end Emission

/-- The table's samples read only the table's columns. -/
theorem statSamples_selectColumns (data : PyDict Value) :
    statSamples (selectColumns pgStatDatabase data) = statSamples data :=
  List.filterMap_congr fun entry he => by
    rw [lookup_selectColumns, if_pos]
    exact List.any_eq_true.2 ⟨entry, he, by simp⟩

theorem ResetIsDatetime.selectColumns {data : PyDict Value} (h : ResetIsDatetime data) :
    ResetIsDatetime (selectColumns pgStatDatabase data) := fun v hv =>
  h v (by rwa [lookup_selectColumns, if_pos (by decide)] at hv)

end ScalyrAgent.Postgres
