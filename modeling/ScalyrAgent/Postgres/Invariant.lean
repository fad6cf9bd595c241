import ScalyrAgent.Postgres.Monitor

/-!
# The invariant of a `gather_sample` call

A property of `World` is kept by a program when it holds of the state the program leaves,
whether the program returned or raised (`Keeps`).  Most driver calls and all of the logging
append one event that opens no connection and runs no statement (`Neutral`) and leave the two
fields, the open connections and the connection counter alone.  Every property that such an
append cannot break (`Stable`) is kept by them, and the first group proves that once per call.

The second group is the invariant of one call that starts with the trace `t0`:

* `Coherent` is the part of the representation of `PostgreSQLDb` that the code keeps: the
  cursor, when set, is one of `_db`, and `_db`, when set, is open.
* `Sound t0 f0` adds what the call has done since `t0`: every connection ever made is numbered
  below `fresh`, those made since `t0` are numbered from `f0` on, and every statement run since
  `t0` ran on a cursor of a connection opened since `t0`.
* `Live t0 f0` adds that the cursor, when set, is one of a connection opened since `t0`.

`Sound.extend` is the one lemma about appending events, and `Sound.restart` starts the
invariant of the next call from the state the last one left.
-/

namespace ScalyrAgent.Postgres

/-! ## What the driver calls keep -/

/-- `x` keeps `I`, whether it returns or raises. -/
abbrev Keeps {α : Type} (I : World → Prop) (x : PgM α) : Prop :=
  Triple I x (fun _ => I) (fun _ => I)

/-- An event that opens no connection and runs no statement. -/
def Neutral (e : Event) : Prop :=
  (∀ c r, e ≠ .connect c r) ∧ ∀ cur sql r, e ≠ .execute cur sql r

/-- `I` survives a neutral event that leaves the fields it reads as they were. -/
def Stable (I : World → Prop) : Prop :=
  ∀ w w' e, I w → Neutral e → w'.trace = w.trace ++ [e] → w'.fresh = w.fresh →
    w'.db = w.db → w'.cursor = w.cursor → w'.openConns = w.openConns → I w'

theorem liftExcept_keeps {α : Type} {I : World → Prop} (x : Except Exc α) :
    Keeps I (liftExcept x) := by
  cases x <;> exact fun _ h => h

theorem forM_keeps {α : Type} {I : World → Prop} {f : α → PgM PUnit} (hf : ∀ a, Keeps I (f a)) :
    ∀ l : List α, Keeps I (l.forM f)
  | [] => Triple.pure' fun _ h => h
  | a :: l => Triple.bind (hf a) fun _ => forM_keeps hf l

theorem foldlM_keeps {α β : Type} {I : World → Prop} {f : β → α → PgM β}
    (hf : ∀ b a, Keeps I (f b a)) : ∀ (l : List α) (b : β), Keeps I (l.foldlM f b)
  | [], _ => Triple.pure' fun _ h => h
  | a :: l, b => Triple.bind (hf b a) fun b' => foldlM_keeps hf l b'

/-- `self._cursor.attr` returns the cursor in the field and raises when there is none. -/
theorem liveCursor_triple {I : World → Prop} (a : String) :
    Triple I (liveCursor a) (fun cur w => I w ∧ w.cursor = some cur) (fun _ => I) := by
  intro w hw
  show EStateM.Result.Holds _ _ (liveCursor a w)
  simp only [liveCursor, bind, EStateM.bind, get, getThe, MonadStateOf.get, EStateM.get]
  cases h : w.cursor with
  | none => exact hw
  | some cur => exact ⟨hw, h⟩

/-- `self._cursor.attr` when `_cursor` is set: it returns. -/
theorem liveCursor_some {P : World → Prop} {E : Exc → World → Prop} {cur : Cursor}
    (hP : ∀ w, P w → w.cursor = some cur) (a : String) : Triple P (liveCursor a) (fun _ => P) E := by
  intro w hw
  show EStateM.Result.Holds _ _ (liveCursor a w)
  simp only [liveCursor, bind, EStateM.bind, get, getThe, MonadStateOf.get, EStateM.get, hP w hw]
  exact hw

section Primitives

variable {I : World → Prop} (hI : Stable I) (d : Driver)
include hI

/-- A driver call whose events are neutral and whose success changes no field `I` reads keeps
`I`. -/
theorem driverCall_keeps {α : Type} {answer : Nat → Except Exc α} {event : Option Exc → Event}
    {onOk : α → World → World} (hev : ∀ r, Neutral (event r))
    (hok : ∀ a w, (onOk a w).trace = w.trace ∧ (onOk a w).fresh = w.fresh ∧
      (onOk a w).db = w.db ∧ (onOk a w).cursor = w.cursor ∧ (onOk a w).openConns = w.openConns) :
    Keeps I (driverCall answer event onOk) := by
  refine Triple.conseq driverCall_triple (fun w h => ⟨fun a _ => ?_, fun e _ => ?_⟩)
    (fun _ _ h => h) (fun _ _ h => h)
  · obtain ⟨ht, hf, hd, hc, ho⟩ := hok a { w with tick := w.tick + 1, trace := w.trace ++ [event none] }
    exact hI w _ _ h (hev none) ht hf hd hc ho
  · exact hI w _ _ h (hev (some e)) rfl rfl rfl rfl rfl

theorem cursorFetchone_keeps (cur : Cursor) : Keeps I (cursorFetchone d cur) :=
  Triple.bind (Triple.get' fun _ h => h) fun _ =>
    driverCall_keeps hI (fun _ => ⟨by simp, by simp⟩) fun _ _ => ⟨rfl, rfl, rfl, rfl, rfl⟩

theorem cursorDescription_keeps (cur : Cursor) : Keeps I (cursorDescription d cur) :=
  Triple.bind (Triple.get' fun _ h => h) fun _ =>
    driverCall_keeps hI (fun _ => ⟨by simp, by simp⟩) fun _ _ => ⟨rfl, rfl, rfl, rfl, rfl⟩

theorem cursorClose_keeps (cur : Cursor) : Keeps I (cursorClose d cur) :=
  driverCall_keeps hI (fun _ => ⟨by simp, by simp⟩) fun _ _ => ⟨rfl, rfl, rfl, rfl, rfl⟩

/-- `conn.cursor()` returns a cursor of `conn`. -/
theorem connCursor_keeps (c : Conn) :
    Triple I (connCursor d c) (fun cur w => I w ∧ cur = ⟨c⟩) (fun _ => I) :=
  Triple.bind (driverCall_keeps hI (fun _ => ⟨by simp, by simp⟩) fun _ _ => ⟨rfl, rfl, rfl, rfl, rfl⟩)
    fun _ => Triple.pure' fun _ h => ⟨h, rfl⟩

/-- A log line never raises. -/
theorem record_keeps {E : Exc → World → Prop} {e : Event} (he : Neutral e) :
    Triple I (record e) (fun _ => I) E :=
  fun w h => hI w _ e h he rfl rfl rfl rfl rfl

theorem closeCursor_keeps : Keeps I (closeCursor d) :=
  Triple.bind (Triple.get' fun _ h => h) fun s => by
    cases s.cursor with
    | none => exact Triple.pure' fun _ h => h
    | some cur => exact cursorClose_keeps hI d cur

theorem emitEntry_keeps (dbstats : PyDict Value) (column : String × List String) :
    Keeps I (emitEntry dbstats column) := by
  unfold emitEntry
  split
  · exact Triple.pure' fun _ h => h
  · exact Triple.ite' (fun _ => record_keeps hI ⟨by simp, by simp⟩) fun _ =>
      Triple.bind (liftExcept_keeps _) fun _ => record_keeps hI ⟨by simp, by simp⟩

theorem emitStats_keeps (dbstats : PyDict Value) : Keeps I (emitStats dbstats) := by
  unfold emitStats
  apply forM_keeps
  intro table
  exact forM_keeps (emitEntry_keeps hI dbstats) table.2

theorem emitSize_keeps (v : Value) : Keeps I (emitSize v) :=
  Triple.ite' (fun _ => record_keeps hI ⟨by simp, by simp⟩) fun _ => Triple.pure' fun _ h => h

end Primitives

/-! ## The invariant -/

/-- `_cursor`, when set, is a cursor of `_db`, and `_db`, when set, is open. -/
structure Coherent (w : World) : Prop where
  cursor_db : ∀ cur ∈ w.cursor, w.db = some cur.conn
  db_open : ∀ c ∈ w.db, c ∈ w.openConns

/-- Events past position `n` stay past it when more are appended. -/
theorem mem_drop_append {n : Nat} {t u : List Event} {x : Event} (h : n ≤ t.length)
    (hx : x ∈ t.drop n) : x ∈ (t ++ u).drop n := by
  rw [List.drop_append_of_le_length h]; exact List.mem_append_left _ hx

theorem mem_drop_append_iff {n : Nat} {t u : List Event} {x : Event} (h : n ≤ t.length) :
    x ∈ (t ++ u).drop n ↔ x ∈ t.drop n ∨ x ∈ u := by
  rw [List.drop_append_of_le_length h, List.mem_append]

section Invariant

variable (t0 : List Event) (f0 : Nat)

/-- The state of a call that started with the trace `t0` and `f0` connections made. -/
structure Sound (w : World) extends Coherent w : Prop where
  trace_from : t0 <+: w.trace
  fresh_le : f0 ≤ w.fresh
  connect_lt : ∀ c r, Event.connect c r ∈ w.trace → c.id < w.fresh
  connect_ge : ∀ c, Event.connect c none ∈ w.trace.drop t0.length → f0 ≤ c.id
  execute_opened : ∀ cur sql r, Event.execute cur sql r ∈ w.trace.drop t0.length →
    Event.connect cur.conn none ∈ w.trace.drop t0.length

/-- ... and `_cursor`, when set, is a cursor of a connection opened since `t0`. -/
def Live (w : World) : Prop :=
  Sound t0 f0 w ∧ ∀ cur ∈ w.cursor, Event.connect cur.conn none ∈ w.trace.drop t0.length

theorem Sound.len_le {w : World} (h : Sound t0 f0 w) : t0.length ≤ w.trace.length :=
  h.trace_from.length_le

/-- Appending `t` keeps the invariant when every `connect` in `t` takes a number from `f0` on
below the new counter, and every statement in `t` runs on a connection opened since `t0`. -/
theorem Sound.extend {w w' : World} (h : Sound t0 f0 w) (t : List Event)
    (ht : w'.trace = w.trace ++ t) (hf : w.fresh ≤ w'.fresh)
    (hlt : ∀ c r, Event.connect c r ∈ t → c.id < w'.fresh)
    (hconn : ∀ c, Event.connect c none ∈ t → f0 ≤ c.id)
    (hexec : ∀ cur sql r, Event.execute cur sql r ∈ t →
      Event.connect cur.conn none ∈ w'.trace.drop t0.length)
    (hc : Coherent w') : Sound t0 f0 w' where
  toCoherent := hc
  trace_from := by
    obtain ⟨u, hu⟩ := h.trace_from
    exact ⟨u ++ t, by rw [ht, ← hu, List.append_assoc]⟩
  fresh_le := Nat.le_trans h.fresh_le hf
  connect_lt c r hm := by
    rw [ht, List.mem_append] at hm
    exact hm.elim (fun hm => Nat.lt_of_lt_of_le (h.connect_lt c r hm) hf) (hlt c r)
  connect_ge c hm := by
    rw [ht, mem_drop_append_iff h.len_le] at hm
    exact hm.elim (h.connect_ge c) (hconn c)
  execute_opened cur sql r hm := by
    rw [ht, mem_drop_append_iff h.len_le] at hm
    exact hm.elim (fun hm => ht ▸ mem_drop_append h.len_le (h.execute_opened cur sql r hm))
      (hexec cur sql r)

/-- The same events, with the fields checked anew. -/
theorem Sound.recohere {w w' : World} (h : Sound t0 f0 w) (ht : w'.trace = w.trace)
    (hf : w'.fresh = w.fresh) (hc : Coherent w') : Sound t0 f0 w' :=
  h.extend t0 f0 [] (by simp [ht]) hf.ge (by simp) (by simp) (by simp) hc

theorem Sound.stable : Stable (Sound t0 f0) := by
  intro w w' e h he ht hf hd hc ho
  refine h.extend t0 f0 [e] ht hf.ge (fun c r hm => ?_) (fun c hm => ?_) (fun cur sql r hm => ?_)
    ⟨?_, ?_⟩
  · exact absurd (List.mem_singleton.1 hm).symm (he.1 c r)
  · exact absurd (List.mem_singleton.1 hm).symm (he.1 c none)
  · exact absurd (List.mem_singleton.1 hm).symm (he.2 cur sql r)
  · rw [hc, hd]; exact h.cursor_db
  · rw [hd, ho]; exact h.db_open

theorem Live.stable : Stable (Live t0 f0) := by
  intro w w' e h he ht hf hd hc ho
  refine ⟨Sound.stable t0 f0 w w' e h.1 he ht hf hd hc ho, fun cur hcur => ?_⟩
  rw [ht]; exact mem_drop_append h.1.len_le (h.2 cur (hc ▸ hcur))

theorem Live.of_none {w : World} (h : Sound t0 f0 w) (hc : w.cursor = none) : Live t0 f0 w :=
  ⟨h, by simp [hc]⟩

/-- A state is sound for a call that starts in it. -/
theorem Sound.restart {w : World} (h : Sound t0 f0 w) : Sound w.trace w.fresh w where
  toCoherent := h.toCoherent
  trace_from := List.prefix_refl _
  fresh_le := le_rfl
  connect_lt := h.connect_lt
  connect_ge _ hm := by simp at hm
  execute_opened _ _ _ hm := by simp at hm

end Invariant

theorem sound_init : Sound [] 0 World.init :=
  ⟨⟨by simp [World.init], by simp [World.init]⟩, List.nil_prefix, le_rfl, by simp [World.init],
    by simp [World.init], by simp [World.init]⟩

end ScalyrAgent.Postgres
