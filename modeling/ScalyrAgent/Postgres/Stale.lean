import ScalyrAgent.Postgres.Cycle

/-!
# A cursor left behind

When a call raises past the final `close`, `_cursor` stays set, and the next call's `reconnect`
first closes that cursor.  If the close raises, `close` raises before it resets anything, the
`except Exception` clause of `gather_sample` swallows it, and the call ends with the fields as
they were and no sample.  Nothing else in the cycle changes the fields, so every later call does
the same: `run_refused` is that over any number of calls, and `staleCursor_emits_nothing` a
healthy server that is never sampled because of it.
-/

namespace ScalyrAgent.Postgres

/-- `cursor.close()` raises an `Exception` on every cursor. -/
def RefusesCursorClose (d : Driver) : Prop :=
  ∀ t cur, ∃ e, d.closeCursor t cur = .error e ∧ e.isException = true

section Refused

variable {d : Driver} (hd : RefusesCursorClose d) {I : World → Prop} (hI : Quiet I)
  (cur : Cursor)
include hd hI

theorem closeCursor_refused (hc : ∀ w, I w → w.cursor = some cur) :
    Triple I (closeCursor d) (fun _ _ => False) (fun e w => I w ∧ e.isException = true) := by
  refine Triple.bind (show Triple _ get (fun s w => I w ∧ s.cursor = some cur) _ from
    Triple.get' fun w h => ⟨h, hc w h⟩) fun s => Triple.and_fact fun hs => ?_
  rw [hs]
  refine Triple.conseq driverCall_triple (fun w hw => ⟨fun a ha => ?_, fun e he => ?_⟩)
    (fun _ _ h => h) (fun _ _ h => h)
  · obtain ⟨e, he, -⟩ := hd w.tick cur
    exact absurd (ha.symm.trans he) (by simp)
  · obtain ⟨e', he', hx⟩ := hd w.tick cur
    obtain rfl : e = e' := by simpa [he'] using he.symm
    exact ⟨hI w _ [_] hw (by simp [Plain, Silent, Event.lostOn]) rfl rfl rfl, hx⟩

/-- `reconnect` raises from the close of the cursor, before anything is reset. -/
theorem reconnect_refused {p : DbParams} (hc : ∀ w, I w → w.cursor = some cur) :
    Triple I (reconnect d p) (fun _ _ => False) (fun e w => I w ∧ e.isException = true) :=
  Triple.bind (Triple.bind (closeCursor_refused hd hI cur hc) fun _ => Triple.of_false) fun _ =>
    Triple.of_false

/-- `gather_sample` logs the exception of the close and returns, the fields as they were. -/
theorem gatherSample_refused (p : DbParams) (hc : ∀ w, I w → w.cursor = some cur) :
    Triple I (gatherSample d p) (fun _ => I) (fun _ _ => False) := by
  have hrec : Triple I (reconnectOrWarn d p) (fun b w => I w ∧ b = false) (fun _ _ => False) :=
    Triple.tryCatch (Triple.bind (reconnect_refused hd hI cur hc) fun _ => Triple.of_false)
      fun _ => Triple.and_fact fun hx => Triple.ite'
        (fun _ => Triple.bind (record_quiet hI (by simp [Plain, Silent, Event.lostOn])) fun _ =>
          Triple.pure' fun _ h => ⟨h, rfl⟩)
        fun hne => absurd hx hne
  exact Triple.bind hrec fun _ => Triple.and_fact fun hb => by
    subst hb
    exact Triple.ite' (fun h => absurd h (by simp)) fun _ => Triple.pure' fun _ h => h

end Refused

/-- `statsServer fullRow`, except that `cursor.close()` raises `InterfaceError`, as for a
cursor whose connection has gone. -/
def staleCursorServer : Driver :=
  { statsServer fullRow with
    closeCursor := fun _ _ => .error (.pg "InterfaceError" "connection is closed") }

theorem staleCursorServer_refuses : RefusesCursorClose staleCursorServer :=
  fun _ _ => ⟨_, rfl, rfl⟩

/-- The call against `noStatsRow` leaves the cursor of connection `0` behind. -/
theorem noStatsRow_cursor :
    (run exampleParams [noStatsRow] World.init).cursor = some ⟨⟨0⟩⟩ := by
  decide

/-- Once `_cursor` is set, any number of calls whose driver refuses `cursor.close()` emit
nothing and leave both fields as they were. -/
theorem run_refused (p : DbParams) : ∀ (ds : List Driver) (w : World),
    (∀ d ∈ ds, RefusesCursorClose d) → w.cursor ≠ none →
    (run p ds w).db = w.db ∧ (run p ds w).cursor = w.cursor ∧
      ∃ seg, (run p ds w).trace = w.trace ++ seg ∧ emitted seg = []
  | [], w, _, _ => ⟨rfl, rfl, [], by simp [run], rfl⟩
  | d :: ds, w, hds, hw => by
    obtain ⟨cur, hcur⟩ := Option.ne_none_iff_exists'.1 hw
    obtain ⟨hd1, hc1, seg1, ht1, he1, -⟩ := Triple.state (Triple.conseq
      (gatherSample_refused (hds d (List.mem_cons_self _ _))
        (Fields.quiet w.trace [] [] w.db (some cur))
        cur p fun _ h => h.2.1) (fun _ h => h) (fun _ _ h => h) (fun _ _ h => h.elim))
      (show Fields w.trace [] [] w.db (some cur) w from ⟨rfl, hcur, Emits.start w⟩)
    obtain ⟨hd2, hc2, seg2, ht2, he2⟩ := run_refused p ds _
      (fun d hd => hds d (List.mem_cons_of_mem _ hd)) (by rw [hc1]; simp)
    refine ⟨hd2.trans hd1, hc2.trans (hc1.trans hcur.symm), seg1 ++ seg2, ?_,
      by simp [he1, he2]⟩
    rw [run, ht2, ht1, List.append_assoc]

theorem run_refused_twice :
    (∀ d ∈ [staleCursorServer, staleCursorServer], RefusesCursorClose d) ∧
      (run exampleParams [noStatsRow] World.init).cursor ≠ none ∧
      (run exampleParams [staleCursorServer, staleCursorServer]
          (run exampleParams [noStatsRow] World.init)).db =
        (run exampleParams [noStatsRow] World.init).db ∧
      (run exampleParams [staleCursorServer, staleCursorServer]
          (run exampleParams [noStatsRow] World.init)).cursor =
        (run exampleParams [noStatsRow] World.init).cursor ∧
      ∃ seg, (run exampleParams [staleCursorServer, staleCursorServer]
          (run exampleParams [noStatsRow] World.init)).trace =
        (run exampleParams [noStatsRow] World.init).trace ++ seg ∧ emitted seg = [] := by
  have hds : ∀ d ∈ [staleCursorServer, staleCursorServer], RefusesCursorClose d := by
    simp only [List.forall_mem_cons]
    exact ⟨staleCursorServer_refuses, staleCursorServer_refuses, fun _ h => nomatch h⟩
  have hc : (run exampleParams [noStatsRow] World.init).cursor ≠ none := by
    rw [noStatsRow_cursor]; exact Option.some_ne_none _
  exact ⟨hds, hc, run_refused exampleParams _ _ hds hc⟩

/-- After a call against `noStatsRow` raised past the final `close`, a call against
`staleCursorServer`, which answers every statement with a row without `NULL`, emits nothing. -/
theorem staleCursor_emits_nothing :
    (run exampleParams [noStatsRow] World.init).cursor = some ⟨⟨0⟩⟩ ∧
    ∃ seg, (run exampleParams [noStatsRow, staleCursorServer] World.init).trace =
      (run exampleParams [noStatsRow] World.init).trace ++ seg ∧ emitted seg = [] := by
  obtain ⟨-, -, seg, ht, he, -⟩ := Triple.state (Triple.conseq
    (gatherSample_refused staleCursorServer_refuses (Fields.quiet _ [] [] _ (some ⟨⟨0⟩⟩)) ⟨⟨0⟩⟩
      exampleParams fun _ h => h.2.1)
    (fun _ h => h) (fun _ _ h => h) (fun _ _ h => h.elim))
    (show Fields _ [] [] _ _ (run exampleParams [noStatsRow] World.init) from
      ⟨rfl, noStatsRow_cursor, Emits.start _⟩)
  exact ⟨noStatsRow_cursor, seg, ht, he⟩

end ScalyrAgent.Postgres
