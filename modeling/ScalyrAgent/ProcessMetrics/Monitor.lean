import Mathlib.Data.List.Forall2
import Mathlib.Data.Nat.Digits
import ScalyrAgent.ProcessMetrics.Metrics
import ScalyrAgent.ProcessMetrics.Matcher

/-!
# `ProcessMonitor`

`gather_sample` selects the target process, then walks `METRICS`: for each entry it reads the
value from the process, takes the entry's `extra_fields` dict, sets its key `app` to the
instance's id, and emits.  A `NoSuchProcess` anywhere in the call clears `__process` and ends
the call; every other exception passes through.

The dict `extra_fields` is the one the table holds, not a copy: `extra_fields["app"] = self.__id`
writes into the module's dict object.  `Done` says what a walk through some entries leaves: the
dicts of those entries with `app` set (`appHeap`), and one sample for each, carrying the entry's
dict as it was with `app` set (`sampleExtra`).  `Reads` says the value of each of those samples
is the one `gather_metric` read from the process at the tick of its own read (`ValueOf`): the
first read comes at the tick the call starts at, and each read moves the tick on by its calls
into the system (`GatherMetric.calls`, `callsOf`).

`pyInt` is `int()` of the configured pid as CPython 2.7 reads a `str`: `pyInt_decimal` says it
reads a decimal number with blanks around it and between an optional minus sign and the digits,
and `pyInt_trailing` that anything else after the digits is refused.

* `gatherMetric_spec`: a read at tick `t` returns the value of `p` at `t` or raises what
  `RaisesAt` says.
* `emitMetrics_spec`: the loop, given what each read may raise, goes through every entry or
  raises at the read of one entry, after those before it.
* `gatherSample_target`: a call that finds its process, in each of its three outcomes.
* `gatherSample_live`: against a live process the call returns and goes through every entry.
* `gatherSample_prefix`: every call, however it ends, has gone through a prefix of `METRICS`.
-/

namespace ScalyrAgent.ProcessMetrics

/-! ## `_select_target_process` and `gather_sample` -/

/-- `isspace` in the C locale: the characters `int()` skips around the digits. -/
def isCSpace (c : Char) : Bool :=
  c == ' ' || c == '\t' || c == '\n' || c == '\x0b' || c == '\x0c' || c == '\r'

/-- The sign `PyOS_strtol` reads, `true` for `-`, and what follows it. -/
def takeSign : List Char → Bool × List Char
  | '-' :: cs => (true, cs)
  | '+' :: cs => (false, cs)
  | cs => (false, cs)

/-- The digit `n < 16` as `%02x` writes it. -/
def hexDigit (n : Nat) : Char := if n < 10 then Char.ofNat (48 + n) else Char.ofNat (87 + n)

/-- `repr` of a Python 2 `str` of the bytes `bs` (`PyString_Repr`): in single quotes, or in
double quotes when the bytes hold a single quote and no double quote; the quote, the backslash,
tab, newline and carriage return escaped, and every other byte outside printable ASCII as
`\xhh`. -/
def strRepr (bs : List UInt8) : String :=
  let quote : UInt8 := if 39 ∈ bs ∧ 34 ∉ bs then 34 else 39
  let escape (b : UInt8) : List Char :=
    if b = quote ∨ b = 92 then ['\\', Char.ofNat b.toNat]
    else if b = 9 then ['\\', 't']
    else if b = 10 then ['\\', 'n']
    else if b = 13 then ['\\', 'r']
    else if b < 32 ∨ 127 ≤ b then ['\\', 'x', hexDigit (b.toNat / 16), hexDigit (b.toNat % 16)]
    else [Char.ofNat b.toNat]
  String.mk (Char.ofNat quote.toNat :: bs.flatMap escape ++ [Char.ofNat quote.toNat])

/-- The number the decimal digits `ds` write after the digits of `a`, as `PyOS_strtoul`
accumulates it. -/
def digitsValue (ds : List Char) (a : Nat) : Nat :=
  ds.foldl (fun n c => 10 * n + (c.toNat - '0'.toNat)) a

/-- `int(pid)` of a configured pid, a `str` since the option converts it, as `PyInt_FromString`
reads it in base 10: blanks, an optional sign, blanks, the digits, and blanks to the end.  Any
other character after the digits, an `L` included, is refused before a value out of the range of
a C `long` is handed to `PyLong_FromString`, which gives the same number.  The message quotes the
`repr` of at most 200 bytes of the string from its first non-blank.  A `NUL` ends the C string,
and a string that parses up to it but goes on after it is refused. -/
def pyInt (s : String) : Except PyExc Int :=
  let cs := s.data.takeWhile (· ≠ '\x00')
  let stripped := cs.dropWhile isCSpace
  let (neg, rest) := takeSign stripped
  let rest := rest.dropWhile isCSpace
  let digits := rest.takeWhile Char.isDigit
  let n := digitsValue digits 0
  if digits = [] ∨ (rest.drop digits.length).dropWhile isCSpace ≠ [] then
    .error (.other "ValueError" ("invalid literal for int() with base 10: " ++
      strRepr ((stripped.flatMap String.utf8EncodeChar).take 200)))
  else if cs.length ≠ s.length then .error (.other "ValueError" "null byte in argument for int()")
  else .ok (if neg then -n else n)

/-! ### What `int()` accepts -/

theorem isCSpace_plain {c : Char} (h : isCSpace c) : c.isDigit = false ∧ c ≠ '\x00' := by
  simp only [isCSpace, Bool.or_eq_true, beq_iff_eq] at h
  rcases h with (((((rfl | rfl) | rfl) | rfl) | rfl) | rfl) <;> decide

theorem isDigit_plain {c : Char} (h : c.isDigit) :
    isCSpace c = false ∧ c ≠ '\x00' ∧ c ≠ '-' ∧ c ≠ '+' := by
  refine ⟨Bool.eq_false_iff.2 fun hs => by simp [(isCSpace_plain hs).1] at h, ?_, ?_, ?_⟩ <;>
    rintro rfl <;> exact absurd h (by decide)

theorem takeSign_digit {d : Char} (h : d.isDigit) (l : List Char) :
    takeSign (d :: l) = (false, d :: l) := by
  obtain ⟨-, -, hm, hp⟩ := isDigit_plain h
  unfold takeSign
  split <;> simp_all

theorem dropWhile_blanks {b : List Char} (hb : ∀ c ∈ b, isCSpace c) (l : List Char) :
    (b ++ l).dropWhile isCSpace = l.dropWhile isCSpace := by
  induction b with
  | nil => rfl
  | cons c b ih =>
    rw [List.cons_append, List.dropWhile_cons_of_pos (hb c (List.mem_cons_self _ _))]
    exact ih fun c h => hb c (List.mem_cons_of_mem _ h)

/-- Past the leading blanks, `takeSign` reads the optional minus sign and leaves the blanks
after it in front of the digits. -/
theorem takeSign_blanks (neg : Bool) {b b' : List Char} (hb : ∀ c ∈ b, isCSpace c)
    (hb' : ∀ c ∈ b', isCSpace c) {d : Char} (hd : d.isDigit) (r : List Char) :
    ∃ X, takeSign ((b ++ (if neg then '-' :: b' else []) ++ d :: r).dropWhile isCSpace) =
      (neg, X) ∧ X.dropWhile isCSpace = d :: r := by
  have hrest : (d :: r).dropWhile isCSpace = d :: r :=
    List.dropWhile_cons_of_neg (by simp [(isDigit_plain hd).1])
  cases neg
  · exact ⟨_, by rw [if_neg Bool.false_ne_true, List.append_nil, dropWhile_blanks hb, hrest,
      takeSign_digit hd], hrest⟩
  · refine ⟨b' ++ d :: r, ?_, by rw [dropWhile_blanks hb', hrest]⟩
    rw [if_pos rfl, List.append_assoc, dropWhile_blanks hb, List.cons_append,
      List.dropWhile_cons_of_neg (by decide)]
    rfl

/-- The two branches of `pyInt` past the digits, for a string without `NUL`: after blanks, the
sign and blanks, the digits `ds` and what follows them decide. -/
theorem pyInt_after_digits {s : String} {neg : Bool} {X ds tail : List Char}
    (hnul : ∀ c ∈ s.data, c ≠ '\x00') (hsign : takeSign (s.data.dropWhile isCSpace) = (neg, X))
    (hX : X.dropWhile isCSpace = ds ++ tail) (hds : ∀ c ∈ ds, c.isDigit)
    (htail : tail.takeWhile Char.isDigit = []) :
    pyInt s = if ds = [] ∨ tail.dropWhile isCSpace ≠ [] then
      .error (.other "ValueError" ("invalid literal for int() with base 10: " ++
        strRepr (((s.data.dropWhile isCSpace).flatMap String.utf8EncodeChar).take 200)))
      else .ok (if neg then -(digitsValue ds 0 : Int) else digitsValue ds 0) := by
  have hcs : s.data.takeWhile (· ≠ '\x00') = s.data :=
    List.takeWhile_eq_self_iff.2 fun c h => decide_eq_true (hnul c h)
  have hdigits : (ds ++ tail).takeWhile Char.isDigit = ds := by
    rw [List.takeWhile_append_of_pos hds, htail, List.append_nil]
  simp only [pyInt, hcs, hsign, hX, hdigits, List.drop_left, String.length, ne_eq,
    not_true_eq_false, ↓reduceIte]

/-- `Nat.digitChar` writes a number below ten as its ASCII digit. -/
theorem digitChar_value : ∀ k < 10,
    (Nat.digitChar k).toNat - '0'.toNat = k ∧ (Nat.digitChar k).isDigit := by
  decide

/-- `toDigitsCore` with enough fuel writes `n` in front of `ds`, most significant digit first. -/
theorem toDigitsCore_ten : ∀ (fuel n : Nat) (ds : List Char), n < fuel →
    digitsValue (Nat.toDigitsCore 10 fuel n ds) 0 = digitsValue ds n ∧
      ∃ d l, Nat.toDigitsCore 10 fuel n ds = d :: l ∧ ∀ c ∈ d :: l, c ∈ ds ∨ c.isDigit
  | 0, _, _, h => absurd h (Nat.not_lt_zero _)
  | fuel + 1, n, ds, h => by
    have hd := digitChar_value (n % 10) (Nat.mod_lt n (by decide))
    have hstep : digitsValue (Nat.digitChar (n % 10) :: ds) (n / 10) = digitsValue ds n := by
      simp only [digitsValue, List.foldl_cons, hd.1]
      congr 1
      omega
    have hmem : ∀ c ∈ Nat.digitChar (n % 10) :: ds, c ∈ ds ∨ c.isDigit := fun c h =>
      (List.mem_cons.1 h).elim (fun h => .inr (h ▸ hd.2)) .inl
    simp only [Nat.toDigitsCore]
    split
    · rename_i h0
      exact ⟨by rw [← hstep, h0], _, _, rfl, hmem⟩
    · obtain ⟨hv, d, l, he, hc⟩ := toDigitsCore_ten fuel (n / 10) _ (by omega)
      exact ⟨hv.trans hstep, d, l, he, fun c h => (hc c h).elim (hmem c) .inr⟩

/-- `toString n` is a nonempty string of decimal digits that reads back as `n`. -/
theorem toString_digits (n : Nat) :
    ∃ d l, (toString n).data = d :: l ∧ (∀ c ∈ d :: l, c.isDigit) ∧ digitsValue (d :: l) 0 = n := by
  obtain ⟨hv, d, l, he, hc⟩ := toDigitsCore_ten (n + 1) n [] (Nat.lt_succ_self n)
  exact ⟨d, l, he, fun c h => (hc c h).resolve_left (List.not_mem_nil _), he ▸ hv⟩

/-- `int()` reads a number written in decimal, with blanks before and after it and between an
optional minus sign and the digits. -/
theorem pyInt_decimal (n : Nat) (neg : Bool) {b b' b'' : List Char} (hb : ∀ c ∈ b, isCSpace c)
    (hb' : ∀ c ∈ b', isCSpace c) (hb'' : ∀ c ∈ b'', isCSpace c) :
    pyInt ⟨b ++ (if neg then '-' :: b' else []) ++ (toString n).data ++ b''⟩ =
      .ok (if neg then -n else n) := by
  obtain ⟨d, l, hs, hdig, hv⟩ := toString_digits n
  obtain ⟨X, hX, hXd⟩ := takeSign_blanks neg hb hb' (hdig d (List.mem_cons_self _ _)) (l ++ b'')
  have hblank : ∀ c, isCSpace c → c ≠ '\x00' := fun c h => (isCSpace_plain h).2
  have hnul : ∀ c ∈ b ++ (if neg then '-' :: b' else []) ++ (d :: l ++ b''), c ≠ '\x00' := by
    simp only [List.forall_mem_append]
    refine ⟨⟨fun c h => hblank c (hb c h), ?_⟩, fun c h => (isDigit_plain (hdig c h)).2.1,
      fun c h => hblank c (hb'' c h)⟩
    cases neg
    · simp
    · exact List.forall_mem_cons.2 ⟨by decide, fun c h => hblank c (hb' c h)⟩
  have htail : b''.takeWhile Char.isDigit = [] := by
    cases b'' with
    | nil => rfl
    | cons c b'' =>
      exact List.takeWhile_cons_of_neg (by simp [(isCSpace_plain (hb'' c (List.mem_cons_self _ _))).1])
  rw [hs, List.append_assoc, pyInt_after_digits hnul hX hXd hdig htail,
    List.dropWhile_eq_nil_iff.2 hb'', hv]
  simp

example : (pyInt " - 42 ").toOption = some (-42) := by decide

/-- Anything but blanks after the digits is refused, an `L` included, and the message quotes the
`repr` of the string. -/
theorem pyInt_trailing (n : Nat) {c : Char} {r : List Char} (hc : c.isDigit = false)
    (hcb : isCSpace c = false) (hnul : ∀ c' ∈ c :: r, c' ≠ '\x00') :
    pyInt ⟨(toString n).data ++ c :: r⟩ = .error (.other "ValueError"
      ("invalid literal for int() with base 10: " ++
        strRepr ((((toString n).data ++ c :: r).flatMap String.utf8EncodeChar).take 200))) := by
  obtain ⟨d, l, hs, hdig, -⟩ := toString_digits n
  have hd := hdig d (List.mem_cons_self _ _)
  have hnone : ∀ c ∈ ([] : List Char), isCSpace c := fun _ h => nomatch h
  obtain ⟨X, hX, hXd⟩ := takeSign_blanks false hnone hnone hd (l ++ c :: r)
  have hall : ∀ c' ∈ d :: l ++ c :: r, c' ≠ '\x00' := fun c' h =>
    (List.mem_append.1 h).elim (fun h => (isDigit_plain (hdig c' h)).2.1) (hnul c')
  rw [hs, pyInt_after_digits hall hX hXd hdig (List.takeWhile_cons_of_neg (by simp [hc])),
    if_pos (.inr (by rw [List.dropWhile_cons_of_neg (by simp [hcb])]; exact List.cons_ne_nil _ _)),
    List.cons_append, List.dropWhile_cons_of_neg (by simp [(isDigit_plain hd).1])]

example : pyInt "5L" = .error (.other "ValueError" "invalid literal for int() with base 10: '5L'") :=
  rfl

/-- The process `_select_target_process` finds: by the command-line pattern when one is
configured, else by the pid (`$$` for the agent's own), else none. -/
def targetOf (cfg : Config) (sys : System) : Except PyExc (Option Process) :=
  match cfg.commandline, cfg.pid with
  | some regex, _ => commandlineMatcher sys.search regex sys.processIter
  | none, some pid =>
    if "$$" = pid then (sys.process sys.getpid).map some
    else do
      let n ← pyInt pid
      (sys.process n).map some
  | none, none => .ok none

/-- `_select_target_process`. -/
def selectTargetProcess (cfg : Config) (sys : System) : PM Unit := do
  let process ← liftExcept (targetOf cfg sys)
  setProcess process

/-- `extra_fields = metric.config["extra_fields"]`, `{}` in place of `None`, then
`extra_fields["app"] = self.__id`: the dict the sample carries. -/
def appExtraFields (id : String) : Option Nat → PM (PyDict String)
  | some r => do
    setItem r "app" id
    readDict r
  | none => pure (PyDict.set [] "app" id)

/-- The loop of `gather_sample` over the entries `ms` of `METRICS`. -/
def emitMetrics (sys : System) (id : String) : List Metric → PM Unit
  | [] => pure ()
  | metric :: rest => do
    match (← get).process with
    | none => pure ()
    | some p =>
      let metricValue ← gatherMetric sys metric.dispatch p
      let extraFields ← appExtraFields id metric.extraFields
      emitValue metric.metricName metricValue extraFields
      emitMetrics sys id rest

/-- `ProcessMonitor.gather_sample`. -/
def gatherSample (cfg : Config) (sys : System) : PM Unit :=
  tryCatch (do
      selectTargetProcess cfg sys
      emitMetrics sys cfg.id metrics)
    fun e => if e = .noSuchProcess then setProcess none else throw e

/-! ## Specifications of the primitives -/

/-- `I` does not read the tick. -/
def Untimed (I : PWorld → Prop) : Prop := ∀ w t, I w → I { w with tick := t }

theorem liftExcept_triple {α : Type} {P : PWorld → Prop} (x : Except PyExc α) :
    Triple P (liftExcept x) (fun a w => P w ∧ x = .ok a) (fun e w => P w ∧ x = .error e) := by
  cases x <;> exact fun _ hw => ⟨hw, rfl⟩

section Untimed

variable {I : PWorld → Prop} (hI : Untimed I)
include hI

/-- `process.method()` at tick `t`: the answer of `p` at `t`, and the tick moves on. -/
theorem processCall_at (p : Process) (m : Method) (t : Nat) :
    Triple (fun w => I w ∧ w.tick = t) (processCall p m)
      (fun r w => (I w ∧ w.tick = t + 1) ∧ p.call t m = .ok r)
      (fun e w => I w ∧ p.call t m = .error e) := by
  rintro w ⟨hw, rfl⟩
  show EStateM.Result.Holds _ _ (processCall p m w)
  unfold processCall
  cases h : p.call w.tick m with
  | ok r => exact ⟨⟨hI w _ hw, rfl⟩, rfl⟩
  | error e => exact ⟨hI w _ hw, rfl⟩

theorem timeTime_at (sys : System) (t : Nat) {E : PyExc → PWorld → Prop} :
    Triple (fun w => I w ∧ w.tick = t) (timeTime sys)
      (fun n w => (I w ∧ w.tick = t + 1) ∧ sys.time t = n) E := by
  rintro w ⟨hw, rfl⟩
  exact ⟨⟨hI w _ hw, rfl⟩, rfl⟩

/-- `gather_metric` calling the method at tick `t` changes nothing but the tick: it returns the
value of `p` read at `t` after `calls` calls into the system, or raises what the read raises. -/
theorem gatherMetric_spec (sys : System) (g : GatherMetric) (p : Process) (t : Nat) :
    Triple (fun w => I w ∧ w.tick = t) (gatherMetric sys g p)
      (fun v w => (I w ∧ w.tick = t + g.calls) ∧ ValueOf sys p g t v)
      (fun e w => I w ∧ RaisesAt sys p g t e) := by
  obtain ⟨method, attr, transform⟩ := g
  refine Triple.bind (Triple.conseq (processCall_at hI p method t) (fun _ h => h)
    (fun _ _ h => h) (fun _ _ ⟨h, he⟩ => ⟨h, .inl he⟩)) fun r => Triple.and_fact fun hr =>
    Triple.bind (Triple.conseq (liftExcept_triple _) (fun _ h => h) (fun _ _ h => h)
      (fun _ _ ⟨h, he⟩ => ⟨h.1, .inr ⟨r, hr, .inl he⟩⟩)) fun v0 => Triple.and_fact fun hv0 => ?_
  rcases transform with _ | ⟨⟩
  · exact Triple.pure' fun _ h => ⟨h, r, v0, hr, hv0, rfl⟩
  · exact Triple.bind (timeTime_at hI sys (t + 1)) fun _ => Triple.and_fact fun hnow => by
      subst hnow
      exact Triple.conseq (liftExcept_triple _) (fun _ h => h)
        (fun _ _ ⟨h, hv⟩ => ⟨h, r, v0, hr, hv0, hv⟩)
        (fun _ _ ⟨h, he⟩ => ⟨h.1, .inr ⟨r, hr, .inr ⟨v0, hv0, rfl, he⟩⟩⟩)

/-- `gather_metric` changes nothing but the tick, whatever it returns or raises. -/
theorem gatherMetric_keeps (sys : System) (g : GatherMetric) (p : Process) :
    Triple I (gatherMetric sys g p) (fun _ => I) (fun _ => I) :=
  Triple.of_forall fun w0 hw0 => Triple.conseq (gatherMetric_spec hI sys g p w0.tick)
    (fun _ h => by subst h; exact ⟨hw0, rfl⟩) (fun _ _ h => h.1.1) (fun _ _ h => h.1)

/-- `gather_metric` on a process that answers its method with a reply it can read returns. -/
theorem gatherMetric_readable (sys : System) (g : GatherMetric) (p : Process)
    (hg : ∀ t, ∃ r, p.call t g.method = .ok r ∧ readable g r = true) :
    Triple I (gatherMetric sys g p) (fun _ => I) (fun _ _ => False) :=
  Triple.of_forall fun w0 hw0 => Triple.conseq (gatherMetric_spec hI sys g p w0.tick)
    (fun _ h => by subst h; exact ⟨hw0, rfl⟩) (fun _ _ h => h.1.1) fun _ _ ⟨_, he⟩ =>
      let ⟨_, hr, hread⟩ := hg w0.tick
      he.not_readable hr hread

end Untimed

/-! ## The loop over `METRICS` -/

/-- The dicts after `extra_fields["app"] = id` in the dicts of the entries `ms`. -/
def appHeap (id : String) (heap : Heap) (ms : List Metric) : Heap := fun r =>
  if ms.any (·.extraFields == some r) then (heap r).set "app" id else heap r

/-- The extra fields of the sample of an entry whose dict is `ref`, with `heap` the dicts when
the call started. -/
def sampleExtra (id : String) (heap : Heap) : Option Nat → PyDict String
  | some r => (heap r).set "app" id
  | none => PyDict.set [] "app" id

/-- The metric name and the extra fields of a sample. -/
def Sample.keys (s : Sample) : String × PyDict String := (s.1, s.2.2)

/-- The metric names and extra fields of the samples of the entries `ms`. -/
def sampleKeys (id : String) (heap : Heap) (ms : List Metric) : List (String × PyDict String) :=
  ms.map fun m => (m.metricName, sampleExtra id heap m.extraFields)

@[simp] theorem appHeap_nil (id : String) (heap : Heap) : appHeap id heap [] = heap := rfl

theorem appHeap_cons (id : String) (heap : Heap) (m : Metric) (ms : List Metric) :
    appHeap id heap (m :: ms) = appHeap id (appHeap id heap [m]) ms := by
  funext r
  simp only [appHeap, List.any_cons, List.any_nil, Bool.or_false]
  by_cases h1 : (m.extraFields == some r) = true <;>
    by_cases h2 : ms.any (·.extraFields == some r) = true <;>
    simp [h1, h2, PyDict.set_set]

theorem sampleExtra_appHeap (id : String) (heap : Heap) (ms : List Metric) (ref : Option Nat) :
    sampleExtra id (appHeap id heap ms) ref = sampleExtra id heap ref := by
  cases ref with
  | none => rfl
  | some r =>
    simp only [sampleExtra, appHeap]
    split
    · exact PyDict.set_set _ _ _ _
    · rfl

/-- The dicts and samples after the loop went through the entries `ms`, from the dicts `H` and
the samples `T`. -/
def Done (id : String) (H : Heap) (T : List Sample) (ms : List Metric) (w : PWorld) : Prop :=
  w.heap = appHeap id H ms ∧
    ∃ seg, w.trace = T ++ seg ∧ seg.map Sample.keys = sampleKeys id H ms

theorem Done.nil {id : String} {H : Heap} {T : List Sample} {w : PWorld} (hh : w.heap = H)
    (ht : w.trace = T) : Done id H T [] w :=
  ⟨hh, [], by simp [ht], rfl⟩

theorem Done.cons {id : String} {H : Heap} {T : List Sample} {m : Metric} {ms : List Metric}
    {s : Sample} {w : PWorld} (hs : s.keys = (m.metricName, sampleExtra id H m.extraFields))
    (h : Done id (appHeap id H [m]) (T ++ [s]) ms w) : Done id H T (m :: ms) w := by
  obtain ⟨hh, seg, ht, hk⟩ := h
  refine ⟨by rw [hh, ← appHeap_cons], s :: seg, by simp [ht], ?_⟩
  simp only [List.map_cons, hk, hs, sampleKeys, sampleExtra_appHeap]

/-- The calls into the system the reads of the entries `ms` make when they return. -/
def callsOf : List Metric → Nat
  | [] => 0
  | m :: ms => m.dispatch.calls + callsOf ms

theorem callsOf_take_succ_cons (m : Metric) (ms : List Metric) (k : Nat) :
    callsOf ((m :: ms).take (k + 1)) = m.dispatch.calls + callsOf (ms.take k) := by
  simp [callsOf]

/-- `__process = p`, the dicts `H` and the samples `T`: what the loop reads and writes. -/
def Frame (p : Process) (H : Heap) (T : List Sample) (w : PWorld) : Prop :=
  w.process = some p ∧ w.heap = H ∧ w.trace = T

theorem Frame.untimed (p : Process) (H : Heap) (T : List Sample) : Untimed (Frame p H T) :=
  fun _ _ h => h

theorem Frame.done {p : Process} {id : String} {H : Heap} {T : List Sample} {w : PWorld}
    (h : Frame p H T w) : Done id H T [] w :=
  Done.nil h.2.1 h.2.2

/-- The samples after `T` carry, entry by entry of `ms`, the value read from `p`, the first
entry's method called at tick `t`. -/
def Reads (sys : System) (p : Process) (t : Nat) (T : List Sample) (ms : List Metric)
    (w : PWorld) : Prop :=
  ∃ seg, w.trace = T ++ seg ∧ ReadFrom sys p t (seg.map (·.2.1)) (ms.map (·.dispatch))

theorem Reads.nil {sys : System} {p : Process} {t : Nat} {T : List Sample} {w : PWorld}
    (ht : w.trace = T) : Reads sys p t T [] w :=
  ⟨[], by simp [ht], trivial⟩

theorem Reads.cons {sys : System} {p : Process} {t : Nat} {T : List Sample} {m : Metric}
    {ms : List Metric} {s : Sample} {w : PWorld} (hs : ValueOf sys p m.dispatch t s.2.1)
    (h : Reads sys p (t + m.dispatch.calls) (T ++ [s]) ms w) : Reads sys p t T (m :: ms) w :=
  let ⟨seg, ht, hf⟩ := h
  ⟨s :: seg, by simp [ht], hs, hf⟩

theorem readDict_spec {P : PWorld → Prop} {E : PyExc → PWorld → Prop} (r : Nat) :
    Triple P (readDict r) (fun d w => P w ∧ d = w.heap r) E :=
  Triple.bind
    (show Triple _ get (fun s w => P w ∧ s = w) _ from Triple.get' fun _ h => ⟨h, rfl⟩)
    fun _ => Triple.pure' fun _ ⟨h, hs⟩ => ⟨h, by rw [hs]⟩

theorem appExtraFields_frame (p : Process) (id : String) (H : Heap) (T : List Sample)
    (m : Metric) (t : Nat) :
    Triple (fun w => Frame p H T w ∧ w.tick = t) (appExtraFields id m.extraFields)
      (fun d w => (Frame p (appHeap id H [m]) T w ∧ w.tick = t) ∧
        d = sampleExtra id H m.extraFields)
      (fun _ _ => False) := by
  rcases hr : m.extraFields with _ | r
  · have hH : appHeap id H [m] = H := funext fun r' => by simp [appHeap, hr]
    exact Triple.pure' fun _ h => ⟨by rw [hH]; exact h, rfl⟩
  · have hH : appHeap id H [m] = Function.update H r ((H r).set "app" id) := funext fun r' => by
      by_cases hr' : r' = r
      · subst hr'; simp [appHeap, hr]
      · simp [appHeap, hr, Function.update_noteq hr', Ne.symm hr']
    refine Triple.bind (show Triple _ (setItem r "app" id)
        (fun _ w => Frame p (appHeap id H [m]) T w ∧ w.tick = t) _
      from Triple.modify' fun _ ⟨⟨hp, hh, ht⟩, htick⟩ => ⟨⟨hp, by rw [hH, hh], ht⟩, htick⟩)
      fun _ => ?_
    exact Triple.conseq (readDict_spec r) (fun _ h => h) (fun _ _ ⟨h, hd⟩ =>
      ⟨h, by rw [hd, h.1.2.1, hH, Function.update_same]; rfl⟩) fun _ _ h => h

section Loop

variable (sys : System) (id : String) (p : Process) {R : Metric → Nat → PyExc → Prop}

/-- The loop from `__process = p` at tick `t`: when it returns it went through every entry, and
when it raises, through the entries before the `k`-th, whose read raised.  `R m t` is what the
read of `m` at tick `t` may raise. -/
theorem emitMetrics_spec : ∀ (ms : List Metric) (H : Heap) (T : List Sample) (t : Nat),
    (∀ m ∈ ms, ∀ H T t, Triple (fun w => Frame p H T w ∧ w.tick = t)
      (gatherMetric sys m.dispatch p)
      (fun v w => (Frame p H T w ∧ w.tick = t + m.dispatch.calls) ∧ ValueOf sys p m.dispatch t v)
      (fun e w => Frame p H T w ∧ R m t e)) →
    Triple (fun w => Frame p H T w ∧ w.tick = t) (emitMetrics sys id ms)
      (fun _ w => w.process = some p ∧ Done id H T ms w ∧ Reads sys p t T ms w)
      (fun e w => w.process = some p ∧ ∃ k m, ms[k]? = some m ∧ R m (t + callsOf (ms.take k)) e ∧
        Done id H T (ms.take k) w ∧ Reads sys p t T (ms.take k) w)
  | [], H, T, t, _ => Triple.pure' fun _ h => ⟨h.1.1, h.1.done, Reads.nil h.1.2.2⟩
  | m :: ms, H, T, t, hread => by
    have hrest := emitMetrics_spec ms (appHeap id H [m])
    refine Triple.bind (show Triple _ get
        (fun s w => (Frame p H T w ∧ w.tick = t) ∧ s.process = some p) _ from
      Triple.get' fun _ h => ⟨h, h.1.1⟩) fun s => Triple.and_fact fun hs => ?_
    simp only [hs]
    refine Triple.bind (Triple.conseq (hread m (List.mem_cons_self _ _) H T t) (fun _ h => h)
      (fun _ _ h => h) fun _ _ ⟨h, he⟩ =>
        ⟨h.1, 0, m, by simp, by simpa [callsOf] using he, h.done, Reads.nil h.2.2⟩)
      fun v => Triple.and_fact fun hv =>
      Triple.bind (Triple.conseq (appExtraFields_frame p id H T m _) (fun _ h => h)
        (fun _ _ h => h) (fun _ _ h => h.elim)) fun d => Triple.and_fact fun hd => ?_
    have hs : Sample.keys (m.metricName, v, d) =
        (m.metricName, sampleExtra id H m.extraFields) := by
      rw [hd]; rfl
    refine Triple.bind (show Triple _ (emitValue m.metricName v d)
        (fun _ w => Frame p (appHeap id H [m]) (T ++ [(m.metricName, v, d)]) w ∧
          w.tick = t + m.dispatch.calls) _ from
      Triple.modify' fun _ ⟨⟨hp, hh, ht⟩, htick⟩ => ⟨⟨hp, hh, by rw [ht]⟩, htick⟩) fun _ => ?_
    exact Triple.conseq (hrest (T ++ [(m.metricName, v, d)]) _
        fun m' hm' => hread m' (List.mem_cons_of_mem _ hm')) (fun _ h => h)
      (fun _ _ ⟨hp, h, hr⟩ => ⟨hp, Done.cons hs h, Reads.cons hv hr⟩)
      fun _ _ ⟨hp, k, m', hm', he, h, hr⟩ =>
        ⟨hp, k + 1, m', by simpa using hm', by rwa [callsOf_take_succ_cons, ← Nat.add_assoc],
          Done.cons hs h,
          Reads.cons hv hr⟩

end Loop

/-- The loop with no process leaves the state as it is. -/
theorem emitMetrics_none (sys : System) (id : String) (ms : List Metric) (w0 : PWorld)
    (h : w0.process = none) :
    Triple (· = w0) (emitMetrics sys id ms) (fun _ w => w = w0) (fun _ _ => False) := by
  cases ms with
  | nil => exact Triple.pure' fun _ h => h
  | cons m ms =>
    refine Triple.bind (show Triple _ get (fun s w => w = w0 ∧ s.process = none) _ from
      Triple.get' fun _ hw => ⟨hw, hw ▸ h⟩) fun s => Triple.and_fact fun hs => ?_
    simp only [hs]
    exact Triple.pure' fun _ h => h

/-! ## A call -/

theorem selectTargetProcess_spec (cfg : Config) (sys : System) (w0 : PWorld) :
    Triple (· = w0) (selectTargetProcess cfg sys)
      (fun _ w => targetOf cfg sys = .ok w.process ∧ w = { w0 with process := w.process })
      (fun e w => targetOf cfg sys = .error e ∧ w = w0) :=
  Triple.bind (Triple.conseq (liftExcept_triple _) (fun _ h => h) (fun _ _ h => h)
    fun _ _ ⟨h, he⟩ => ⟨he, h⟩) fun _ => Triple.and_fact fun ht =>
      Triple.modify' fun _ h => ⟨ht, by rw [h]⟩

/-- With no process to watch, a call changes `__process` at most. -/
theorem gatherSample_of_none {cfg : Config} {sys : System} (ht : targetOf cfg sys = .ok none)
    (w0 : PWorld) : gatherSample cfg sys w0 = .ok () { w0 with process := none } := by
  simp only [gatherSample, selectTargetProcess, ht]
  rfl

/-- When `_select_target_process` raises, the call clears `__process` on `NoSuchProcess` and
raises every other exception, and changes nothing else. -/
theorem gatherSample_of_error {cfg : Config} {sys : System} {e : PyExc}
    (ht : targetOf cfg sys = .error e) (w0 : PWorld) :
    gatherSample cfg sys w0 =
      if e = .noSuchProcess then .ok () { w0 with process := none } else .error e w0 := by
  simp only [gatherSample, selectTargetProcess, ht]
  show (if e = .noSuchProcess then setProcess none else throw e) w0 = _
  split <;> rfl

/-- When `_select_target_process` finds `p`, the call is the loop from `__process = p`. -/
theorem gatherSample_of_found {cfg : Config} {sys : System} {p : Process}
    (ht : targetOf cfg sys = .ok (some p)) (w0 : PWorld) :
    gatherSample cfg sys w0 =
      tryCatch (emitMetrics sys cfg.id metrics)
        (fun e => if e = .noSuchProcess then setProcess none else throw e)
        { w0 with process := some p } := by
  simp only [gatherSample, selectTargetProcess, ht]
  rfl

/-- The `__process` a call starts with changes nothing the call does, except that when
`_select_target_process` raises an exception other than `NoSuchProcess` the call raises with that
process still in place. -/
theorem gatherSample_fresh (cfg : Config) (sys : System) (w0 : PWorld) (q : Option Process) :
    gatherSample cfg sys { w0 with process := q } =
      match targetOf cfg sys with
      | .error e =>
        if e = .noSuchProcess then gatherSample cfg sys w0 else .error e { w0 with process := q }
      | .ok _ => gatherSample cfg sys w0 := by
  rcases ht : targetOf cfg sys with e | _ | p
  · rw [gatherSample_of_error ht, gatherSample_of_error ht]
    by_cases he : e = .noSuchProcess
    · subst he; rfl
    · simp only [if_neg he]
  · rw [gatherSample_of_none ht, gatherSample_of_none ht]
  · rw [gatherSample_of_found ht, gatherSample_of_found ht]

section Target

variable {cfg : Config} {sys : System} {p : Process} (hp : targetOf cfg sys = .ok (some p))
  (w0 : PWorld)
include hp

/-- The body of the `try`, with `R m t` what the read of `m` at tick `t` can raise. -/
theorem selectAndEmit_spec {R : Metric → Nat → PyExc → Prop}
    (hread : ∀ m ∈ metrics, ∀ H T t, Triple (fun w => Frame p H T w ∧ w.tick = t)
      (gatherMetric sys m.dispatch p)
      (fun v w => (Frame p H T w ∧ w.tick = t + m.dispatch.calls) ∧ ValueOf sys p m.dispatch t v)
      (fun e w => Frame p H T w ∧ R m t e)) :
    Triple (· = w0) (do selectTargetProcess cfg sys; emitMetrics sys cfg.id metrics)
      (fun _ w => w.process = some p ∧ Done cfg.id w0.heap w0.trace metrics w ∧
        Reads sys p w0.tick w0.trace metrics w)
      (fun e w => w.process = some p ∧ ∃ k m, metrics[k]? = some m ∧
        R m (w0.tick + callsOf (metrics.take k)) e ∧
        Done cfg.id w0.heap w0.trace (metrics.take k) w ∧
          Reads sys p w0.tick w0.trace (metrics.take k) w) :=
  Triple.bind (Triple.conseq (selectTargetProcess_spec cfg sys w0) (fun _ h => h)
    (fun _ w ⟨ht, hw⟩ =>
      ⟨⟨(Except.ok.inj (hp.symm.trans ht)).symm, by rw [hw], by rw [hw]⟩, by rw [hw]⟩)
    fun _ _ ⟨ht, _⟩ => by rw [hp] at ht; cases ht) fun _ =>
  emitMetrics_spec sys cfg.id p metrics w0.heap w0.trace w0.tick hread

/-- A call that finds the process `p`: it emits a sample for every entry and keeps `p`; or the
read of the `k`-th entry calls its method at its tick and the method raises `NoSuchProcess`, and
the call clears `__process` after the samples of the entries before it; or that read raises
another exception, which the call raises after the same samples.  Each sample's value was read
at the tick of its own read. -/
theorem gatherSample_target :
    Triple (· = w0) (gatherSample cfg sys)
      (fun _ w => (w.process = some p ∧ Done cfg.id w0.heap w0.trace metrics w ∧
          Reads sys p w0.tick w0.trace metrics w) ∨
        (w.process = none ∧ ∃ k m, metrics[k]? = some m ∧
          p.call (w0.tick + callsOf (metrics.take k)) m.dispatch.method = .error .noSuchProcess ∧
          Done cfg.id w0.heap w0.trace (metrics.take k) w ∧
            Reads sys p w0.tick w0.trace (metrics.take k) w))
      (fun e w => e ≠ .noSuchProcess ∧ w.process = some p ∧ ∃ k m, metrics[k]? = some m ∧
        RaisesAt sys p m.dispatch (w0.tick + callsOf (metrics.take k)) e ∧
        Done cfg.id w0.heap w0.trace (metrics.take k) w ∧
          Reads sys p w0.tick w0.trace (metrics.take k) w) :=
  Triple.tryCatch (Triple.conseq (selectAndEmit_spec hp w0
      (R := fun m t e => RaisesAt sys p m.dispatch t e)
      fun m _ H T t => gatherMetric_spec (Frame.untimed p H T) sys m.dispatch p t)
    (fun _ h => h) (fun _ _ h => .inl h) fun _ _ h => h) fun _ =>
  Triple.ite' (fun he => Triple.modify' fun _ ⟨_, k, m, hm, hr, hk⟩ =>
      .inr ⟨rfl, k, m, hm, (he ▸ hr).noSuchProcess, hk⟩)
    fun he => Triple.throw' fun _ ⟨hp, hk⟩ => ⟨he, hp, hk⟩

/-- A call against a live process returns, keeps the process, emits one sample for every entry
with the value read from the process at the tick of its read, and sets `app` in every dict of
the table. -/
theorem gatherSample_live (hl : Live p) :
    ∃ w, gatherSample cfg sys w0 = .ok () w ∧ w.process = some p ∧
      Done cfg.id w0.heap w0.trace metrics w ∧ Reads sys p w0.tick w0.trace metrics w := by
  obtain ⟨_, w, hw, h⟩ := Triple.ok_of (Triple.tryCatch
    (selectAndEmit_spec hp w0 (R := fun _ _ _ => False) fun m hm H T t =>
      Triple.conseq (gatherMetric_spec (Frame.untimed p H T) sys m.dispatch p t) (fun _ h => h)
        (fun _ _ h => h) fun _ _ ⟨hf, he⟩ =>
          let ⟨_, hr, hread⟩ := hl t m hm
          ⟨hf, he.not_readable hr hread⟩)
    fun _ _ ⟨_, _, _, _, h, _⟩ => h.elim) rfl
  exact ⟨w, hw, h⟩

end Target

/-- Every call, however it ends, has emitted the samples of the first `k` entries of `METRICS`
and set `app` in their dicts, for some `k`. -/
theorem gatherSample_prefix (cfg : Config) (sys : System) (w0 : PWorld) :
    ∃ k, Done cfg.id w0.heap w0.trace (metrics.take k) (gatherSample cfg sys w0).state := by
  rcases ht : targetOf cfg sys with e | _ | p
  · rw [gatherSample_of_error ht]
    exact ⟨0, by split <;> exact Done.nil rfl rfl⟩
  · rw [gatherSample_of_none ht]
    exact ⟨0, Done.nil rfl rfl⟩
  · refine Triple.state (show Triple (· = w0) _ (fun _ w => ∃ k, Done cfg.id w0.heap w0.trace
      (metrics.take k) w) (fun _ w => ∃ k, Done cfg.id w0.heap w0.trace (metrics.take k) w) from
        Triple.conseq (gatherSample_target ht w0) (fun _ h => h) ?_
          fun _ _ ⟨_, _, k, _, _, _, h, _⟩ => ⟨k, h⟩)
      rfl
    rintro _ _ (⟨_, h, _⟩ | ⟨_, k, _, _, _, h, _⟩)
    · exact ⟨metrics.length, by rw [List.take_length]; exact h⟩
    · exact ⟨k, h⟩

/-! ## A process that exits during the call -/

/-- A call that finds the process `p` emits a sample for every entry and keeps `p`; or the read
of the `k`-th entry raises `NoSuchProcess` from its method, called at the tick of that read, and
the call ends with `__process` cleared after the samples of the entries before it; or that read
raises another exception, which the call raises after the samples of the entries before it.  The
value of every sample is the one its entry's method and attribute read from `p` at the tick of
its own read, the first at the tick the call starts at. -/
theorem gatherSample_found {cfg : Config} {sys : System} {p : Process}
    (hp : targetOf cfg sys = .ok (some p)) (w0 : PWorld) :
    (gatherSample cfg sys w0).Holds
      (fun _ w => (w.process = some p ∧ Done cfg.id w0.heap w0.trace metrics w ∧
          Reads sys p w0.tick w0.trace metrics w) ∨
        (w.process = none ∧ ∃ k m, metrics[k]? = some m ∧
          p.call (w0.tick + callsOf (metrics.take k)) m.dispatch.method = .error .noSuchProcess ∧
          Done cfg.id w0.heap w0.trace (metrics.take k) w ∧
            Reads sys p w0.tick w0.trace (metrics.take k) w))
      (fun e w => e ≠ .noSuchProcess ∧ w.process = some p ∧ ∃ k m, metrics[k]? = some m ∧
        RaisesAt sys p m.dispatch (w0.tick + callsOf (metrics.take k)) e ∧
        Done cfg.id w0.heap w0.trace (metrics.take k) w ∧
          Reads sys p w0.tick w0.trace (metrics.take k) w) :=
  gatherSample_target hp w0 w0 rfl

/-- The replies of a process that answers every method with every field the table reads. -/
def replyOf : Method → Reply
  | .cpuTimes => .tuple [("user", 12), ("system", 3)]
  | .createTime => .num 1000
  | .numThreads => .num 24
  | .memoryInfoEx => .tuple [("wset", 1), ("peak_wset", 2), ("paged_pool", 3),
      ("peak_paged_pool", 4), ("nonpaged_pool", 5), ("peak_nonpaged_pool", 6), ("pagefile", 7),
      ("peak_pagefile", 8)]
  | .memoryInfo => .tuple [("rss", 1), ("vms", 9)]
  | .ioCounters => .tuple [("read_count", 1), ("write_count", 2), ("read_bytes", 3),
      ("write_bytes", 4)]

/-- The agent's own process, answering every method. -/
def liveProcess : Process :=
  ⟨1234, .ok "python.exe", .ok ["python.exe"], fun _ m => .ok (replyOf m)⟩

theorem liveProcess_live : Live liveProcess := fun _ m hm =>
  have hread : ∀ m ∈ metrics, readable m.dispatch (replyOf m.dispatch.method) = true := by
    decide
  ⟨_, rfl, hread m hm⟩

/-- A system whose agent process is `liveProcess`, pid 1234. -/
def agentSystem : System where
  processIter := [liveProcess]
  process n := if n = 1234 then .ok liveProcess else .error .noSuchProcess
  getpid := 1234
  time _ := 5000
  search _ _ := false

/-- The configuration `pid: $$` with the id `id`. -/
def agentConfig (id : String) : Config := ⟨none, some "$$", id⟩

/-- The agent's process exiting after its CPU times were read: `create_time()` and every later
call raise `NoSuchProcess`. -/
def exitingProcess : Process :=
  ⟨1234, .ok "python.exe", .ok ["python.exe"], fun _ m =>
    if m = .cpuTimes then .ok (replyOf m) else .error .noSuchProcess⟩

/-- The system of `exitingProcess`. -/
def exitingSystem : System := { agentSystem with process := fun _ => .ok exitingProcess }

theorem gatherSample_found_exiting :
    targetOf (agentConfig "iis") exitingSystem = .ok (some exitingProcess) ∧
      (gatherSample (agentConfig "iis") exitingSystem ⟨none, moduleHeap, 0, []⟩).Holds
        (fun _ w => (w.process = some exitingProcess ∧ Done "iis" moduleHeap [] metrics w ∧
            Reads exitingSystem exitingProcess 0 [] metrics w) ∨
          (w.process = none ∧ ∃ k m, metrics[k]? = some m ∧
            exitingProcess.call (0 + callsOf (metrics.take k)) m.dispatch.method =
              .error .noSuchProcess ∧
            Done "iis" moduleHeap [] (metrics.take k) w ∧
              Reads exitingSystem exitingProcess 0 [] (metrics.take k) w))
        (fun e w => e ≠ .noSuchProcess ∧ w.process = some exitingProcess ∧
          ∃ k m, metrics[k]? = some m ∧
            RaisesAt exitingSystem exitingProcess m.dispatch (0 + callsOf (metrics.take k)) e ∧
            Done "iis" moduleHeap [] (metrics.take k) w ∧
              Reads exitingSystem exitingProcess 0 [] (metrics.take k) w) :=
  ⟨rfl, @gatherSample_found (agentConfig "iis") exitingSystem exitingProcess rfl _⟩

end ScalyrAgent.ProcessMetrics
