import ScalyrAgent.ProcessMetrics.Psutil

/-!
# Finding the target process by its command line

`commandline_matcher(regex)` compiles the pattern and returns `_match_generator`, which walks
the processes `psutil.process_iter()` yields and returns the first whose name, or else whose
space-joined command line, the pattern finds a match in.  The body of the walk sits in a `try`
whose only clause is `except psutil.AccessDenied: continue`.

The pattern is its `search` here (`re.compile(regex, re.IGNORECASE).search`), so the results
hold for every pattern.  `matchOne` is the body of the `try` for one process: the `or` of the
source calls `cmdline()` only when the name does not match.

`matchGenerator_spec` says what the walk returns.  Each process is one of three kinds: it
matches (`Matches`), it stops the walk with an exception other than `AccessDenied` (`Stops`),
or it is passed over (`PassedOver`).  The walk returns the first process that matches when every
process before it is passed over, raises the exception of the first process that stops it when
every process before that one is passed over, and returns `None` when every process is passed
over.  The proof splits the list at the first process that is not passed over
(`passedOver_or_first`), which is unique (`first_unique`).  A process that exits while the walk
asks for its name raises `NoSuchProcess`, which stops the walk: `matchGenerator_vanished` is a
walk that never reaches the process it looks for.
-/

namespace ScalyrAgent.ProcessMetrics

/-! ## The walk -/

/-- `_cmdline(process)`: `" ".join(process.cmdline())`. -/
def cmdlineOf (p : Process) : Except PyExc String :=
  p.cmdline.map (" ".intercalate)

/-- The body of the `try` for one process:
`pattern.search(process.name()) or pattern.search(_cmdline(process))`. -/
def matchOne (search : String → Bool) (p : Process) : Except PyExc Bool := do
  let n ← p.name
  if search n then pure true else do
    let c ← cmdlineOf p
    pure (search c)

/-- `_match_generator(processes)`. -/
def matchGenerator (search : String → Bool) : List Process → Except PyExc (Option Process)
  | [] => .ok none
  | p :: ps =>
    match matchOne search p with
    | .ok true => .ok (some p)
    | .ok false => matchGenerator search ps
    | .error .accessDenied => matchGenerator search ps
    | .error e => .error e

/-- `commandline_matcher(regex)`, with `search regex` the search of the compiled pattern. -/
def commandlineMatcher (search : String → String → Bool) (regex : String) :
    List Process → Except PyExc (Option Process) :=
  matchGenerator (search regex)

/-! ## The three kinds of process -/

section Kinds

variable (search : String → Bool) (p : Process)

/-- The name of `p` matches, or its name does not and its joined command line does. -/
def Matches : Prop :=
  (∃ n, p.name = .ok n ∧ search n = true) ∨
    ∃ n args, p.name = .ok n ∧ search n = false ∧ p.cmdline = .ok args ∧
      search (" ".intercalate args) = true

/-- `p` stops the walk with `e`: `name()` raises `e`, or the name does not match and
`cmdline()` raises `e`; and `e` is not `AccessDenied`. -/
def Stops (e : PyExc) : Prop :=
  e ≠ .accessDenied ∧
    (p.name = .error e ∨ ∃ n, p.name = .ok n ∧ search n = false ∧ p.cmdline = .error e)

/-- The walk goes past `p`. -/
def PassedOver : Prop := ¬Matches search p ∧ ∀ e, ¬Stops search p e

/-- `matchOne` by the answers of `name()` and `cmdline()`. -/
theorem matchOne_eq : matchOne search p =
    match p.name with
    | .error e => .error e
    | .ok n => if search n then .ok true else (p.cmdline.map (" ".intercalate)).map search := by
  unfold matchOne cmdlineOf
  rcases p.name with e | n
  · rfl
  · by_cases hs : search n
    · simp [hs, bind, Except.bind, pure, Except.pure]
    · rcases p.cmdline with e' | args <;>
        simp [hs, bind, Except.bind, pure, Except.pure, Except.map]

theorem matchOne_true_iff : matchOne search p = .ok true ↔ Matches search p := by
  rw [matchOne_eq]
  unfold Matches
  rcases p.name with e | n
  · simp
  · cases hs : search n <;> rcases p.cmdline with e' | args <;> simp [hs, Except.map]

theorem matchOne_false_iff :
    (matchOne search p = .ok false ∨ matchOne search p = .error .accessDenied) ↔
      PassedOver search p := by
  rw [matchOne_eq]
  unfold PassedOver Matches Stops
  rcases p.name with e | n
  · cases e <;> simp
    exact fun _ h h' => h h'.symm
  · cases hs : search n <;> rcases p.cmdline with e' | args <;> simp [hs, Except.map]
    cases e' <;> simp
    exact fun _ h h' => h h'.symm

theorem matchOne_error_iff (e : PyExc) :
    (matchOne search p = .error e ∧ e ≠ .accessDenied) ↔ Stops search p e := by
  rw [matchOne_eq]
  unfold Stops
  rcases p.name with e' | n
  · simp [and_comm]
  · cases hs : search n <;> rcases p.cmdline with e' | args <;>
      simp [hs, Except.map, and_comm]

/-- Every process is of one of the three kinds. -/
theorem kind_cases : Matches search p ∨ PassedOver search p ∨ ∃ e, Stops search p e := by
  rcases h : matchOne search p with e | b
  · by_cases he : e = .accessDenied
    · exact .inr (.inl ((matchOne_false_iff search p).1 (.inr (he ▸ h))))
    · exact .inr (.inr ⟨e, (matchOne_error_iff search p e).1 ⟨h, he⟩⟩)
  · cases b
    · exact .inr (.inl ((matchOne_false_iff search p).1 (.inl h)))
    · exact .inl ((matchOne_true_iff search p).1 h)

theorem Matches.not_stops {search : String → Bool} {p : Process} (h : Matches search p)
    (e : PyExc) : ¬Stops search p e := fun hs => by
  have h1 := (matchOne_true_iff search p).2 h
  rw [((matchOne_error_iff search p e).2 hs).1] at h1
  cases h1

theorem Stops.unique {search : String → Bool} {p : Process} {e e' : PyExc} (h : Stops search p e)
    (h' : Stops search p e') : e = e' := by
  have h1 := ((matchOne_error_iff search p e).2 h).1
  rw [((matchOne_error_iff search p e').2 h').1] at h1
  cases h1
  rfl

end Kinds

/-! ## What the walk returns -/

section Walk

variable {search : String → Bool} {p : Process} (ps : List Process)

theorem matchGenerator_cons_of_matches (h : Matches search p) :
    matchGenerator search (p :: ps) = .ok (some p) := by
  simp [matchGenerator, (matchOne_true_iff search p).2 h]

theorem matchGenerator_cons_of_passedOver (h : PassedOver search p) :
    matchGenerator search (p :: ps) = matchGenerator search ps := by
  rcases (matchOne_false_iff search p).2 h with h | h <;> simp [matchGenerator, h]

theorem matchGenerator_cons_of_stops {e : PyExc} (h : Stops search p e) :
    matchGenerator search (p :: ps) = .error e := by
  obtain ⟨h, he⟩ := (matchOne_error_iff search p e).2 h
  cases e <;> simp_all [matchGenerator]

/-- The walk goes through processes it passes over to the rest. -/
theorem matchGenerator_append {pre : List Process} (h : ∀ q ∈ pre, PassedOver search q) :
    matchGenerator search (pre ++ ps) = matchGenerator search ps := by
  induction pre with
  | nil => rfl
  | cons q pre ih =>
    rw [List.cons_append, matchGenerator_cons_of_passedOver _ (h q (List.mem_cons_self _ _)),
      ih fun r hr => h r (List.mem_cons_of_mem _ hr)]

/-- Every process is passed over, or there is a first one that is not. -/
theorem passedOver_or_first : (∀ q ∈ ps, PassedOver search q) ∨
    ∃ pre q post, ps = pre ++ q :: post ∧ (∀ r ∈ pre, PassedOver search r) ∧
      ¬PassedOver search q := by
  induction ps with
  | nil => exact .inl fun _ h => nomatch h
  | cons p ps ih =>
    by_cases hp : PassedOver search p
    · rcases ih with h | ⟨pre, q, post, rfl, hpre, hq⟩
      · exact .inl (List.forall_mem_cons.2 ⟨hp, h⟩)
      · exact .inr ⟨p :: pre, q, post, rfl, List.forall_mem_cons.2 ⟨hp, hpre⟩, hq⟩
    · exact .inr ⟨[], p, ps, rfl, (fun _ h => nomatch h), hp⟩

/-- The first process that is not passed over is unique. -/
theorem first_unique : ∀ {pre pre' : List Process} {q q' : Process} {post post' : List Process},
    pre ++ q :: post = pre' ++ q' :: post' → (∀ r ∈ pre, PassedOver search r) →
    ¬PassedOver search q → (∀ r ∈ pre', PassedOver search r) → ¬PassedOver search q' →
    pre = pre' ∧ q = q' ∧ post = post'
  | [], [], _, _, _, _, h, _, _, _, _ => by cases h; exact ⟨rfl, rfl, rfl⟩
  | [], _ :: _, _, _, _, _, h, _, hq, h', _ => by
    cases h; exact absurd (h' _ (List.mem_cons_self _ _)) hq
  | _ :: _, [], _, _, _, _, h, hpre, _, _, hq' => by
    cases h; exact absurd (hpre _ (List.mem_cons_self _ _)) hq'
  | _ :: _, _ :: _, _, _, _, _, h, hpre, hq, hpre', hq' => by
    simp only [List.cons_append, List.cons.injEq] at h
    obtain ⟨rfl, h⟩ := h
    obtain ⟨rfl, rfl, rfl⟩ := first_unique h (fun r hr => hpre r (List.mem_cons_of_mem _ hr)) hq
      (fun r hr => hpre' r (List.mem_cons_of_mem _ hr)) hq'
    exact ⟨rfl, rfl, rfl⟩

end Walk

/-- `_match_generator` returns the first process that matches when every process before it is
passed over; it raises the exception of the first process that stops the walk when every
process before that one is passed over; and it returns `None` when every process is passed
over. -/
theorem matchGenerator_spec (search : String → Bool) (ps : List Process) :
    (∀ p, matchGenerator search ps = .ok (some p) ↔
      ∃ pre post, ps = pre ++ p :: post ∧ (∀ q ∈ pre, PassedOver search q) ∧
        Matches search p) ∧
    (matchGenerator search ps = .ok none ↔ ∀ q ∈ ps, PassedOver search q) ∧
    (∀ e, matchGenerator search ps = .error e ↔
      ∃ pre q post, ps = pre ++ q :: post ∧ (∀ r ∈ pre, PassedOver search r) ∧
        Stops search q e) := by
  rcases passedOver_or_first ps with hall | ⟨pre, q, post, rfl, hpre, hq⟩
  case inl =>
    have hnone : matchGenerator search ps = .ok none := by
      simpa using matchGenerator_append [] hall
    rw [hnone]
    refine ⟨fun p => ⟨(fun h => by cases h), ?_⟩, ⟨fun _ => hall, fun _ => rfl⟩,
      fun e => ⟨(fun h => by cases h), ?_⟩⟩
    · rintro ⟨pre, post, rfl, -, hp⟩
      exact absurd hp (hall p (by simp)).1
    · rintro ⟨pre, q, post, rfl, -, hq⟩
      exact absurd hq ((hall q (by simp)).2 e)
  case inr =>
    rw [matchGenerator_append _ hpre]
    have hnone : ¬∀ r ∈ pre ++ q :: post, PassedOver search r := fun h => hq (h q (by simp))
    rcases kind_cases search q with hm | hpo | ⟨e0, hs⟩
    · rw [matchGenerator_cons_of_matches _ hm]
      refine ⟨fun p => ⟨fun h => ?_, fun ⟨pre', post', h, hpre', hp⟩ => ?_⟩,
        ⟨(fun h => by cases h), fun h => absurd h hnone⟩,
        fun e => ⟨(fun h => by cases h), ?_⟩⟩
      · cases h; exact ⟨pre, post, rfl, hpre, hm⟩
      · obtain ⟨-, rfl, -⟩ := first_unique h hpre hq hpre' fun h => h.1 hp
        rfl
      · rintro ⟨pre', q', post', h, hpre', hq'⟩
        obtain ⟨-, rfl, -⟩ := first_unique h hpre hq hpre' fun h => h.2 e hq'
        exact absurd hq' (hm.not_stops e)
    · exact absurd hpo hq
    · rw [matchGenerator_cons_of_stops _ hs]
      refine ⟨fun p => ⟨(fun h => by cases h), fun ⟨pre', post', h, hpre', hp⟩ => ?_⟩,
        ⟨(fun h => by cases h), fun h => absurd h hnone⟩, fun e => ⟨fun h => ?_, ?_⟩⟩
      · obtain ⟨-, rfl, -⟩ := first_unique h hpre hq hpre' fun h => h.1 hp
        exact absurd hs (hp.not_stops e0)
      · cases h; exact ⟨pre, q, post, rfl, hpre, hs⟩
      · rintro ⟨pre', q', post', h, hpre', hq'⟩
        obtain ⟨-, rfl, -⟩ := first_unique h hpre hq hpre' fun h => h.2 e hq'
        rw [hs.unique hq']

/-- The search of the pattern `^w3wp` compiled with `re.IGNORECASE`, on ASCII text. -/
def w3wpSearch (text : String) : Bool := "w3wp".data.isPrefixOf (text.data.map Char.toLower)

/-- A process that has exited: every call on it raises `NoSuchProcess`. -/
def exitedProcess : Process :=
  ⟨4100, .error .noSuchProcess, .error .noSuchProcess, fun _ _ => .error .noSuchProcess⟩

/-- An IIS worker process, `w3wp.exe`. -/
def iisWorker : Process :=
  ⟨4200, .ok "w3wp.exe", .ok ["w3wp.exe", "-ap", "DefaultAppPool"],
    fun _ _ => .error .accessDenied⟩

/-- A process that exits while the walk asks for its name stops the walk before the IIS worker
that the pattern matches. -/
theorem matchGenerator_vanished :
    Matches w3wpSearch iisWorker ∧
      matchGenerator w3wpSearch [exitedProcess, iisWorker] = .error .noSuchProcess :=
  ⟨.inl ⟨_, rfl, by decide⟩, rfl⟩

/-- A process that denies access is passed over. -/
example : matchGenerator w3wpSearch
    [⟨4000, .error .accessDenied, .error .accessDenied, fun _ _ => .error .accessDenied⟩,
      iisWorker] = .ok (some iisWorker) := rfl

end ScalyrAgent.ProcessMetrics
