/-!
# Triples over exception-state programs

Both monitors are Python methods that read and write their object's fields, call a driver or
`psutil`, and raise or catch exceptions.  They are modelled as `EStateM ε σ` programs.  A raised
exception carries the state at the point where it was raised: Python keeps every assignment made
before a `raise`, and `tryCatch` (an `except` clause) does not roll the state back.

`Triple P x Q E` says that from a state satisfying `P`, a run of `x` that returns `a` leaves a
state satisfying `Q a`, and a run that raises `e` leaves one satisfying `E e`.  Both outcomes are
covered, so an invariant proved with `E` equal to `Q` also holds after an exception, which is what
the theorems about "every state, whether the call returned or raised" need.

There is one rule per construct of the `do` blocks of the model (`pure`, `throw`, `get`,
`modify`, `>>=`, `tryCatch`, `if`), and the consequence rule.  The specifications of the model
functions are proved with these rules and the specifications of their callees, never by unfolding
a callee.
-/

/-- The state a program leaves, whether it returned or raised. -/
def EStateM.Result.state {ε σ α : Type} : EStateM.Result ε σ α → σ
  | .ok _ s => s
  | .error _ s => s

/-- `Q` of a returned value and `E` of a raised exception, each with the state left behind. -/
def EStateM.Result.Holds {ε σ α : Type} (Q : α → σ → Prop) (E : ε → σ → Prop) :
    EStateM.Result ε σ α → Prop
  | .ok a s => Q a s
  | .error e s => E e s

instance EStateM.Result.decidableHolds {ε σ α : Type} {Q : α → σ → Prop} {E : ε → σ → Prop}
    [∀ a s, Decidable (Q a s)] [∀ e s, Decidable (E e s)] :
    ∀ r : EStateM.Result ε σ α, Decidable (r.Holds Q E)
  | .ok a s => inferInstanceAs (Decidable (Q a s))
  | .error e s => inferInstanceAs (Decidable (E e s))

/-- A result of which only the raise of `e` holds is that raise. -/
theorem EStateM.Result.eq_error_of_holds {ε σ α : Type} {r : EStateM.Result ε σ α} {e : ε}
    (h : r.Holds (fun _ _ => False) fun e' _ => e' = e) : ∃ s, r = .error e s := by
  cases r with
  | ok _ _ => exact h.elim
  | error e' s => exact ⟨s, by rw [show e' = e from h]⟩

namespace ScalyrAgent

variable {ε σ α β : Type}

/-- From a state satisfying `P`, `x` returns into `Q` or raises into `E`. -/
def Triple (P : σ → Prop) (x : EStateM ε σ α) (Q : α → σ → Prop) (E : ε → σ → Prop) : Prop :=
  ∀ s, P s → (x.run s).Holds Q E

namespace Triple

variable {P P' : σ → Prop} {Q Q' : α → σ → Prop} {E E' F : ε → σ → Prop}

theorem pure' {a : α} (h : ∀ s, P s → Q a s) : Triple P (pure a : EStateM ε σ α) Q E :=
  fun s hs => h s hs

theorem throw' {e : ε} (h : ∀ s, P s → E e s) : Triple P (throw e : EStateM ε σ α) Q E :=
  fun s hs => h s hs

theorem get' {Q : σ → σ → Prop} (h : ∀ s, P s → Q s s) :
    Triple P (get : EStateM ε σ σ) Q E :=
  fun s hs => h s hs

theorem modify' {f : σ → σ} {Q : PUnit → σ → Prop} (h : ∀ s, P s → Q () (f s)) :
    Triple P (modify f : EStateM ε σ PUnit) Q E :=
  fun s hs => h s hs

/-- Sequencing: the postcondition of the first program is the precondition of the rest. -/
theorem bind {R : α → σ → Prop} {x : EStateM ε σ α} {f : α → EStateM ε σ β}
    {Q : β → σ → Prop} (hx : Triple P x R E) (hf : ∀ a, Triple (R a) (f a) Q E) :
    Triple P (x >>= f) Q E := by
  intro s hs
  have h := hx s hs
  show EStateM.Result.Holds Q E (match x.run s with
    | .ok a s' => (f a).run s'
    | .error e s' => .error e s')
  cases hr : x.run s with
  | ok a s' => rw [hr] at h; exact hf a s' h
  | error e s' => rw [hr] at h; exact h

/-- `try x except e: h e`: the exceptions of `x` are the preconditions of the handler. -/
theorem tryCatch {x : EStateM ε σ α} {h : ε → EStateM ε σ α}
    (hx : Triple P x Q F) (hh : ∀ e, Triple (F e) (h e) Q E) :
    Triple P (tryCatch x h) Q E := by
  intro s hs
  have hr : (x s).Holds Q F := hx s hs
  show EStateM.Result.Holds Q E (EStateM.tryCatch x h s)
  simp only [EStateM.tryCatch]
  cases hxs : x s with
  | ok a s' => rw [hxs] at hr; exact hr
  | error e s' => rw [hxs] at hr; exact hh e s' hr

theorem ite' {c : Prop} [Decidable c] {x y : EStateM ε σ α}
    (hx : c → Triple P x Q E) (hy : ¬c → Triple P y Q E) :
    Triple P (if c then x else y) Q E := by
  by_cases hc : c
  · rw [if_pos hc]; exact hx hc
  · rw [if_neg hc]; exact hy hc

theorem conseq {x : EStateM ε σ α} (h : Triple P' x Q' E') (hp : ∀ s, P s → P' s)
    (hq : ∀ a s, Q' a s → Q a s) (he : ∀ e s, E' e s → E e s) : Triple P x Q E := by
  intro s hs
  have hr := h s (hp s hs)
  cases hxs : x.run s with
  | ok a s' => rw [hxs] at hr; exact hq a s' hr
  | error e s' => rw [hxs] at hr; exact he e s' hr

/-- A program that raises nothing meets every postcondition on exceptions. -/
theorem noRaise {x : EStateM ε σ α} (h : Triple P x Q (fun _ _ => False)) : Triple P x Q E :=
  Triple.conseq h (fun _ h => h) (fun _ _ h => h) fun _ _ h => h.elim

/-- Two triples of one program hold together. -/
theorem and {x : EStateM ε σ α} {Q' : α → σ → Prop} {E' : ε → σ → Prop}
    (h : Triple P x Q E) (h' : Triple P x Q' E') :
    Triple P x (fun a s => Q a s ∧ Q' a s) (fun e s => E e s ∧ E' e s) := by
  intro s hs
  have hr := h s hs
  have hr' := h' s hs
  cases hxs : x.run s with
  | ok a s' => rw [hxs] at hr hr'; exact ⟨hr, hr'⟩
  | error e s' => rw [hxs] at hr hr'; exact ⟨hr, hr'⟩

/-- Nothing runs from an impossible state: the rule for a handler that is never reached. -/
theorem of_false {x : EStateM ε σ α} : Triple (fun _ => False) x Q E :=
  fun _ h => h.elim

/-- A precondition that names a witness may be taken apart before the program is. -/
theorem of_exists {γ : Type} {P : γ → σ → Prop} {x : EStateM ε σ α}
    (h : ∀ c, Triple (P c) x Q E) : Triple (fun s => ∃ c, P c s) x Q E :=
  fun s ⟨c, hs⟩ => h c s hs

/-- A fact in the precondition that the program does not read may be used to build its proof. -/
theorem and_fact {c : Prop} {x : EStateM ε σ α} (h : c → Triple P x Q E) :
    Triple (fun s => P s ∧ c) x Q E :=
  fun s ⟨hs, hc⟩ => h hc s hs

/-- A program that cannot raise returns. -/
theorem ok_of {x : EStateM ε σ α} (h : Triple P x Q (fun _ _ => False)) {s : σ} (hs : P s) :
    ∃ a s', x s = .ok a s' ∧ Q a s' := by
  have hr := h s hs
  show ∃ a s', x.run s = .ok a s' ∧ Q a s'
  cases hxs : x.run s with
  | ok a s' => rw [hxs] at hr; exact ⟨a, s', rfl, hr⟩
  | error e s' => rw [hxs] at hr; exact hr.elim

/-- An invariant kept in both outcomes holds of the state a run leaves. -/
theorem state {I : σ → Prop} {x : EStateM ε σ α} (h : Triple P x (fun _ => I) (fun _ => I))
    {s : σ} (hs : P s) : I (x s).state := by
  have hr := h s hs
  show I (x.run s).state
  cases hxs : x.run s with
  | ok a s' => rw [hxs] at hr; exact hr
  | error e s' => rw [hxs] at hr; exact hr

/-- A precondition that fixes the start state may be taken apart before the program is. -/
theorem of_forall {x : EStateM ε σ α} (h : ∀ s0, P s0 → Triple (· = s0) x Q E) :
    Triple P x Q E :=
  fun s hs => h s hs s rfl

end Triple

end ScalyrAgent
