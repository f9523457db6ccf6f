import ArkadeEscrow.Interaction.Refinement

/-!
# Requests that are served by programs

A backend serves the requests of one interface by programs over another: each of them may ask
several things, fail between them, or be interrupted. `Handler.observer` is what the upper
interface sees of that, over the states of the lower one.

`Handler.simulates` is the rule of refinement: when every program leaves, wherever it is
interrupted, a state that the abstract observer admits for the request, and returns only what it
admits, then the backend simulates the abstract observer, to which each request is one step.
-/

set_option autoImplicit false

namespace ArkadeEscrow.Interaction

open Service (Follows)

variable {I L : Interface} {α ε σ τ : Type}

/-- Where a program ends, the state is kept as well. -/
theorem Program.Upholds.kept {O : Observer L σ} {D : Discipline L σ} {post : α → σ → Prop}
    {p : Program L α} {s : σ} (upholds : p.Upholds O D post s) (start : D.keep s) :
    p.Upholds O D (fun a s' => D.keep s' ∧ post a s') s := by
  induction p generalizing s with
  | done result => exact ⟨start, upholds⟩
  | abort => trivial
  | note remark rest ih => exact ⟨upholds.1, ih upholds.2 upholds.1⟩
  | ask request next ih =>
      obtain ⟨allowed, sent, lost, answered⟩ := upholds
      refine ⟨allowed, sent, lost, fun answer s' reply => ?_⟩
      obtain ⟨kept, rest⟩ := answered answer s' reply
      exact ⟨kept, ih answer rest kept⟩

/-- A program that fails leaves what is kept, and nothing more has to be said of its errors. -/
theorem Fallible.upholds_of_achieves {O : Observer L σ} {D : Discipline L σ}
    {post : Except ε α → σ → Prop} {x : Fallible L ε α} {s : σ}
    (achieves : Achieves O D (fun a => post (.ok a)) x s) (start : D.keep s)
    (failed : ∀ e s', D.keep s' → post (.error e) s') : x.run.Upholds O D post s := by
  refine (Program.Upholds.kept achieves start).mono fun r s' after => ?_
  cases r with
  | ok a => exact after.2 a rfl
  | error e => exact failed e s' after.1

/-- The programs that serve the requests of an interface. Some requests are not for this backend. -/
abbrev Handler (I L : Interface) := (request : I.Ask) → Option (Program L (I.Answer request))

/-- The states of the backend, as the upper interface sees them. -/
def Handler.observer (serve : Handler I L) (O : Observer L σ) : Observer I σ where
  noted s _ := s
  sent s _ := s
  answered s request answer s' :=
    match serve request with
    | some p => ∃ events, Returns p events answer ∧ Follows O s events s'
    | none => s' = s
  lost s request s' :=
    match serve request with
    | some p => ∃ events t s₁, Evolves p events t ∧ Follows O s events s₁ ∧ Ends O t s₁ s'
    | none => s' = s

variable {serve : Handler I L} {O : Observer L σ} {O' : Observer I τ} {R : σ → τ → Prop}
variable {asks : I.Ask → Prop}

/-- A program serves a request as the abstract observer says: the states on the way are those in
which the answer may be lost. -/
def Program.Serves (O : Observer L σ) (O' : Observer I τ) (R : σ → τ → Prop) (x : τ)
    (request : I.Ask) (p : Program L (I.Answer request)) (s : σ) : Prop :=
  p.Upholds O ⟨fun _ _ => True, fun s' => ∃ x', O'.lost x request x' ∧ R s' x'⟩
    (fun answer s' => ∃ x', O'.answered x request answer x' ∧ R s' x') s

/-- **A backend whose programs serve the requests simulates the abstract observer.** -/
theorem Handler.simulates (noted : ∀ x remark, O'.noted x remark = x)
    (sent : ∀ x request, O'.sent x request = x)
    (stays : ∀ x request, asks request → O'.lost x request x)
    (outside : ∀ x request answer, asks request → serve request = none →
      O'.answered x request answer x)
    (serves : ∀ s x request p, asks request → serve request = some p → R s x →
      p.Serves O O' R x request s) :
    Simulates asks (serve.observer O) O' R where
  noted remark related := by
    rw [noted]
    exact related
  sent asked related := by
    rw [sent]
    exact related
  answered := by
    intro s x request answer s' asked related reply
    cases program : serve request with
    | none =>
        simp only [Handler.observer, program] at reply
        subst reply
        exact ⟨x, outside x request answer asked program, related⟩
    | some p =>
        simp only [Handler.observer, program] at reply
        obtain ⟨events, returns, follows⟩ := reply
        have here : ∃ x', O'.lost x request x' ∧ R s x' := ⟨x, stays x request asked, related⟩
        exact (Evolves.upholds_of_follows returns here
          (serves s x request p asked program related) follows).2
  lost := by
    intro s x request s' asked related reply
    cases program : serve request with
    | none =>
        simp only [Handler.observer, program] at reply
        subst reply
        exact ⟨x, stays x request asked, related⟩
    | some p =>
        simp only [Handler.observer, program] at reply
        obtain ⟨events, t, s₁, evolves, follows, ends⟩ := reply
        have here : ∃ x', O'.lost x request x' ∧ R s x' := ⟨x, stays x request asked, related⟩
        exact ends.keep (evolves.upholds_of_follows here
          (serves s x request p asked program related) follows)

end ArkadeEscrow.Interaction
