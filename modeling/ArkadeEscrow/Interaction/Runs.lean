import ArkadeEscrow.Interaction.Program

/-!
# Inverting runs

What a run of a composed program consists of. A run of `p >>= f` is a run of `p` that has not
returned, or one that has, followed by a run of what comes next (`Evolves.bind_inv`); for
programs that can fail, an error ends the run (`Fallible.evolves_bind_inv`). What a confined
program shows is confined (`Confined.of_sent`).
-/

set_option autoImplicit false

namespace ArkadeEscrow.Interaction

open Program

variable {I : Interface} {α β ε : Type}

/-- An entry of two joined lists is one of the first or one of the second. -/
theorem split_append {γ : Type} {first last before after : List γ} {x : γ}
    (split : first ++ last = before ++ x :: after) :
    (∃ middle, first = before ++ x :: middle ∧ after = middle ++ last) ∨
      ∃ middle, before = first ++ middle ∧ last = middle ++ x :: after := by
  rcases List.append_eq_append_iff.mp split with ⟨middle, same, rest⟩ | ⟨middle, same, rest⟩
  · exact .inr ⟨middle, same, rest⟩
  · cases middle with
    | nil => exact .inr ⟨[], by rw [same, List.append_nil, List.append_nil], rest.symm⟩
    | cons y middle =>
        obtain ⟨rfl, rfl⟩ := List.cons.inj rest
        exact .inl ⟨middle, same, rfl⟩

/-- What a thread that has returned has returned. -/
def Thread.result? : Thread I α → Option α
  | .running (.done a) => some a
  | .running _ => none
  | .waiting _ _ => none

@[simp] theorem Thread.result?_done (a : α) :
    (Thread.running (.done a : Program I α)).result? = some a := rfl

@[simp] theorem Thread.result?_waiting {request : I.Ask} {next : I.Answer request → Program I α} :
    (Thread.waiting request next).result? = none := rfl

theorem Thread.result?_eq_some_iff {t : Thread I α} {a : α} :
    t.result? = some a ↔ t = .running (.done a) := by
  constructor
  · intro finished
    cases t with
    | waiting request next => cases finished
    | running p =>
        cases p with
        | done b =>
            cases finished
            rfl
        | abort => cases finished
        | note remark rest => cases finished
        | ask request next => cases finished
  · rintro rfl
    rfl

theorem Evolves.returns {p : Program I α} {h : List (Event I)} {t : Thread I α} {a : α}
    (run : Evolves p h t) (finished : t.result? = some a) : Returns p h a := by
  rw [Thread.result?_eq_some_iff.mp finished] at run
  exact run

theorem Evolves.of_done {a : α} {h : List (Event I)} {t : Thread I α}
    (run : Evolves (.done a) h t) : h = [] ∧ t.result? = some a := by
  cases run
  exact ⟨rfl, rfl⟩

theorem Returns.of_done {a b : α} {h : List (Event I)} (run : Returns (.done a) h b) :
    h = [] ∧ a = b := by
  obtain ⟨rfl, finished⟩ := Evolves.of_done run
  exact ⟨rfl, (Option.some.inj finished).symm⟩

/-- A request: it has not been sent, or it has not been answered, or it has. -/
theorem Evolves.of_ask {request : I.Ask} {next : I.Answer request → Program I α}
    {h : List (Event I)} {t : Thread I α} (run : Evolves (.ask request next) h t) :
    (h = [] ∧ t.result? = none) ∨ (h = [.sent request] ∧ t.result? = none) ∨
      ∃ answer rest, h = .sent request :: .answered request answer :: rest ∧
        Evolves (next answer) rest t := by
  cases run with
  | stop => exact .inl ⟨rfl, rfl⟩
  | send => exact .inr (.inl ⟨rfl, rfl⟩)
  | exchange _ answer rest => exact .inr (.inr ⟨answer, _, rfl, rest⟩)

theorem Returns.of_ask {request : I.Ask} {next : I.Answer request → Program I α}
    {h : List (Event I)} {a : α} (run : Returns (.ask request next) h a) :
    ∃ answer rest, h = .sent request :: .answered request answer :: rest ∧
      Returns (next answer) rest a := by
  rcases Evolves.of_ask run with ⟨_, open_⟩ | ⟨_, open_⟩ | answered
  · cases open_
  · cases open_
  · exact answered

/-- **What a program shows determines where it returns**, and with what. -/
theorem Returns.eq_of_append {p : Program I α} {h h' rest rest' : List (Event I)} {a a' : α}
    (run : Returns p h a) (run' : Returns p h' a') (same : h ++ rest = h' ++ rest') :
    h = h' ∧ a = a' := by
  induction p generalizing h h' with
  | done result =>
      obtain ⟨rfl, rfl⟩ := run.of_done
      obtain ⟨rfl, rfl⟩ := run'.of_done
      exact ⟨rfl, rfl⟩
  | abort => cases run
  | note remark later ih =>
      cases run with
      | note _ run =>
          cases run' with
          | note _ run' =>
              obtain ⟨rfl, rfl⟩ := ih run run' (List.cons.inj same).2
              exact ⟨rfl, rfl⟩
  | ask request next ih =>
      obtain ⟨answer, later, rfl, left⟩ := run.of_ask
      obtain ⟨answer', later', rfl, left'⟩ := run'.of_ask
      obtain ⟨answered, tail⟩ := List.cons.inj (List.cons.inj same).2
      cases answered
      obtain ⟨rfl, rfl⟩ := ih answer left left' tail
      exact ⟨rfl, rfl⟩

theorem Evolves.ne_nil_of_waiting {p : Program I α} {h : List (Event I)} {request : I.Ask}
    {next : I.Answer request → Program I α} (run : Evolves p h (.waiting request next)) :
    h ≠ [] := by
  cases run <;> simp

/-- **Runs of a sequence.** -/
theorem Evolves.bind_inv {p : Program I α} {f : α → Program I β} {h : List (Event I)}
    {t : Thread I β} (run : Evolves (p >>= f) h t) :
    (∃ u, Evolves p h u ∧ u.result? = none ∧ t.result? = none) ∨
      ∃ h₁ h₂ a, h = h₁ ++ h₂ ∧ Returns p h₁ a ∧ Evolves (f a) h₂ t := by
  induction p generalizing h with
  | done a => exact .inr ⟨[], h, a, rfl, .done a, run⟩
  | abort =>
      cases run
      exact .inl ⟨_, .stop _, rfl, rfl⟩
  | note remark rest ih =>
      cases run with
      | stop => exact .inl ⟨_, .stop _, rfl, rfl⟩
      | note _ run =>
          rcases ih run with ⟨u, first, open_, open'⟩ | ⟨h₁, h₂, a, rfl, first, later⟩
          · exact .inl ⟨u, .note remark first, open_, open'⟩
          · exact .inr ⟨_ :: h₁, h₂, a, rfl, .note remark first, later⟩
  | ask request next ih =>
      cases run with
      | stop => exact .inl ⟨_, .stop _, rfl, rfl⟩
      | send => exact .inl ⟨_, .send request next, rfl, rfl⟩
      | exchange _ answer run =>
          rcases ih answer run with ⟨u, first, open_, open'⟩ | ⟨h₁, h₂, a, rfl, first, later⟩
          · exact .inl ⟨u, .exchange request answer first, open_, open'⟩
          · exact .inr ⟨_ :: _ :: h₁, h₂, a, rfl, .exchange request answer first, later⟩

/-- Runs of a program whose result is mapped. -/
theorem Evolves.map_inv {p : Program I α} {f : α → β} {h : List (Event I)}
    {t : Thread I β} (run : Evolves (f <$> p) h t) :
    ∃ u, Evolves p h u ∧ t.result? = u.result?.map f := by
  rcases Evolves.bind_inv run with ⟨u, first, open_, open'⟩ | ⟨h₁, h₂, a, rfl, first, later⟩
  · exact ⟨u, first, by rw [open_, open', Option.map_none]⟩
  · obtain ⟨rfl, finished⟩ := Evolves.of_done later
    rw [List.append_nil]
    exact ⟨_, first, finished⟩

/-- **Runs of a sequence that an error ends.** -/
theorem Fallible.evolves_bind_inv {x : Fallible I ε α} {f : α → Fallible I ε β}
    {h : List (Event I)} {t : Thread I (Except ε β)} (run : Evolves (x >>= f).run h t) :
    (∃ u, Evolves x.run h u ∧ u.result? = none ∧ t.result? = none) ∨
      (∃ e, Interaction.Returns x.run h (.error e) ∧ t.result? = some (.error e)) ∨
        ∃ h₁ h₂ a, h = h₁ ++ h₂ ∧ Fallible.Returns x h₁ a ∧ Evolves (f a).run h₂ t := by
  rw [ExceptT.run_bind] at run
  rcases Evolves.bind_inv run with unfinished | ⟨h₁, h₂, r, rfl, first, later⟩
  · exact .inl unfinished
  · cases r with
    | error e =>
        obtain ⟨rfl, finished⟩ := Evolves.of_done later
        rw [List.append_nil]
        exact .inr (.inl ⟨e, first, finished⟩)
    | ok a => exact .inr (.inr ⟨h₁, h₂, a, rfl, first, later⟩)

theorem Fallible.evolves_check_bind_inv {r : Except ε α} {f : α → Fallible I ε β}
    {h : List (Event I)} {t : Thread I (Except ε β)}
    (run : Evolves (Fallible.check r >>= f).run h t) :
    (∃ e, r = .error e ∧ h = [] ∧ t.result? = some (.error e)) ∨
      ∃ a, r = .ok a ∧ Evolves (f a).run h t := by
  cases r with
  | error e =>
      obtain ⟨rfl, finished⟩ := Evolves.of_done run
      exact .inl ⟨e, rfl, rfl, finished⟩
  | ok a => exact .inr ⟨a, rfl, run⟩

/-- Runs of a sequence whose first part is attempted. -/
theorem Fallible.evolves_attempt_bind_inv {x : Fallible I ε α} {f : Except ε α → Fallible I ε β}
    {h : List (Event I)} {t : Thread I (Except ε β)} (run : Evolves (x.attempt >>= f).run h t) :
    (∃ u, Evolves x.run h u ∧ u.result? = none ∧ t.result? = none) ∨
      ∃ h₁ h₂ r, h = h₁ ++ h₂ ∧ Interaction.Returns x.run h₁ r ∧ Evolves (f r).run h₂ t := by
  rw [run_attempt_bind] at run
  exact Evolves.bind_inv run

namespace Fallible

/-- The program fails only with errors that its history accounts for. -/
def FailsWith (accounts : List (Event I) → ε → Prop) (x : Fallible I ε α) : Prop :=
  ∀ h e, Interaction.Returns x.run h (.error e) → accounts h e

variable {accounts : List (Event I) → ε → Prop}

theorem failsWith_pure {a : α} : FailsWith accounts (pure a : Fallible I ε α) := by
  intro h e run
  cases run

theorem failsWith_check {r : Except ε α} (fails : ∀ e, r = .error e → accounts [] e) :
    FailsWith accounts (check r : Fallible I ε α) := by
  intro h e run
  obtain ⟨rfl, same⟩ := run.of_done
  exact fails e same

theorem failsWith_request {request : I.Ask} {f : I.Answer request → Except ε α}
    (fails : ∀ answer e, f answer = .error e →
      accounts [.sent request, .answered request answer] e) :
    FailsWith accounts (ExceptT.mk (f <$> Program.request request) : Fallible I ε α) := by
  intro h e run
  obtain ⟨answer, rest, rfl, later⟩ := Interaction.Returns.of_ask run
  obtain ⟨rfl, same⟩ := Interaction.Returns.of_done later
  exact fails answer e same

/-- **The errors of a sequence** are those of its parts. -/
theorem FailsWith.bind {x : Fallible I ε α} {f : α → Fallible I ε β}
    (first : FailsWith accounts x) (rest : ∀ a, FailsWith accounts (f a))
    (grows : ∀ h h' e, accounts h' e → accounts (h ++ h') e) : FailsWith accounts (x >>= f) := by
  intro h e run
  rcases evolves_bind_inv run with ⟨_, _, _, unfinished⟩ | ⟨e', failed, finished⟩ |
    ⟨h₁, h₂, a, rfl, _, later⟩
  · cases unfinished
  · cases finished
    exact first h e failed
  · exact grows h₁ h₂ e (rest a h₂ e later)

end Fallible

/-- A run of a confined program makes no remarks and sends only what it is confined to. -/
theorem Program.Confined.of_sent {asks : I.Ask → Prop} {p : Program I α}
    (confined : Confined asks p) {h : List (Event I)} {t : Thread I α} (run : Evolves p h t) :
    (∀ remark, .noted remark ∉ h) ∧ ∀ request, .sent request ∈ h → asks request := by
  induction confined generalizing h with
  | done result =>
      cases run
      simp
  | abort =>
      cases run
      simp
  | ask member _ ih =>
      rcases Evolves.of_ask run with ⟨rfl, _⟩ | ⟨rfl, _⟩ | ⟨answer, rest, rfl, later⟩
      · simp
      · simpa using member
      · obtain ⟨silent, sent⟩ := ih answer later
        refine ⟨by simpa using silent, fun request here => ?_⟩
        rcases List.mem_cons.mp here with same | here
        · cases same
          exact member
        · rcases List.mem_cons.mp here with same | here
          · cases same
          · exact sent request here

end ArkadeEscrow.Interaction
