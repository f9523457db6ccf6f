import ArkadeEscrow.Interaction.Sequence

/-!
# One observer in place of another

Two observers follow the same events over different states: an abstract one, against which a
program has been verified, and a concrete one, which keeps the state of a real backend. When
the concrete one simulates the abstract one, what a program upholds over the abstract one it
upholds over the concrete one, with every assertion read through the relation of the states
(`Simulates.upholds`).

`Watch.ofEvents` is a history variable that depends on the events alone. It can be added to
any run (`Sequence.watchedEvents`), and it is the fold of the events.
-/

set_option autoImplicit false

namespace ArkadeEscrow.Interaction

open Service (Follows)

variable {I : Interface} {α γ σ τ C : Type}

/-- What the concrete observer `O` admits for these requests, the abstract one `O'` admits too,
and it leads from related states to related states. -/
structure Simulates (asks : I.Ask → Prop) (O : Observer I σ) (O' : Observer I τ)
    (R : σ → τ → Prop) : Prop where
  noted : ∀ {s x} remark, R s x → R (O.noted s remark) (O'.noted x remark)
  sent : ∀ {s x request}, asks request → R s x → R (O.sent s request) (O'.sent x request)
  answered : ∀ {s x request answer s'}, asks request → R s x →
    O.answered s request answer s' → ∃ x', O'.answered x request answer x' ∧ R s' x'
  lost : ∀ {s x request s'}, asks request → R s x → O.lost s request s' →
    ∃ x', O'.lost x request x' ∧ R s' x'

/-- The discipline, read through a relation. -/
def Discipline.over (D : Discipline I τ) (R : σ → τ → Prop) : Discipline I σ where
  allow s request := ∃ x, R s x ∧ D.allow x request
  keep s := ∃ x, R s x ∧ D.keep x

variable {asks : I.Ask → Prop} {O : Observer I σ} {O' : Observer I τ} {R : σ → τ → Prop}
variable {D : Discipline I τ}

/-- **What a program upholds over the abstract observer, it upholds over the concrete one.** -/
theorem Simulates.upholds (simulates : Simulates asks O O' R)
    (within : ∀ x request, D.allow x request → asks request) {post : α → τ → Prop}
    {p : Program I α} {s : σ} {x : τ} (related : R s x) (upholds : p.Upholds O' D post x) :
    p.Upholds O (D.over R) (fun a s => ∃ x, R s x ∧ post a x) s := by
  induction p generalizing s x with
  | done result => exact ⟨x, related, upholds⟩
  | abort => trivial
  | note remark rest ih =>
      have related' := simulates.noted remark related
      exact ⟨⟨_, related', upholds.1⟩, ih related' upholds.2⟩
  | ask request next ih =>
      obtain ⟨allowed, sent, lost, answered⟩ := upholds
      have asked := within x request allowed
      have related' := simulates.sent asked related
      refine ⟨⟨x, related, allowed⟩, ⟨_, related', sent⟩, fun s' reply => ?_,
        fun answer s' reply => ?_⟩
      · obtain ⟨x', reply', after⟩ := simulates.lost asked related' reply
        exact ⟨x', after, lost x' reply'⟩
      · obtain ⟨x', reply', after⟩ := simulates.answered asked related' reply
        obtain ⟨kept, rest⟩ := answered answer x' reply'
        exact ⟨⟨x', after, kept⟩, ih answer after rest⟩

/-- The same, when nothing is asked of the result. -/
theorem Simulates.safe (simulates : Simulates asks O O' R)
    (within : ∀ x request, D.allow x request → asks request) {p : Program I α} {s : σ} {x : τ}
    (related : R s x) (safe : p.Safe O' D x) : p.Safe O (D.over R) s :=
  (simulates.upholds within related safe).mono fun _ _ _ => trivial

/-! ## History variables that depend on the events alone -/

/-- The history variable that steps with each request and each answer. -/
def Watch.ofEvents (σ : Type) (next : γ → Event I → γ) : Watch I σ γ where
  sent g _ request := next g (.sent request)
  answered g request answer _ := next g (.answered request answer)
  lost g _ _ := g

variable {next : γ → Event I → γ}

/-- A simulation carries the history variable along. -/
theorem Simulates.watched (simulates : Simulates asks O O' R) :
    Simulates asks (O.watched (Watch.ofEvents σ next)) (O'.watched (Watch.ofEvents τ next))
      fun s x => R s.1 x.1 ∧ s.2 = x.2 where
  noted remark related := ⟨simulates.noted remark related.1, related.2⟩
  sent asked related := ⟨simulates.sent asked related.1, congrArg (next · _) related.2⟩
  answered := by
    intro s x request answer s' asked related reply
    obtain ⟨x', reply', after⟩ := simulates.answered asked related.1 reply.1
    exact ⟨(x', next x.2 (.answered request answer)), ⟨reply', rfl⟩, after,
      reply.2.trans (congrArg (next · _) related.2)⟩
  lost := by
    intro s x request s' asked related reply
    obtain ⟨x', reply', after⟩ := simulates.lost asked related.1 reply.1
    exact ⟨(x', x.2), ⟨reply', rfl⟩, after, reply.2.trans related.2⟩

section Fold

variable (silent : ∀ g remark, next g (.noted remark) = g)
include silent

theorem follows_watchedEvents {s s' : σ} {events : List (Event I)}
    (follows : Follows O s events s') (g : γ) :
    Follows (O.watched (Watch.ofEvents σ next)) (s, g) events (s', events.foldl next g) := by
  induction follows generalizing g with
  | nil s => exact .nil _
  | noted remark rest ih =>
      refine .noted remark ?_
      rw [List.foldl_cons, silent]
      exact ih g
  | sent request rest ih => exact .sent request (ih _)
  | answered answer reply rest ih => exact .answered answer ⟨reply, rfl⟩ (ih _)

omit silent in
theorem Ends.watchedEvents {t : Thread I α} {s s' : σ} (ends : Ends O t s s') (g : γ) :
    Ends (O.watched (Watch.ofEvents σ next)) t (s, g) (s', g) := by
  cases ends with
  | stop => exact .stop t _
  | lose next lost => exact .lose next ⟨lost, rfl⟩

/-- **The history variable influences nothing**: it can be added to any run. -/
theorem Sequence.watchedEvents {program : C → Program I α} {calls : C → Prop} {s s' : σ}
    {h : List (Event I)} {t : Thread I α} (run : Sequence O program calls (fun s => s) s h t s')
    (g : γ) :
    Sequence (O.watched (Watch.ofEvents σ next)) program calls (fun s => s) (s, g) h t
      (s', h.foldl next g) := by
  induction run with
  | first call run follows => exact .first call run (follows_watchedEvents silent follows g)
  | next _ ends call run follows ih =>
      rw [List.foldl_append]
      exact .next ih (ends.watchedEvents _) call run (follows_watchedEvents silent follows _)

/-- **The rule of calls over a backend**: what every call keeps over the abstract observer,
with its history variable, is kept by calls over the concrete one, wherever they end. -/
theorem Simulates.keep_of_sequence {D : Discipline I (τ × γ)} {program : C → Program I α}
    {calls : C → Prop} (simulates : Simulates asks O O' R)
    (within : ∀ x request, D.allow x request → asks request)
    (safe : ∀ c x, calls c → D.keep x →
      (program c).Safe (O'.watched (Watch.ofEvents τ next)) D x)
    {s s₁ s' : σ} {x : τ} {g : γ} (related : R s x) (kept : D.keep (x, g))
    {h : List (Event I)} {t : Thread I α}
    (run : Sequence O program calls (fun s => s) s h t s₁) (ends : Ends O t s₁ s') :
    ∃ x', R s' x' ∧ D.keep (x', h.foldl next g) := by
  let R' (y : σ × γ) (x : τ × γ) : Prop := R y.1 x.1 ∧ y.2 = x.2
  have simulates' : Simulates asks (O.watched (Watch.ofEvents σ next))
      (O'.watched (Watch.ofEvents τ next)) R' := simulates.watched
  have maintains (c : C) (y : σ × γ) (call : calls c) (kept : (D.over R').keep y) :
      (D.over R').keep y ∧
        (program c).Safe (O.watched (Watch.ofEvents σ next)) (D.over R') y := by
    obtain ⟨x, related, here⟩ := kept
    exact ⟨⟨x, related, here⟩, simulates'.safe within related (safe c x call here)⟩
  obtain ⟨thread, _⟩ := (run.watchedEvents silent g).upholds maintains
    ⟨(x, g), ⟨related, rfl⟩, kept⟩
  obtain ⟨⟨x', g'⟩, ⟨related', same⟩, kept'⟩ := (ends.watchedEvents (h.foldl next g)).keep thread
  obtain rfl : _ = g' := same
  exact ⟨x', related', kept'⟩

end Fold

end ArkadeEscrow.Interaction
