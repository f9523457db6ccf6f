import ArkadeEscrow.Interaction.Deadline
import ArkadeEscrow.Interaction.Sequence

/-!
# Environments of embedded and of hurried programs

An environment of a larger interface is one of the smaller (`Environment.within`), and an
environment that knows of no deadlines answers in time (`Environment.punctual`). What a program
shows in the one, the embedded or hurried program shows in the other, so a run is carried over
with its result.
-/

set_option autoImplicit false

namespace ArkadeEscrow.Interaction

open Program
open Service (Follows)

variable {I J : Interface} {α σ : Type}

/-! ## Larger interfaces -/

/-- What the environment answers to the requests of the smaller interface. -/
def Environment.within (E : Environment J σ) (M : Embedding I J) : Environment I σ where
  answer s request :=
    let reply := E.answer s (M.ask request)
    (M.answer request reply.1, reply.2)

theorem Environment.follows_embed {E : Environment J σ} {M : Embedding I J}
    {events : List (Event I)} {s s' : σ} (follows : Follows (E.within M).observer s events s') :
    Follows E.observer s (events.map (Event.embed M)) s' := by
  induction follows with
  | nil s => exact .nil s
  | noted remark _ ih => exact .noted (M.note remark) ih
  | sent request _ ih => exact .sent (M.ask request) ih
  | @answered s s₁ s' request answer events reply _ ih =>
      refine .answered ((M.answer request).symm answer) ?_ ih
      have same : (M.answer request (E.answer s (M.ask request)).1,
          (E.answer s (M.ask request)).2) = (answer, s₁) := reply
      obtain ⟨first, second⟩ := Prod.mk.inj same
      exact Prod.ext ((M.answer request).injective (by simpa using first)) second

/-! ## Deadlines that do not fire -/

/-- The environment answers in time. -/
def Environment.punctual (E : Environment I σ) : Environment I.scheduled σ where
  answer s
    | .plain request => E.answer s request
    | .timed request => (.inTime (E.answer s request).1, (E.answer s request).2)

/-- An event of a program under a deadline that does not fire. -/
def Event.punctual (suspends : I.Ask → Bool) : Event I → Event I.scheduled
  | .noted remark => .noted remark
  | .sent request => .sent (if suspends request then .timed request else .plain request)
  | .answered request answer =>
      if suspends request then .answered (.timed request) (.inTime answer)
      else .answered (.plain request) answer

/-- **In time, a program does under a deadline what it does without.** -/
theorem Returns.hurried {suspends : I.Ask → Bool} {p : Program I α} {events : List (Event I)}
    {a : α} (run : Returns p events a) :
    Returns (p.hurried suspends) (events.map (Event.punctual suspends)) (some a) := by
  induction p generalizing events with
  | done result =>
      obtain ⟨rfl, rfl⟩ := run.of_done
      exact .stop _
  | abort => cases run
  | note remark rest ih =>
      cases run with
      | note _ run => exact .note (I := I.scheduled) remark (ih run)
  | ask request next ih =>
      obtain ⟨answer, rest, rfl, later⟩ := run.of_ask
      rw [Program.hurried, List.map_cons, List.map_cons, Event.punctual, Event.punctual]
      split
      · exact .exchange (I := I.scheduled) (.timed request) (.inTime answer) (ih answer later)
      · exact .exchange (I := I.scheduled) (.plain request) answer (ih answer later)

theorem Returns.unhurried {p : Program I α} {events : List (Event I)} {a : α}
    (run : Returns p events a) :
    Returns p.unhurried (events.map (Event.punctual fun _ => false)) a := by
  induction p generalizing events with
  | done result =>
      obtain ⟨rfl, rfl⟩ := run.of_done
      exact .stop _
  | abort => cases run
  | note remark rest ih =>
      cases run with
      | note _ run => exact .note (I := I.scheduled) remark (ih run)
  | ask request next ih =>
      obtain ⟨answer, rest, rfl, later⟩ := run.of_ask
      exact .exchange (I := I.scheduled) (.plain request) answer (ih answer later)

theorem Environment.follows_punctual {E : Environment I σ} (suspends : I.Ask → Bool)
    {events : List (Event I)} {s s' : σ} (follows : Follows E.observer s events s') :
    Follows E.punctual.observer s (events.map (Event.punctual suspends)) s' := by
  induction follows with
  | nil s => exact .nil s
  | noted remark _ ih => exact .noted (I := I.scheduled) remark ih
  | sent request _ ih => exact .sent _ ih
  | @answered s s₁ s' request answer events reply _ ih =>
      replace reply : E.answer s request = (answer, s₁) := reply
      rw [List.map_cons, Event.punctual]
      split
      · have inTime : E.punctual.answer s (.timed request) = (.inTime answer, s₁) := by
          show (Timed.inTime (E.answer s request).1, (E.answer s request).2) = _
          rw [reply]
        exact @Follows.answered I.scheduled σ E.punctual.observer s s₁ _ (.timed request) _ _
          inTime ih
      · have plain : E.punctual.answer s (.plain request) = (answer, s₁) := reply
        exact @Follows.answered I.scheduled σ E.punctual.observer s s₁ _ (.plain request) _ _
          plain ih

end ArkadeEscrow.Interaction
