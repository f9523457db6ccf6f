import ArkadeEscrow.Interaction.Runs
import Mathlib.Logic.Equiv.Defs

/-!
# Programs under a deadline, and inside other interfaces

`Program.embed` carries a program over to a larger interface. `Program.hurried` runs it
under a deadline: the answer to a request for which it suspends may be that the deadline has
fired, and then nothing more of it is run. `Program.unhurried` is the same without a deadline.

`journal` forgets the deadlines again. What a hurried program shows is then a run of the
program itself, which is still waiting for an answer if the deadline has fired
(`Evolves.hurried_inv`).
-/

set_option autoImplicit false

namespace ArkadeEscrow.Interaction

open Program

variable {I J : Interface} {α : Type}

/-! ## Larger interfaces -/

/-- The requests of one interface among those of another. -/
structure Embedding (I J : Interface) where
  note : I.Note → J.Note
  ask : I.Ask → J.Ask
  answer : ∀ request, J.Answer (ask request) ≃ I.Answer request

/-- The program in the larger interface. -/
def Program.embed (E : Embedding I J) : Program I α → Program J α
  | .done result => .done result
  | .abort => .abort
  | .note remark rest => .note (E.note remark) (rest.embed E)
  | .ask request next => .ask (E.ask request) fun answer => (next (E.answer request answer)).embed E

theorem Program.Confined.embed {E : Embedding I J} {asks : I.Ask → Prop} {asks' : J.Ask → Prop}
    {p : Program I α} (confined : Confined asks p) (carried : ∀ q, asks q → asks' (E.ask q)) :
    Confined asks' (p.embed E) := by
  induction confined with
  | done result => exact .done result
  | abort => exact .abort
  | ask member _ ih => exact .ask (carried _ member) fun answer => ih _

/-- An event in the larger interface. -/
def Event.embed (E : Embedding I J) : Event I → Event J
  | .noted remark => .noted (E.note remark)
  | .sent request => .sent (E.ask request)
  | .answered request answer => .answered (E.ask request) ((E.answer request).symm answer)

/-- **A program does in the larger interface what it does in its own.** -/
theorem Returns.embed {p : Program I α} {h : List (Event I)} {a : α} (run : Returns p h a)
    (E : Embedding I J) : Returns (p.embed E) (h.map (Event.embed E)) a := by
  induction p generalizing h with
  | done result =>
      obtain ⟨rfl, rfl⟩ := run.of_done
      exact .stop _
  | abort => cases run
  | note remark rest ih =>
      cases run with
      | note _ run => exact .note (E.note remark) (ih run)
  | ask request next ih =>
      obtain ⟨answer, rest, rfl, later⟩ := run.of_ask
      refine .exchange (E.ask request) ((E.answer request).symm answer) ?_
      rw [Equiv.apply_symm_apply]
      exact ih answer later

/-- **And it does nothing else there.** -/
theorem Returns.embed_inv {p : Program I α} {E : Embedding I J} {j : List (Event J)} {a : α}
    (run : Returns (p.embed E) j a) : ∃ h, Returns p h a ∧ j = h.map (Event.embed E) := by
  induction p generalizing j with
  | done result =>
      obtain ⟨rfl, rfl⟩ := run.of_done
      exact ⟨[], .stop _, rfl⟩
  | abort => cases run
  | note remark rest ih =>
      cases run with
      | note _ run =>
          obtain ⟨h, inner, rfl⟩ := ih run
          exact ⟨.noted remark :: h, .note remark inner, rfl⟩
  | ask request next ih =>
      obtain ⟨answer, rest, rfl, later⟩ := run.of_ask
      obtain ⟨h, inner, rfl⟩ := ih _ later
      refine ⟨.sent request :: .answered request (E.answer request answer) :: h,
        .exchange request _ inner, ?_⟩
      rw [List.map_cons, List.map_cons, Event.embed, Event.embed, Equiv.symm_apply_apply]

/-! ## Deadlines -/

/-- The answer to a request under a deadline, if it comes in time. -/
inductive Timed (α : Type) where
  | elapsed
  | inTime (answer : α)

/-- A request, sent with or without a deadline running. -/
inductive Scheduled (I : Interface) where
  | plain (request : I.Ask)
  | timed (request : I.Ask)

/-- The interface of programs with deadlines. -/
abbrev Interface.scheduled (I : Interface) : Interface where
  Note := I.Note
  Ask := Scheduled I
  Answer
    | .plain request => I.Answer request
    | .timed request => Timed (I.Answer request)

namespace Program

/-- The program without a deadline. -/
def unhurried : Program I α → Program I.scheduled α
  | .done result => .done result
  | .abort => .abort
  | .note remark rest => .note remark rest.unhurried
  | .ask request next =>
      .ask (I := I.scheduled) (.plain request) fun answer => (next answer).unhurried

/-- The program under a deadline, which can fire whenever the program suspends. There is no
result when it has fired. -/
def hurried (suspends : I.Ask → Bool) : Program I α → Program I.scheduled (Option α)
  | .done result => .done (some result)
  | .abort => .abort
  | .note remark rest => .note remark (rest.hurried suspends)
  | .ask request next =>
      if suspends request then
        .ask (I := I.scheduled) (.timed request) fun
          | .elapsed => .done none
          | .inTime answer => (next answer).hurried suspends
      else
        .ask (I := I.scheduled) (.plain request) fun answer => (next answer).hurried suspends

end Program

/-- What is left of an event without the deadline: that it has fired is not shown. -/
def journalEntry : Event I.scheduled → Option (Event I)
  | .noted remark => some (.noted remark)
  | .sent (.plain request) => some (.sent request)
  | .sent (.timed request) => some (.sent request)
  | .answered (.plain request) answer => some (.answered request answer)
  | .answered (.timed request) (.inTime answer) => some (.answered request answer)
  | .answered (.timed _) .elapsed => none

/-- A history without the deadlines. -/
def journal (h : List (Event I.scheduled)) : List (Event I) := h.filterMap journalEntry

@[simp] theorem journal_nil : journal ([] : List (Event I.scheduled)) = [] := rfl

theorem journal_append (h h' : List (Event I.scheduled)) :
    journal (h ++ h') = journal h ++ journal h' :=
  List.filterMap_append

@[simp] theorem journal_noted (remark : I.Note) (h : List (Event I.scheduled)) :
    journal (.noted remark :: h) = .noted remark :: journal h := rfl

/-- **What a program shows without a deadline is a run of it.** -/
theorem Evolves.unhurried_inv {p : Program I α} {h : List (Event I.scheduled)}
    {t : Thread I.scheduled α} (run : Evolves p.unhurried h t) :
    ∃ u, Evolves p (journal h) u ∧ t.result? = u.result? := by
  induction p generalizing h with
  | done a =>
      obtain ⟨rfl, finished⟩ := Evolves.of_done run
      exact ⟨_, .stop _, finished⟩
  | abort =>
      cases run
      exact ⟨_, .stop _, rfl⟩
  | note remark rest ih =>
      cases run with
      | stop => exact ⟨_, .stop _, rfl⟩
      | note _ run =>
          obtain ⟨u, run', same⟩ := ih run
          exact ⟨u, .note remark run', same⟩
  | ask request next ih =>
      cases run with
      | stop => exact ⟨_, .stop _, rfl⟩
      | send => exact ⟨_, .send request next, rfl⟩
      | exchange _ answer run =>
          obtain ⟨u, run', same⟩ := ih answer run
          exact ⟨u, .exchange request answer run', same⟩

/-- **What a program shows under a deadline is a run of it.** If the deadline has fired, then
the program is waiting for an answer. -/
theorem Evolves.hurried_inv {suspends : I.Ask → Bool} {p : Program I α}
    {h : List (Event I.scheduled)} {t : Thread I.scheduled (Option α)}
    (run : Evolves (p.hurried suspends) h t) :
    ∃ u, Evolves p (journal h) u ∧ (t.result? = u.result?.map some ∨
      t.result? = some none ∧ ∃ request next, u = .waiting request next) := by
  induction p generalizing h with
  | done a =>
      obtain ⟨rfl, finished⟩ := Evolves.of_done run
      exact ⟨_, .stop _, .inl finished⟩
  | abort =>
      cases run
      exact ⟨_, .stop _, .inl rfl⟩
  | note remark rest ih =>
      cases run with
      | stop => exact ⟨_, .stop _, .inl rfl⟩
      | note _ run =>
          obtain ⟨u, run', same⟩ := ih run
          exact ⟨u, .note remark run', same⟩
  | ask request next ih =>
      rw [hurried] at run
      split at run
      · rcases Evolves.of_ask run with ⟨rfl, open_⟩ | ⟨rfl, open_⟩ | ⟨answer, rest, rfl, later⟩
        · exact ⟨_, .stop _, .inl open_⟩
        · exact ⟨_, .send request next, .inl open_⟩
        · cases answer with
          | elapsed =>
              obtain ⟨rfl, fired⟩ := Evolves.of_done later
              exact ⟨_, .send request next, .inr ⟨fired, request, next, rfl⟩⟩
          | inTime answer =>
              obtain ⟨u, run', same⟩ := ih answer later
              exact ⟨u, .exchange request answer run', same⟩
      · rcases Evolves.of_ask run with ⟨rfl, open_⟩ | ⟨rfl, open_⟩ | ⟨answer, rest, rfl, later⟩
        · exact ⟨_, .stop _, .inl open_⟩
        · exact ⟨_, .send request next, .inl open_⟩
        · obtain ⟨u, run', same⟩ := ih answer later
          exact ⟨u, .exchange request answer run', same⟩

/-- The answer to the first request comes in time. -/
theorem returns_hurried_inTime {suspends : I.Ask → Bool} {request : I.Ask}
    {next : I.Answer request → Program I α} (suspended : suspends request = true)
    {answer : I.Answer request} {h : List (Event I.scheduled)} {r : Option α}
    (later : Returns ((next answer).hurried suspends) h r) :
    Returns ((Program.ask request next).hurried suspends)
      (.sent (.timed request) :: .answered (.timed request) (.inTime answer) :: h) r := by
  rw [Program.hurried, if_pos suspended]
  exact .exchange (I := I.scheduled) (.timed request) (.inTime answer) later

/-- The deadline fires while the program waits for the first answer. -/
theorem returns_hurried_elapsed {suspends : I.Ask → Bool} {request : I.Ask}
    (next : I.Answer request → Program I α) (suspended : suspends request = true) :
    Returns ((Program.ask request next).hurried suspends)
      [.sent (.timed request), .answered (.timed request) .elapsed] none := by
  rw [Program.hurried, if_pos suspended]
  exact .exchange (I := I.scheduled) (.timed request) .elapsed (.stop _)

end ArkadeEscrow.Interaction
