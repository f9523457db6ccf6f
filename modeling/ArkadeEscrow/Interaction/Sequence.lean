import ArkadeEscrow.Interaction.Slots

/-!
# Runs under an observer, and calls one after the other

`Follows` says which events an observer admits. A program that upholds a discipline keeps
it in every run that the observer follows: what is sent is allowed in the state it is sent
in (`Emits.allowed`), and the thread that is left upholds the discipline in the state that
is left (`Evolves.upholds_of_follows`).

`Sequence` is the same for calls that are made one after the other, each up to its end or
up to a crash. `Sequence.upholds` is its rule.

An observer can be made to admit fewer answers (`Observer.restrict`), and it can be given
history variables, which record what has happened and influence nothing
(`Observer.watched`). `Program.runIn` is the run of a program in an environment whose
answers are determined.
-/

set_option autoImplicit false

namespace ArkadeEscrow.Interaction

open Service (Follows)

variable {I : Interface} {α β γ σ ε C : Type} {O : Observer I σ} {D : Discipline I σ}

/-! ## Runs that an observer follows -/

theorem follows_append {s s' : σ} {events events' : List (Event I)} :
    Follows O s (events ++ events') s' ↔ ∃ s₁, Follows O s events s₁ ∧ Follows O s₁ events' s' := by
  induction events generalizing s with
  | nil =>
      constructor
      · exact fun rest => ⟨s, .nil s, rest⟩
      · rintro ⟨_, ⟨⟩, rest⟩
        exact rest
  | cons event events ih =>
      constructor
      · intro follows
        cases follows with
        | noted remark rest =>
            obtain ⟨s₁, first, rest⟩ := ih.mp rest
            exact ⟨s₁, .noted remark first, rest⟩
        | sent request rest =>
            obtain ⟨s₁, first, rest⟩ := ih.mp rest
            exact ⟨s₁, .sent request first, rest⟩
        | answered answer reply rest =>
            obtain ⟨s₁, first, rest⟩ := ih.mp rest
            exact ⟨s₁, .answered answer reply first, rest⟩
      · rintro ⟨s₁, first, rest⟩
        cases first with
        | noted remark first => exact .noted remark (ih.mpr ⟨s₁, first, rest⟩)
        | sent request first => exact .sent request (ih.mpr ⟨s₁, first, rest⟩)
        | answered answer reply first => exact .answered answer reply (ih.mpr ⟨s₁, first, rest⟩)

/-- An observer that admits more answers follows more runs. -/
theorem Service.Follows.mono {O' : Observer I σ}
    (noted : ∀ s remark, O.noted s remark = O'.noted s remark)
    (sent : ∀ s request, O.sent s request = O'.sent s request)
    (answered : ∀ s request answer s', O.answered s request answer s' →
      O'.answered s request answer s') {s s' : σ} {events : List (Event I)}
    (follows : Follows O s events s') : Follows O' s events s' := by
  induction follows with
  | nil s => exact .nil s
  | noted remark _ ih => exact .noted remark (noted _ remark ▸ ih)
  | sent request _ ih => exact .sent request (sent _ request ▸ ih)
  | answered answer reply _ ih => exact .answered answer (answered _ _ _ _ reply) ih

/-- **What is left of a run upholds the discipline**, in the state that is left. -/
theorem Evolves.upholds_of_follows {post : α → σ → Prop} {p : Program I α}
    {events : List (Event I)} {t : Thread I α} (run : Evolves p events t) {s s' : σ}
    (kept : D.keep s) (upholds : p.Upholds O D post s) (follows : Follows O s events s') :
    t.Upholds O D post s' := by
  induction run generalizing s with
  | stop p =>
      cases follows
      exact ⟨kept, upholds⟩
  | note remark _ ih =>
      cases follows with
      | noted _ rest => exact ih upholds.1 upholds.2 rest
  | send request next =>
      cases follows with
      | sent _ rest =>
          cases rest
          exact upholds.2
  | exchange request answer _ ih =>
      cases follows with
      | sent _ rest =>
          cases rest with
          | answered _ reply rest =>
              obtain ⟨kept', upholds'⟩ := upholds.2.2.2 answer _ reply
              exact ih kept' upholds' rest

/-- A run that sends a request has come to the point of asking it. -/
theorem Evolves.asking {p : Program I α} {events : List (Event I)} {t : Thread I α}
    (run : Evolves p events t) {before after : List (Event I)} {request : I.Ask}
    (split : events = before ++ .sent request :: after) :
    ∃ next, Evolves p before (.running (.ask request next)) := by
  induction run generalizing before with
  | stop p => simp at split
  | note remark _ ih =>
      cases before with
      | nil => simp at split
      | cons first before =>
          simp only [List.cons_append, List.cons.injEq] at split
          obtain ⟨rfl, split⟩ := split
          obtain ⟨next, rest⟩ := ih split
          exact ⟨next, .note remark rest⟩
  | send request' next =>
      cases before with
      | nil =>
          simp only [List.nil_append, List.cons.injEq, Event.sent.injEq] at split
          obtain ⟨rfl, _⟩ := split
          exact ⟨next, .stop _⟩
      | cons first before => simp at split
  | @exchange request' next answer _ _ _ ih =>
      rcases before with _ | ⟨first, _ | ⟨second, before⟩⟩
      · simp only [List.nil_append, List.cons.injEq, Event.sent.injEq] at split
        obtain ⟨rfl, _⟩ := split
        exact ⟨next, .stop _⟩
      · simp at split
      · simp only [List.cons_append, List.cons.injEq] at split
        obtain ⟨rfl, rfl, split⟩ := split
        obtain ⟨next', rest⟩ := ih split
        exact ⟨next', .exchange request' answer rest⟩

/-- What is left of a run once it has come to a program. -/
theorem Evolves.rest {p p' : Program I α} {events events' : List (Event I)} {t : Thread I α}
    (first : Evolves p events (.running p')) (run : Evolves p (events ++ events') t) :
    Evolves p' events' t := by
  generalize middle : Thread.running p' = u at first
  induction first with
  | stop p =>
      cases middle
      exact run
  | note remark _ ih =>
      cases run with
      | note _ rest => exact ih rest middle
  | send request next => cases middle
  | exchange request answer _ ih =>
      cases run with
      | exchange _ _ rest => exact ih rest middle

/-- **What is sent is allowed** in the state it is sent in. -/
theorem Emits.allowed {post : α → σ → Prop} {p : Program I α} {before after : List (Event I)}
    {request : I.Ask} (run : Emits p (before ++ .sent request :: after)) {s s' : σ}
    (kept : D.keep s) (upholds : p.Upholds O D post s) (follows : Follows O s before s') :
    D.allow s' request := by
  obtain ⟨t, run⟩ := run
  obtain ⟨next, asking⟩ := run.asking rfl
  exact (asking.upholds_of_follows kept upholds follows).2.1

/-! ## Calls one after the other -/

/-- What a thread that ends here leaves: the state it stands in, or, when it was waiting for
an answer, one in which the request is lost. -/
inductive Ends (O : Observer I σ) : Thread I α → σ → σ → Prop where
  | stop (t : Thread I α) (s : σ) : Ends O t s s
  | lose {request : I.Ask} (next : I.Answer request → Program I α) {s s' : σ} :
      O.lost s request s' → Ends O (.waiting request next) s s'

/-- A thread that upholds the discipline leaves a state that is kept. -/
theorem Ends.keep {post : α → σ → Prop} {t : Thread I α} {s s' : σ} (ends : Ends O t s s')
    (upholds : t.Upholds O D post s) : D.keep s' := by
  cases ends with
  | stop => exact upholds.keep
  | lose next lost => exact upholds.2.1 _ lost

/-- Calls from `calls`, one after the other, each up to where it has returned or broken off:
the events of all of them, the thread of the last one, and the state. A call begins in the
state that the call before it has left. -/
inductive Sequence (O : Observer I σ) (program : C → Program I α) (calls : C → Prop)
    (begun : σ → σ) : σ → List (Event I) → Thread I α → σ → Prop where
  | first {c : C} {s s' : σ} {events : List (Event I)} {t : Thread I α} : calls c →
      Evolves (program c) events t → Follows O (begun s) events s' →
      Sequence O program calls begun s events t s'
  | next {c : C} {s s₁ s₂ s' : σ} {h events : List (Event I)} {t t' : Thread I α} :
      Sequence O program calls begun s h t s₁ → Ends O t s₁ s₂ → calls c →
      Evolves (program c) events t' → Follows O (begun s₂) events s' →
      Sequence O program calls begun s (h ++ events) t' s'

/-- **The rule of sequences**: if every call maintains the discipline from every kept state,
then every sequence does, and every request it sends has been allowed. -/
theorem Sequence.upholds {program : C → Program I α} {calls : C → Prop} {begun : σ → σ}
    {post : α → σ → Prop}
    (maintains : ∀ c s, calls c → D.keep s →
      D.keep (begun s) ∧ (program c).Upholds O D post (begun s))
    {s s' : σ} {h : List (Event I)} {t : Thread I α}
    (run : Sequence O program calls begun s h t s') (kept : D.keep s) :
    t.Upholds O D post s' ∧ ∀ request, .sent request ∈ h → ∃ s₁, D.allow s₁ request := by
  have allowed {c : C} {s s' : σ} {events : List (Event I)} {t : Thread I α} (call : calls c)
      (run : Evolves (program c) events t) (kept : D.keep s)
      (follows : Follows O (begun s) events s')
      {request : I.Ask} (sent : .sent request ∈ events) : ∃ s₁, D.allow s₁ request := by
    obtain ⟨before, after, rfl⟩ := List.append_of_mem sent
    obtain ⟨s₁, first, _⟩ := follows_append.mp follows
    obtain ⟨begins, upholds⟩ := maintains c s call kept
    exact ⟨s₁, Emits.allowed ⟨t, run⟩ begins upholds first⟩
  induction run with
  | first call run follows =>
      obtain ⟨begins, upholds⟩ := maintains _ _ call kept
      exact ⟨run.upholds_of_follows begins upholds follows,
        fun request sent => allowed call run kept follows sent⟩
  | next _ ends call run follows ih =>
      obtain ⟨thread, before⟩ := ih kept
      have kept' := ends.keep thread
      obtain ⟨begins, upholds⟩ := maintains _ _ call kept'
      refine ⟨run.upholds_of_follows begins upholds follows, fun request sent => ?_⟩
      rcases List.mem_append.mp sent with sent | sent
      · exact before request sent
      · exact allowed call run kept' follows sent

/-! ## Other observers -/

/-- The observer that admits only these answers. -/
def Observer.restrict (O : Observer I σ) (possible : (request : I.Ask) → I.Answer request → Prop) :
    Observer I σ :=
  { O with
    answered := fun s request answer s' => possible request answer ∧
      O.answered s request answer s' }

/-- Only the answers that are admitted have to be continued from. -/
theorem Permits.restrict {possible : (request : I.Ask) → I.Answer request → Prop}
    {request : I.Ask} {rest : I.Answer request → σ → Prop} {s : σ}
    (permits : Permits O D request (fun answer s' => possible request answer → rest answer s') s) :
    Permits (O.restrict possible) D request rest s := by
  obtain ⟨allowed, sent, lost, answered⟩ := permits
  refine ⟨allowed, sent, lost, fun answer s' reply => ?_⟩
  obtain ⟨kept, here⟩ := answered answer s' reply.2
  exact ⟨kept, here reply.1⟩

/-- History variables: how they follow the requests and the answers, and what they say when a
request is lost. They see the state after an answer or a loss. -/
structure Watch (I : Interface) (σ γ : Type) where
  sent : γ → σ → I.Ask → γ
  answered : γ → (request : I.Ask) → I.Answer request → σ → γ
  lost : γ → I.Ask → σ → γ

/-- The observer, with history variables. -/
def Observer.watched (O : Observer I σ) (W : Watch I σ γ) : Observer I (σ × γ) where
  noted x remark := (O.noted x.1 remark, x.2)
  sent x request := (O.sent x.1 request, W.sent x.2 x.1 request)
  answered x request answer x' :=
    O.answered x.1 request answer x'.1 ∧ x'.2 = W.answered x.2 request answer x'.1
  lost x request x' := O.lost x.1 request x'.1 ∧ x'.2 = W.lost x.2 request x'.1

/-! ## Environments whose answers are determined -/

/-- An environment: its answer to a request, and its state after it. -/
structure Environment (I : Interface) (σ : Type) where
  answer : σ → (request : I.Ask) → I.Answer request × σ

/-- A whole run. -/
structure WholeRun (I : Interface) (α σ : Type) where
  events : List (Event I)
  /-- There is none after a panic. -/
  result : Option α
  state : σ

namespace Program

/-- The run of a program in an environment. -/
def runIn (E : Environment I σ) : Program I α → σ → WholeRun I α σ
  | .done result, s => ⟨[], some result, s⟩
  | .abort, s => ⟨[], none, s⟩
  | .note remark rest, s =>
      let run := rest.runIn E s
      { run with events := .noted remark :: run.events }
  | .ask request next, s =>
      let reply := E.answer s request
      let run := (next reply.1).runIn E reply.2
      { run with events := .sent request :: .answered request reply.1 :: run.events }

/-- What is done with the result changes nothing else of the run. -/
theorem runIn_map (E : Environment I σ) (f : α → β) (p : Program I α) (s : σ) :
    (f <$> p).runIn E s =
      ⟨(p.runIn E s).events, (p.runIn E s).result.map f, (p.runIn E s).state⟩ := by
  induction p generalizing s with
  | done result => rfl
  | abort => rfl
  | note remark rest ih =>
      show Program.runIn E (.note remark (f <$> rest)) s = _
      rw [runIn, ih]
      rfl
  | ask request next ih =>
      show Program.runIn E (.ask request fun answer => f <$> next answer) s = _
      rw [runIn, ih]
      rfl

end Program

/-- The observer that admits the answers of the environment. -/
def Environment.observer (E : Environment I σ) : Observer I σ where
  noted s _ := s
  sent s _ := s
  answered s request answer s' := E.answer s request = (answer, s')
  lost _ _ _ := False

/-- One exchange with the environment. -/
theorem Environment.follows_exchange {E : Environment I σ} {request : I.Ask}
    {answer : I.Answer request} {s s' : σ} {events : List (Event I)}
    (answers : (E.answer s request).1 = answer)
    (rest : Follows E.observer (E.answer s request).2 events s') :
    Follows E.observer s (.sent request :: .answered request answer :: events) s' :=
  .sent request (.answered answer (Prod.ext answers rfl) rest)

/-- The requests of a run. -/
def requests (events : List (Event I)) : List I.Ask :=
  events.filterMap fun
    | .sent request => some request
    | _ => none

/-- **What a program shows there, its run in the environment begins with.** -/
theorem Evolves.prefix_runIn {E : Environment I σ} {p : Program I α} {events : List (Event I)}
    {t : Thread I α} (run : Evolves p events t) {s s' : σ}
    (follows : Follows E.observer s events s') :
    events <+: (p.runIn E s).events := by
  induction run generalizing s with
  | stop p => exact List.nil_prefix
  | note remark _ ih =>
      cases follows with
      | noted _ rest => exact (List.prefix_cons_inj _).mpr (ih rest)
  | send request next => exact (List.prefix_cons_inj _).mpr List.nil_prefix
  | exchange request answer _ ih =>
      cases follows with
      | sent _ rest =>
          cases rest with
          | answered _ reply rest =>
              replace reply : E.answer s request = _ := reply
              rw [Program.runIn, reply]
              exact (List.prefix_cons_inj _).mpr ((List.prefix_cons_inj _).mpr (ih rest))

/-- **What a program returns there, its run in the environment returns.** -/
theorem Returns.runIn_eq {E : Environment I σ} {p : Program I α} {events : List (Event I)} {a : α}
    (run : Returns p events a) {s s' : σ} (follows : Follows E.observer s events s') :
    p.runIn E s = ⟨events, some a, s'⟩ := by
  replace run : Evolves p events (.running (.done a)) := run
  generalize ended : Thread.running (.done a) = t at run
  induction run generalizing s with
  | stop p =>
      cases ended
      cases follows
      rfl
  | note remark _ ih =>
      cases follows with
      | noted _ rest =>
          have rest' := ih rest ended
          replace rest' : Program.runIn E _ s = _ := rest'
          rw [Program.runIn, rest']
  | send request next => cases ended
  | exchange request answer _ ih =>
      cases follows with
      | sent _ rest =>
          cases rest with
          | answered _ reply rest =>
              replace reply : E.answer s request = _ := reply
              rw [Program.runIn, reply, ih rest ended]

end ArkadeEscrow.Interaction
