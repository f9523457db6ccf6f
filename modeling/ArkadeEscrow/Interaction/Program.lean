import Mathlib.Logic.Relation

/-!
# Programs that ask their environment

A program runs by itself until it needs something from outside: it then asks a request
and continues with whatever answer comes back. Nothing is assumed about the answers, so
a property of every run of a program is a property against every environment.

A program is a finite tree. A leaf is a result (`done`) or a panic (`abort`), a node is a
remark made for an observer (`note`) or a request with one subtree for each answer
(`ask`). `Evolves` relates a program to the events of a run that has been going on for
some time and to the thread that is left, so its event lists are exactly the prefixes of
runs: a crash at any point is one of them.

`Upholds` is the rule of pre- and postconditions. A discipline says which requests are
allowed in a state of the observer and what every state reached must satisfy. The
observer decides which answers are possible, and it can be a plain record of the events
(`historian`) or a world with its own state.
-/

set_option autoImplicit false

namespace ArkadeEscrow.Interaction

/-- What a program exchanges with its environment: remarks, requests, and the type of the
answers to each request. -/
structure Interface where
  Note : Type
  Ask : Type
  Answer : Ask → Type

/-- A program over an interface, with results in `α`. -/
inductive Program (I : Interface) (α : Type) where
  | done (result : α)
  | abort
  | note (remark : I.Note) (rest : Program I α)
  | ask (request : I.Ask) (next : I.Answer request → Program I α)

/-- What an onlooker sees of a run. -/
inductive Event (I : Interface) where
  | noted (remark : I.Note)
  | sent (request : I.Ask)
  | answered (request : I.Ask) (answer : I.Answer request)

variable {I : Interface} {α β γ σ ε : Type}

namespace Program

/-- Sequencing: the second program replaces the results of the first. -/
def bind : Program I α → (α → Program I β) → Program I β
  | .done result, f => f result
  | .abort, _ => .abort
  | .note remark rest, f => .note remark (bind rest f)
  | .ask request next, f => .ask request fun answer => bind (next answer) f

instance : Monad (Program I) where
  pure := .done
  bind := bind

theorem bind_done (p : Program I α) : bind p .done = p := by
  induction p with
  | done result => rfl
  | abort => rfl
  | note remark rest ih => simp only [bind, ih]
  | ask request next ih => simp only [bind, ih]

theorem bind_bind (p : Program I α) (f : α → Program I β) (g : β → Program I γ) :
    bind (bind p f) g = bind p fun a => bind (f a) g := by
  induction p with
  | done result => rfl
  | abort => rfl
  | note remark rest ih => simp only [bind, ih]
  | ask request next ih => simp only [bind, ih]

instance : LawfulMonad (Program I) :=
  LawfulMonad.mk' _ bind_done (fun _ _ => rfl) bind_bind

/-- Ask one request and return its answer. -/
def request (q : I.Ask) : Program I (I.Answer q) := .ask q .done

/-- Make one remark. -/
def remark (n : I.Note) : Program I Unit := .note n (.done ())

end Program

/-- A program in the middle of a run: about to go on, or waiting for an answer. -/
inductive Thread (I : Interface) (α : Type) where
  | running (program : Program I α)
  | waiting (request : I.Ask) (next : I.Answer request → Program I α)

/-- A run of the program that has shown these events has left this thread. -/
inductive Evolves : Program I α → List (Event I) → Thread I α → Prop where
  | stop (p : Program I α) : Evolves p [] (.running p)
  | note (remark : I.Note) {rest : Program I α} {events : List (Event I)} {t : Thread I α} :
      Evolves rest events t → Evolves (.note remark rest) (.noted remark :: events) t
  | send (request : I.Ask) (next : I.Answer request → Program I α) :
      Evolves (.ask request next) [.sent request] (.waiting request next)
  | exchange (request : I.Ask) {next : I.Answer request → Program I α}
      (answer : I.Answer request) {events : List (Event I)} {t : Thread I α} :
      Evolves (next answer) events t →
        Evolves (.ask request next) (.sent request :: .answered request answer :: events) t

/-- The events of a run so far: a prefix of the events of some run. -/
def Emits (p : Program I α) (events : List (Event I)) : Prop := ∃ t, Evolves p events t

namespace Emits

theorem nil (p : Program I α) : Emits p [] := ⟨_, .stop p⟩

theorem note {remark : I.Note} {rest : Program I α} {events : List (Event I)}
    (h : Emits rest events) : Emits (.note remark rest) (.noted remark :: events) :=
  h.imp fun _ => .note remark

theorem send (request : I.Ask) (next : I.Answer request → Program I α) :
    Emits (.ask request next) [.sent request] := ⟨_, .send request next⟩

theorem exchange {request : I.Ask} {next : I.Answer request → Program I α}
    {answer : I.Answer request} {events : List (Event I)} (h : Emits (next answer) events) :
    Emits (.ask request next) (.sent request :: .answered request answer :: events) :=
  h.imp fun _ => .exchange request answer

end Emits

/-- A run that shows these events and goes on as another program. -/
theorem Evolves.trans {p p' : Program I α} {events events' : List (Event I)} {t : Thread I α}
    (run : Evolves p events (.running p')) (rest : Evolves p' events' t) :
    Evolves p (events ++ events') t := by
  generalize middle : Thread.running p' = u at run
  induction run with
  | stop p =>
      cases middle
      exact rest
  | note remark _ ih => exact .note remark (ih middle)
  | send request next => cases middle
  | exchange request answer _ ih => exact .exchange request answer (ih middle)

/-- The events of a run determine its thread. -/
theorem Evolves.unique {p : Program I α} {events : List (Event I)} {t t' : Thread I α}
    (run : Evolves p events t) (run' : Evolves p events t') : t = t' := by
  induction run with
  | stop p =>
      cases run'
      rfl
  | note remark _ ih =>
      cases run' with
      | note _ rest => exact ih rest
  | send request next =>
      cases run'
      rfl
  | exchange request answer _ ih =>
      cases run' with
      | exchange _ _ rest => exact ih rest

/-- A run that ends with a request waits for the answer. -/
theorem Evolves.waits {p : Program I α} {all events : List (Event I)} {t : Thread I α}
    {request : I.Ask} (run : Evolves p all t) (last : all = events ++ [.sent request]) :
    ∃ next, t = .waiting request next := by
  induction run generalizing events with
  | stop p => simp at last
  | note remark _ ih =>
      cases events with
      | nil => simp at last
      | cons event events => exact ih (List.cons.inj last).2
  | send request' next =>
      cases events with
      | nil =>
          cases last
          exact ⟨next, rfl⟩
      | cons event events => simp at last
  | exchange request' answer _ ih =>
      rcases events with _ | ⟨event, _ | ⟨event', events⟩⟩
      · simp at last
      · simp at last
      · exact ih (List.cons.inj (List.cons.inj last).2).2

theorem Evolves.bind {p p' : Program I α} {events : List (Event I)}
    (run : Evolves p events (.running p')) (f : α → Program I β) :
    Evolves (p >>= f) events (.running (p' >>= f)) := by
  generalize middle : Thread.running p' = u at run
  induction run with
  | stop p =>
      cases middle
      exact .stop _
  | note remark _ ih => exact .note remark (ih middle)
  | send request next => cases middle
  | exchange request answer _ ih => exact .exchange request answer (ih middle)

/-- The program can return this result after these events. -/
def Returns (p : Program I α) (events : List (Event I)) (a : α) : Prop :=
  Evolves p events (.running (.done a))

namespace Returns

theorem done (a : α) : Returns (.done a : Program I α) [] a := .stop _

theorem request (q : I.Ask) (answer : I.Answer q) :
    Returns (Program.request q) [.sent q, .answered q answer] answer :=
  .exchange q answer (.stop _)

theorem bind {p : Program I α} {f : α → Program I β} {events events' : List (Event I)} {a : α}
    {b : β} (first : Returns p events a) (rest : Returns (f a) events' b) :
    Returns (p >>= f) (events ++ events') b :=
  (Evolves.bind first f).trans rest

theorem map {p : Program I α} {events : List (Event I)} {a : α} (h : Returns p events a)
    (f : α → β) : Returns (f <$> p) events (f a) := by
  have mapped : Returns (p >>= fun a => .done (f a)) (events ++ []) (f a) := h.bind (.done _)
  rwa [List.append_nil] at mapped

theorem emits_bind {p : Program I α} {f : α → Program I β} {events events' : List (Event I)}
    {a : α} (first : Returns p events a) (rest : Emits (f a) events') :
    Emits (p >>= f) (events ++ events') :=
  rest.imp fun _ run => (Evolves.bind first f).trans run

end Returns

/-- A run can stop at any point. -/
theorem Emits.of_prefix {p : Program I α} {events all : List (Event I)} (run : Emits p all)
    (before : events <+: all) : Emits p events := by
  obtain ⟨t, run⟩ := run
  induction run generalizing events with
  | stop p =>
      rw [List.prefix_nil.mp before]
      exact .nil p
  | note remark _ ih =>
      rcases List.prefix_cons_iff.mp before with rfl | ⟨rest, rfl, before'⟩
      · exact .nil _
      · exact (ih before').note
  | send request next =>
      rcases List.prefix_cons_iff.mp before with rfl | ⟨rest, rfl, before'⟩
      · exact .nil _
      · rw [List.prefix_nil.mp before']
        exact .send request next
  | exchange request answer _ ih =>
      rcases List.prefix_cons_iff.mp before with rfl | ⟨rest, rfl, before'⟩
      · exact .nil _
      · rcases List.prefix_cons_iff.mp before' with rfl | ⟨rest', rfl, before''⟩
        · exact .send request _
        · exact (ih before'').exchange

/-- What a program emits, it emits before any continuation. -/
theorem Emits.bind {p : Program I α} {events : List (Event I)} (run : Emits p events)
    (f : α → Program I β) : Emits (p >>= f) events := by
  obtain ⟨t, run⟩ := run
  induction run with
  | stop p => exact .nil _
  | note remark _ ih => exact ih.note
  | send request next => exact .send request _
  | exchange request answer _ ih => exact ih.exchange

/-- Whatever the answers, the run comes to a request in `goal`: it neither ends nor panics
before. -/
inductive Inevitable (goal : I.Ask → Prop) : Program I α → Prop where
  | here {request : I.Ask} (next : I.Answer request → Program I α) :
      goal request → Inevitable goal (.ask request next)
  | note (remark : I.Note) {rest : Program I α} :
      Inevitable goal rest → Inevitable goal (.note remark rest)
  | ask {request : I.Ask} {next : I.Answer request → Program I α} :
      (∀ answer, Inevitable goal (next answer)) → Inevitable goal (.ask request next)

theorem Inevitable.mono {goal goal' : I.Ask → Prop}
    {p : Program I α} (comes : Inevitable goal p) (weaken : ∀ q, goal q → goal' q) :
    Inevitable goal' p := by
  induction comes with
  | here next member => exact .here next (weaken _ member)
  | note remark _ ih => exact .note remark ih
  | ask _ ih => exact .ask ih

/-! ## Observers and disciplines -/

/-- How the state of an observer follows the events, and which answers it admits. `lost`
relates the state of a request in flight to the states left if the program dies before
the answer arrives. -/
structure Observer (I : Interface) (σ : Type) where
  noted : σ → I.Note → σ
  sent : σ → I.Ask → σ
  answered : σ → (request : I.Ask) → I.Answer request → σ → Prop
  lost : σ → I.Ask → σ → Prop

/-- Which requests may be sent in a state, and what holds of every state reached. -/
structure Discipline (I : Interface) (σ : Type) where
  allow : σ → I.Ask → Prop
  keep : σ → Prop

/-- The discipline permits the request in the state `s`, and whatever the answer, the state
after it is kept and satisfies `rest`. -/
def Permits (O : Observer I σ) (D : Discipline I σ) (request : I.Ask)
    (rest : I.Answer request → σ → Prop) (s : σ) : Prop :=
  D.allow s request ∧ D.keep (O.sent s request) ∧
    (∀ s', O.lost (O.sent s request) request s' → D.keep s') ∧
      ∀ answer s', O.answered (O.sent s request) request answer s' → D.keep s' ∧ rest answer s'

theorem Permits.mono {O : Observer I σ} {D : Discipline I σ} {request : I.Ask}
    {rest rest' : I.Answer request → σ → Prop} {s : σ} (h : Permits O D request rest s)
    (weaken : ∀ answer s', rest answer s' → rest' answer s') : Permits O D request rest' s := by
  obtain ⟨allowed, sent, lost, answered⟩ := h
  refine ⟨allowed, sent, lost, fun answer s' reply => ?_⟩
  obtain ⟨kept, here⟩ := answered answer s' reply
  exact ⟨kept, weaken answer s' here⟩

namespace Program

variable (O : Observer I σ) (D : Discipline I σ)

/-- From the state `s` the program sends only allowed requests, every state reached is
kept, and a result is returned in a state that satisfies `post`. -/
def Upholds (post : α → σ → Prop) : Program I α → σ → Prop
  | .done result, s => post result s
  | .abort, _ => True
  | .note remark rest, s => D.keep (O.noted s remark) ∧ Upholds post rest (O.noted s remark)
  | .ask request next, s => Permits O D request (fun answer => Upholds post (next answer)) s

variable {O D}

theorem Upholds.mono {post post' : α → σ → Prop} {p : Program I α} {s : σ}
    (h : p.Upholds O D post s) (weaken : ∀ a s, post a s → post' a s) :
    p.Upholds O D post' s := by
  induction p generalizing s with
  | done result => exact weaken _ _ h
  | abort => trivial
  | note remark rest ih => exact ⟨h.1, ih h.2⟩
  | ask request next ih => exact Permits.mono h fun answer s' rest => ih answer rest

/-- **The rule of sequencing.** -/
theorem upholds_bind {post : β → σ → Prop} {p : Program I α} {f : α → Program I β} {s : σ} :
    (p >>= f).Upholds O D post s ↔ p.Upholds O D (fun a => (f a).Upholds O D post) s := by
  show (Program.bind p f).Upholds O D post s ↔ _
  induction p generalizing s with
  | done result => rfl
  | abort => rfl
  | note remark rest ih => simp only [Program.bind, Upholds, ih]
  | ask request next ih =>
      simp only [Program.bind, Upholds]
      constructor
      · exact fun h => h.mono fun answer s' rest => (ih answer).mp rest
      · exact fun h => h.mono fun answer s' rest => (ih answer).mpr rest

variable (O D) in
/-- The program upholds the discipline, whatever it returns. -/
abbrev Safe (p : Program I α) (s : σ) : Prop := p.Upholds O D (fun _ _ => True) s

/-- Every result that the program may return satisfies `P`. -/
def Yields (P : α → Prop) : Program I α → Prop
  | .done result => P result
  | .abort => True
  | .note _ rest => Yields P rest
  | .ask _ next => ∀ answer, Yields P (next answer)

theorem Yields.bind {P : β → Prop} {p : Program I α} {f : α → Program I β}
    (rest : ∀ a, (f a).Yields P) : (p >>= f).Yields P := by
  induction p with
  | done result => exact rest result
  | abort => trivial
  | note remark _ ih => exact ih
  | ask request next ih => exact ih

/-- What a program yields adds to what it upholds. -/
theorem Upholds.yields {post : α → σ → Prop} {P : α → Prop} {p : Program I α} {s : σ}
    (h : p.Upholds O D post s) (yields : p.Yields P) :
    p.Upholds O D (fun a s' => P a ∧ post a s') s := by
  induction p generalizing s with
  | done result => exact ⟨yields, h⟩
  | abort => trivial
  | note remark rest ih => exact ⟨h.1, ih h.2 yields⟩
  | ask request next ih =>
      exact Permits.mono h fun answer s' rest => ih answer rest (yields answer)

/-- Every request the program may ever send is in the set, and it makes no remarks. -/
inductive Confined (asks : I.Ask → Prop) : Program I α → Prop where
  | done (result : α) : Confined asks (.done result)
  | abort : Confined asks .abort
  | ask {request : I.Ask} {next : I.Answer request → Program I α} :
      asks request → (∀ answer, Confined asks (next answer)) → Confined asks (.ask request next)

namespace Confined

theorem request {asks : I.Ask → Prop} {q : I.Ask} (member : asks q) :
    Confined asks (Program.request q) :=
  .ask member fun answer => .done answer

theorem mono {asks asks' : I.Ask → Prop} {p : Program I α} (h : Confined asks p)
    (weaken : ∀ q, asks q → asks' q) : Confined asks' p := by
  induction h with
  | done result => exact .done result
  | abort => exact .abort
  | ask member _ ih => exact .ask (weaken _ member) ih

theorem bind {asks : I.Ask → Prop} {p : Program I α} {f : α → Program I β}
    (first : Confined asks p) (rest : ∀ a, Confined asks (f a)) : Confined asks (p >>= f) := by
  induction first with
  | done result => exact rest result
  | abort => exact .abort
  | ask member _ ih => exact .ask member ih

theorem map {asks : I.Ask → Prop} {p : Program I α} (h : Confined asks p) (f : α → β) :
    Confined asks (f <$> p) :=
  h.bind fun a => .done (f a)

/-- **The rule of a stable assertion**: a program confined to requests that are permitted
under an assertion and lead back to it keeps the assertion. -/
theorem upholds {asks : I.Ask → Prop} {p : Program I α} {J : σ → Prop}
    {post : α → σ → Prop} (confined : Confined asks p)
    (stable : ∀ request s, asks request → J s → Permits O D request (fun _ => J) s)
    (finish : ∀ a s, J s → post a s) {s : σ} (start : J s) : p.Upholds O D post s := by
  induction confined generalizing s with
  | done result => exact finish result s start
  | abort => trivial
  | ask member _ ih =>
      exact (stable _ s member start).mono fun answer s' here => ih answer here

end Confined

end Program

/-- The thread of a program that upholds a discipline upholds it too. -/
def Thread.Upholds (O : Observer I σ) (D : Discipline I σ) (post : α → σ → Prop) :
    Thread I α → σ → Prop
  | .running p, s => D.keep s ∧ p.Upholds O D post s
  | .waiting request next, s =>
      D.keep s ∧ (∀ s', O.lost s request s' → D.keep s') ∧
        ∀ answer s', O.answered s request answer s' →
          D.keep s' ∧ (next answer).Upholds O D post s'

theorem Thread.Upholds.keep {O : Observer I σ} {D : Discipline I σ} {post : α → σ → Prop}
    {t : Thread I α} {s : σ} (h : t.Upholds O D post s) : D.keep s := by
  cases t with
  | running p => exact h.1
  | waiting request next => exact h.1

/-- One step of a thread under the eyes of an observer. -/
inductive Step (O : Observer I σ) : Thread I α × σ → Thread I α × σ → Prop where
  | note (remark : I.Note) (rest : Program I α) (s : σ) :
      Step O (.running (.note remark rest), s) (.running rest, O.noted s remark)
  | send (request : I.Ask) (next : I.Answer request → Program I α) (s : σ) :
      Step O (.running (.ask request next), s) (.waiting request next, O.sent s request)
  | receive {request : I.Ask} {next : I.Answer request → Program I α} {s s' : σ}
      (answer : I.Answer request) :
      O.answered s request answer s' →
        Step O (.waiting request next, s) (.running (next answer), s')

/-- **A step preserves what the thread upholds.** -/
theorem Step.upholds {O : Observer I σ} {D : Discipline I σ} {post : α → σ → Prop}
    {t t' : Thread I α} {s s' : σ} (step : Step O (t, s) (t', s'))
    (h : t.Upholds O D post s) : t'.Upholds O D post s' := by
  cases step with
  | note remark rest => exact h.2
  | send request next => exact h.2.2
  | receive answer reply => exact h.2.2 answer s' reply

/-! ## The history of a run -/

/-- The observer that writes down every event and admits every answer. -/
def historian (I : Interface) : Observer I (List (Event I)) where
  noted h remark := h ++ [.noted remark]
  sent h request := h ++ [.sent request]
  answered h request answer h' := h' = h ++ [.answered request answer]
  lost _ _ _ := False

@[simp] theorem historian_noted (h : List (Event I)) (remark : I.Note) :
    (historian I).noted h remark = h ++ [.noted remark] := rfl

/-- The discipline that only restricts requests. -/
def Discipline.guard (allow : List (Event I) → I.Ask → Prop) : Discipline I (List (Event I)) where
  allow := allow
  keep _ := True

theorem permits_historian {allow : List (Event I) → I.Ask → Prop} {request : I.Ask}
    {rest : I.Answer request → List (Event I) → Prop} {h : List (Event I)}
    (allowed : allow h request)
    (answered : ∀ answer, rest answer (h ++ [.sent request, .answered request answer])) :
    Permits (historian I) (.guard allow) request rest h := by
  refine ⟨allowed, trivial, fun _ _ => trivial, fun answer h' reply => ⟨trivial, ?_⟩⟩
  have history : h' = h ++ [.sent request, .answered request answer] := by
    simpa [historian] using reply
  exact history ▸ answered answer

/-- Every request of the history was allowed after what had happened before it. -/
def Guarded (allow : List (Event I) → I.Ask → Prop) (events : List (Event I)) : Prop :=
  ∀ before request after, events = before ++ .sent request :: after → allow before request

/-- **A run of a program that upholds a discipline keeps it, and sends only what is
allowed.** The induction is on the run, and the history so far is the observer's state. -/
theorem Evolves.upholds {D : Discipline I (List (Event I))}
    {post : α → List (Event I) → Prop} {p : Program I α} {events : List (Event I)}
    {t : Thread I α} (run : Evolves p events t) :
    ∀ {h : List (Event I)}, D.keep h → p.Upholds (historian I) D post h →
      t.Upholds (historian I) D post (h ++ events) ∧
        ∀ before request after, events = before ++ .sent request :: after →
          D.allow (h ++ before) request := by
  induction run with
  | stop p =>
      intro h kept upholds
      exact ⟨by simpa using ⟨kept, upholds⟩, by simp⟩
  | note remark _ ih =>
      intro h _ upholds
      obtain ⟨thread, allowed⟩ := ih upholds.1 upholds.2
      refine ⟨by simpa [historian] using thread, ?_⟩
      intro before request after split
      cases before with
      | nil => simp at split
      | cons first before =>
          simp only [List.cons_append, List.cons.injEq] at split
          obtain ⟨rfl, split⟩ := split
          simpa [historian] using allowed before request after split
  | send request next =>
      intro h _ upholds
      refine ⟨upholds.2, ?_⟩
      intro before request' after split
      cases before with
      | nil =>
          simp only [List.nil_append, List.cons.injEq, Event.sent.injEq] at split
          obtain ⟨rfl, _⟩ := split
          simpa using upholds.1
      | cons first before => simp at split
  | exchange request answer _ ih =>
      intro h _ upholds
      obtain ⟨here, _, _, answered⟩ := upholds
      obtain ⟨kept, rest⟩ := answered answer _ rfl
      obtain ⟨thread, allowed⟩ := ih kept rest
      refine ⟨by simpa [historian] using thread, ?_⟩
      intro before request' after split
      rcases before with _ | ⟨first, _ | ⟨second, before⟩⟩
      · simp only [List.nil_append, List.cons.injEq, Event.sent.injEq] at split
        obtain ⟨rfl, _⟩ := split
        simpa using here
      · simp at split
      · simp only [List.cons_append, List.cons.injEq] at split
        obtain ⟨rfl, rfl, split⟩ := split
        simpa [historian] using allowed before request' after split

/-- Every request in the history of a safe program was allowed. -/
theorem Emits.guarded {D : Discipline I (List (Event I))} {p : Program I α}
    {events : List (Event I)} (run : Emits p events) (start : D.keep [])
    (safe : p.Safe (historian I) D []) : Guarded D.allow events := by
  obtain ⟨t, run⟩ := run
  intro before request after split
  simpa using (run.upholds start safe).2 before request after split

/-! ## Fallible programs -/

/-- A program that returns a result or an error. -/
abbrev Fallible (I : Interface) (ε α : Type) := ExceptT ε (Program I) α

namespace Fallible

/-- The outcome of a fallible program as a value: its error no longer propagates. A panic
still does. -/
def attempt (x : Fallible I ε α) : Fallible I ε (Except ε α) := ExceptT.lift x.run

/-- A panic. -/
def abort : Fallible I ε α := ExceptT.mk .abort

/-- A computation of the program's own. -/
def check (r : Except ε α) : Fallible I ε α := ExceptT.mk (.done r)

/-- The program can return this result, and not an error, after these events. -/
def Returns (x : Fallible I ε α) (events : List (Event I)) (a : α) : Prop :=
  Interaction.Returns x.run events (.ok a)

namespace Returns

theorem bind {x : Fallible I ε α} {f : α → Fallible I ε β} {events events' : List (Event I)}
    {a : α} {b : β} (first : Returns x events a) (rest : Returns (f a) events' b) :
    Returns (x >>= f) (events ++ events') b := by
  rw [Returns, ExceptT.run_bind]
  exact Interaction.Returns.bind first rest

theorem attempt {x : Fallible I ε α} {events : List (Event I)} {a : α}
    (h : Returns x events a) : Returns x.attempt events (.ok a) :=
  Interaction.Returns.map h _

theorem map {x : Fallible I ε α} {events : List (Event I)} {a : α} (h : Returns x events a)
    (f : α → β) : Returns (f <$> x) events (f a) := by
  rw [Returns, ExceptT.run_map]
  exact Interaction.Returns.map h _

theorem emits_bind {x : Fallible I ε α} {f : α → Fallible I ε β} {events events' : List (Event I)}
    {a : α} (first : Returns x events a) (rest : Emits (f a).run events') :
    Emits (x >>= f).run (events ++ events') := by
  rw [ExceptT.run_bind]
  exact Interaction.Returns.emits_bind first rest

/-- A run that has got through the first program and stands before the second. -/
theorem evolves_bind {x : Fallible I ε α} {f : α → Fallible I ε β} {events : List (Event I)}
    {a : α} (first : Returns x events a) : Evolves (x >>= f).run events (.running (f a).run) := by
  rw [ExceptT.run_bind]
  exact Evolves.bind first _

end Returns

theorem run_attempt_bind {x : Fallible I ε α} {f : Except ε α → Fallible I ε β} :
    (x.attempt >>= f).run = x.run >>= fun r => (f r).run := by
  rw [ExceptT.run_bind]
  show (x.run >>= fun r => .done (Except.ok r)) >>= _ = _
  rw [bind_assoc]
  rfl

theorem check_ok_bind {a : α} {f : α → Fallible I ε β} : (check (.ok a) >>= f) = f a := rfl

/-- A run that stands inside an attempt. -/
theorem evolves_attempt_bind {x : Fallible I ε α} {f : Except ε α → Fallible I ε β}
    {events : List (Event I)} {p : Program I (Except ε α)}
    (run : Evolves x.run events (.running p)) :
    Evolves (x.attempt >>= f).run events (.running (p >>= fun r => (f r).run)) := by
  rw [run_attempt_bind]
  exact Evolves.bind run _

variable {O : Observer I σ} {D : Discipline I σ}

/-- The rule of sequencing for fallible programs: an error skips the continuation. -/
theorem upholds_bind {post : Except ε β → σ → Prop} {x : Fallible I ε α}
    {f : α → Fallible I ε β} {s : σ} :
    Program.Upholds O D post (x >>= f).run s ↔
      Program.Upholds O D (fun r s => match r with
        | .ok a => Program.Upholds O D post (f a).run s
        | .error e => post (.error e) s) x.run s := by
  rw [ExceptT.run_bind, Program.upholds_bind]
  constructor
  all_goals
    intro upholds
    refine upholds.mono fun r s result => ?_
    cases r with
    | ok a => exact result
    | error e => exact result

/-- An error ends the program, so only what follows a result has to be safe. -/
theorem safe_bind {x : Fallible I ε α} {f : α → Fallible I ε β} {s : σ} :
    Program.Safe O D (x >>= f).run s ↔
      Program.Upholds O D (fun r s => ∀ a, r = .ok a → Program.Safe O D (f a).run s) x.run s := by
  rw [Program.Safe, upholds_bind]
  constructor
  · intro upholds
    refine upholds.mono fun r s rest a same => ?_
    subst same
    exact rest
  · intro upholds
    refine upholds.mono fun r s rest => ?_
    cases r with
    | ok a => exact rest a rfl
    | error e => trivial

variable (O D) in
/-- The program upholds the discipline, and what it returns satisfies `post`. Nothing is said
of the state in which it fails. -/
abbrev Achieves (post : α → σ → Prop) (x : Fallible I ε α) (s : σ) : Prop :=
  Program.Upholds O D (fun r s' => ∀ a, r = .ok a → post a s') x.run s

theorem achieves_bind {post : β → σ → Prop} {x : Fallible I ε α} {f : α → Fallible I ε β}
    {s : σ} :
    Achieves O D post (x >>= f) s ↔ Achieves O D (fun a => Achieves O D post (f a)) x s := by
  rw [Achieves, upholds_bind]
  constructor
  · intro upholds
    refine upholds.mono fun r s rest a same => ?_
    subst same
    exact rest
  · intro upholds
    refine upholds.mono fun r s rest => ?_
    cases r with
    | ok a => exact rest a rfl
    | error e =>
        rintro a ⟨⟩

theorem achieves_map {post : β → σ → Prop} {x : Fallible I ε α} {f : α → β} {s : σ} :
    Achieves O D post (f <$> x) s ↔ Achieves O D (fun a => post (f a)) x s := by
  rw [map_eq_pure_bind, achieves_bind]
  constructor
  · exact fun achieves => achieves.mono fun r s result a same => result a same (f a) rfl
  · intro achieves
    refine achieves.mono fun r s result a same b mapped => ?_
    cases mapped
    exact result a same

/-- A safe program, when all that it returns satisfies `post`. -/
theorem achieves_of_safe {x : Fallible I ε α} {s : σ} (safe : Program.Safe O D x.run s)
    {post : α → σ → Prop} (all : ∀ a s', post a s') : Achieves O D post x s :=
  safe.mono fun _ s' _ a _ => all a s'

theorem Achieves.safe {post : α → σ → Prop} {x : Fallible I ε α} {s : σ}
    (achieves : Achieves O D post x s) : Program.Safe O D x.run s :=
  achieves.mono fun _ _ _ => trivial

theorem yields_bind {P : Except ε β → Prop} {x : Fallible I ε α} {f : α → Fallible I ε β}
    (rest : ∀ a, (f a).run.Yields P) (fail : ∀ e, P (.error e)) : (x >>= f).run.Yields P := by
  rw [ExceptT.run_bind]
  refine Program.Yields.bind fun r => ?_
  cases r with
  | ok a => exact rest a
  | error e => exact fail e

theorem confined_bind {asks : I.Ask → Prop} {x : Fallible I ε α} {f : α → Fallible I ε β}
    (first : Program.Confined asks x.run) (rest : ∀ a, Program.Confined asks (f a).run) :
    Program.Confined asks (x >>= f).run := by
  rw [ExceptT.run_bind]
  refine first.bind fun r => ?_
  cases r with
  | ok a => exact rest a
  | error e => exact .done _

theorem confined_attempt {asks : I.Ask → Prop} {x : Fallible I ε α}
    (h : Program.Confined asks x.run) : Program.Confined asks x.attempt.run :=
  h.bind fun r => .done (Except.ok r)

theorem upholds_attempt {post : Except ε (Except ε α) → σ → Prop} {x : Fallible I ε α} {s : σ} :
    Program.Upholds O D post x.attempt.run s ↔
      Program.Upholds O D (fun r => post (.ok r)) x.run s := by
  show Program.Upholds O D post (x.run >>= fun r => .done (.ok r)) s ↔ _
  rw [Program.upholds_bind]
  rfl

end Fallible

end ArkadeEscrow.Interaction
