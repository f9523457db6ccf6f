import ArkadeEscrow.Interaction.Program
import Mathlib.Logic.Function.Basic

/-!
# Many threads over many cells

A service runs programs that are started by calls. Each call has a key, and calls with
different keys run interleaved while those with one key do not overlap. Each key has a
cell, the state that an observer keeps, and each request works on some cell. A crash ends
threads: one that was waiting leaves its request lost, with or without an effect.

`Service.reachable_keep` reduces an invariant of all cells in all reachable worlds to one
program at a time: the program has to uphold a discipline over its own cell that allows it
no request on another cell.
-/

set_option autoImplicit false

namespace ArkadeEscrow.Interaction

/-- Programs started by calls in `C`, over one cell in `σ` for each key in `K`. -/
structure Service (I : Interface) (K C σ α : Type) where
  program : C → Program I α
  key : C → K
  /-- The cell that a request of a call with this key works on. -/
  target : K → I.Ask → K
  observer : Observer I σ
  /-- The cell when a call has begun. -/
  begun : σ → C → σ

/-- The cells, and the calls in progress. -/
structure World (I : Interface) (K σ α : Type) where
  cell : K → σ
  thread : K → Option (Thread I α)

namespace Service

variable {I : Interface} {K C σ α : Type}

/-- The cell that a thread works on next. -/
def focus (S : Service I K C σ α) (k : K) : Thread I α → K
  | .running (.ask request _) => S.target k request
  | .running _ => k
  | .waiting request _ => S.target k request

/-- Every call keeps to its own cell and upholds the discipline of its key. -/
structure Maintains (S : Service I K C σ α) (D : K → Discipline I σ) : Prop where
  own : ∀ k s request, (D k).allow s request → S.target k request = k
  calls : ∀ c s, (D (S.key c)).keep s → (D (S.key c)).keep (S.begun s c) ∧
    (S.program c).Safe S.observer (D (S.key c)) (S.begun s c)

/-- A slot in good order: its cell is kept, and its thread works on this cell only and
upholds the discipline. -/
def InOrder (S : Service I K C σ α) (D : K → Discipline I σ) (k : K) :
    Option (Thread I α) → σ → Prop
  | none, s => (D k).keep s
  | some t, s => t.Upholds S.observer (D k) (fun _ _ => True) s ∧ S.focus k t = k

variable {S : Service I K C σ α} {D : K → Discipline I σ}

theorem InOrder.keep {k : K} {t : Option (Thread I α)} {s : σ} (h : S.InOrder D k t s) :
    (D k).keep s := by
  cases t with
  | none => exact h
  | some t => exact h.1.keep

theorem focus_running (maintains : S.Maintains D) {k : K} {p : Program I α} {s : σ}
    (upholds : (Thread.running p).Upholds S.observer (D k) (fun _ _ => True) s) :
    S.focus k (.running p) = k := by
  cases p with
  | ask request next => exact maintains.own k s request upholds.2.1
  | done result => rfl
  | abort => rfl
  | note remark rest => rfl

variable [DecidableEq K]

/-- One step of one call. -/
inductive Step (S : Service I K C σ α) : World I K σ α → World I K σ α → Prop where
  | start (w : World I K σ α) (c : C) :
      w.thread (S.key c) = none →
      Step S w ⟨Function.update w.cell (S.key c) (S.begun (w.cell (S.key c)) c),
        Function.update w.thread (S.key c) (some (.running (S.program c)))⟩
  | advance (w : World I K σ α) (k : K) {t t' : Thread I α} {s' : σ} :
      w.thread k = some t →
      Interaction.Step S.observer (t, w.cell (S.focus k t)) (t', s') →
      Step S w ⟨Function.update w.cell (S.focus k t) s', Function.update w.thread k (some t')⟩
  /-- A call has returned, or has crashed between two requests. -/
  | stop (w : World I K σ α) (k : K) {p : Program I α} :
      w.thread k = some (.running p) →
      Step S w ⟨w.cell, Function.update w.thread k none⟩
  /-- A call has crashed while it was waiting. -/
  | lose (w : World I K σ α) (k : K) {request : I.Ask} {next : I.Answer request → Program I α}
      {s' : σ} :
      w.thread k = some (.waiting request next) →
      S.observer.lost (w.cell (S.target k request)) request s' →
      Step S w ⟨Function.update w.cell (S.target k request) s', Function.update w.thread k none⟩

/-- The worlds that runs lead to. -/
abbrev Reachable (S : Service I K C σ α) : World I K σ α → World I K σ α → Prop :=
  Relation.ReflTransGen S.Step

/-! ## Runs of one call -/

/-- The observer admits these events and follows them from one state to another. -/
inductive Follows (O : Observer I σ) : σ → List (Event I) → σ → Prop where
  | nil (s : σ) : Follows O s [] s
  | noted {s s' : σ} (remark : I.Note) {events : List (Event I)} :
      Follows O (O.noted s remark) events s' → Follows O s (.noted remark :: events) s'
  | sent {s s' : σ} (request : I.Ask) {events : List (Event I)} :
      Follows O (O.sent s request) events s' → Follows O s (.sent request :: events) s'
  | answered {s s₁ s' : σ} {request : I.Ask} (answer : I.Answer request)
      {events : List (Event I)} : O.answered s request answer s₁ → Follows O s₁ events s' →
        Follows O s (.answered request answer :: events) s'

/-- One step of a thread on its own cell. -/
theorem exists_step (S : Service I K C σ α) {w : World I K σ α} {k : K} {t t' : Thread I α}
    {s' : σ} (present : w.thread k = some t) (own : S.focus k t = k)
    (move : Interaction.Step S.observer (t, w.cell k) (t', s')) :
    ∃ w', S.Step w w' ∧ w'.thread k = some t' ∧ w'.cell k = s' := by
  refine ⟨_, .advance w k present (by rwa [own]), Function.update_self .., ?_⟩
  rw [own]
  exact Function.update_self ..

/-- **What a program can do, the service can do**: a run of one thread, on its own cell and
with answers that the observer admits, is a run of the world. -/
theorem reachable_of_evolves {k : K} {p : Program I α} {events : List (Event I)}
    {t : Thread I α} (run : Evolves p events t)
    (own : ∀ request, .sent request ∈ events → S.target k request = k) :
    ∀ {w : World I K σ α} {s' : σ}, w.thread k = some (.running p) →
      Follows S.observer (w.cell k) events s' →
      ∃ w', S.Reachable w w' ∧ w'.thread k = some t ∧ w'.cell k = s' := by
  induction run with
  | stop p =>
      rintro w s' present ⟨⟩
      exact ⟨w, .refl, present, rfl⟩
  | note remark _ ih =>
      rintro w s' present (_ | ⟨_, follows⟩)
      obtain ⟨w₁, step, present₁, cell₁⟩ := S.exists_step present rfl (.note remark _ _)
      obtain ⟨w', reach, thread, cell⟩ :=
        ih (fun request sent => own request (List.mem_cons_of_mem _ sent)) present₁
          (by rwa [cell₁])
      exact ⟨w', .head step reach, thread, cell⟩
  | send request next =>
      rintro w s' present (_ | _ | ⟨_, ⟨⟩⟩)
      obtain ⟨w', step, thread, cell⟩ :=
        S.exists_step present (own request List.mem_cons_self) (.send request next _)
      exact ⟨w', .single step, thread, cell⟩
  | exchange request answer _ ih =>
      rintro w s' present (_ | _ | ⟨_, _ | _ | _ | ⟨_, reply, follows⟩⟩)
      have mine : S.target _ request = _ := own request List.mem_cons_self
      obtain ⟨w₁, sends, present₁, cell₁⟩ := S.exists_step present mine (.send request _ _)
      obtain ⟨w₂, receives, present₂, cell₂⟩ :=
        S.exists_step present₁ mine (.receive answer (by rwa [cell₁]))
      obtain ⟨w', reach, thread, cell⟩ :=
        ih (fun request sent => own request (by simp [sent])) present₂ (by rwa [cell₂])
      exact ⟨w', .head sends (.head receives reach), thread, cell⟩

/-- A call can start whenever no other call with its key is in progress. -/
theorem reachable_of_call {w : World I K σ α} {c : C} {events : List (Event I)} {t : Thread I α}
    {s' : σ} (free : w.thread (S.key c) = none) (run : Evolves (S.program c) events t)
    (own : ∀ request, .sent request ∈ events → S.target (S.key c) request = S.key c)
    (follows : Follows S.observer (S.begun (w.cell (S.key c)) c) events s') :
    ∃ w', S.Reachable w w' ∧ w'.thread (S.key c) = some t ∧ w'.cell (S.key c) = s' := by
  obtain ⟨w₁, start, present, cell₁⟩ : ∃ w₁, S.Step w w₁ ∧
      w₁.thread (S.key c) = some (.running (S.program c)) ∧
      w₁.cell (S.key c) = S.begun (w.cell (S.key c)) c :=
    ⟨_, .start w c free, Function.update_self .., Function.update_self ..⟩
  obtain ⟨w', reach, thread, cell⟩ := reachable_of_evolves run own present (by rwa [cell₁])
  exact ⟨w', .head start reach, thread, cell⟩

/-! ## The invariant -/

/-- **A step preserves good order in every slot**: in the one that moves, because its thread
upholds the discipline, and in the others, because their cells are not touched. -/
theorem Step.inOrder (maintains : S.Maintains D) {w w' : World I K σ α} (step : S.Step w w')
    (ordered : ∀ k, S.InOrder D k (w.thread k) (w.cell k)) (k : K) :
    S.InOrder D k (w'.thread k) (w'.cell k) := by
  cases step with
  | start c free =>
      have here := ordered (S.key c)
      rw [free] at here
      obtain ⟨kept, safe⟩ := maintains.calls c _ here
      have upholds : (Thread.running (S.program c)).Upholds S.observer (D (S.key c))
        (fun _ _ => True) (S.begun (w.cell (S.key c)) c) := ⟨kept, safe⟩
      by_cases same : k = S.key c
      · subst same
        simp only [Function.update_self]
        exact ⟨upholds, focus_running maintains upholds⟩
      · simp only [Function.update_of_ne same]
        exact ordered k
  | @advance j t t' s' present move =>
      have here := ordered j
      rw [present] at here
      obtain ⟨upholds, focus⟩ := here
      rw [focus] at move ⊢
      have upholds' := move.upholds upholds
      by_cases same : k = j
      · subst same
        simp only [Function.update_self]
        refine ⟨upholds', ?_⟩
        cases move with
        | note remark rest => exact focus_running maintains upholds'
        | send request next => exact focus
        | receive answer reply => exact focus_running maintains upholds'
      · simp only [Function.update_of_ne same]
        exact ordered k
  | @stop j p present =>
      have here := ordered j
      by_cases same : k = j
      · subst same
        simp only [Function.update_self]
        exact here.keep
      · simp only [Function.update_of_ne same]
        exact ordered k
  | @lose j request next s' present lost =>
      have here := ordered j
      rw [present] at here
      obtain ⟨upholds, focus⟩ := here
      replace focus : S.target j request = j := focus
      rw [focus] at lost ⊢
      by_cases same : k = j
      · subst same
        simp only [Function.update_self]
        exact upholds.2.1 s' lost
      · simp only [Function.update_of_ne same]
        exact ordered k

/-- **The invariant rule**: if every call maintains the discipline of its key, every cell is
kept in every world that can be reached from idle, kept cells. -/
theorem reachable_keep (maintains : S.Maintains D) {w w' : World I K σ α}
    (reach : S.Reachable w w') (idle : ∀ k, w.thread k = none)
    (kept : ∀ k, (D k).keep (w.cell k)) (k : K) : (D k).keep (w'.cell k) := by
  have start : ∀ k, S.InOrder D k (w.thread k) (w.cell k) := by
    intro k
    rw [idle k]
    exact kept k
  have ordered : ∀ k, S.InOrder D k (w'.thread k) (w'.cell k) := by
    induction reach with
    | refl => exact start
    | tail _ step ih => exact step.inOrder maintains ih
  exact (ordered k).keep

end Service

end ArkadeEscrow.Interaction
