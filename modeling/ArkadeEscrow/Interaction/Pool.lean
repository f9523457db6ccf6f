import ArkadeEscrow.Interaction.Sequence
import Mathlib.Logic.Function.Basic

/-!
# Many threads over one shared state

Threads are started by calls and run interleaved. Each request works on the shared state when
it is answered, in one step, and may be lost with or without an effect. What a thread knows is
only what it has been answered: other threads change the shared state under it. So its
discipline is about its own memory (`Pool.memory`), and `Run.inOrder` says that in every run
every thread keeps it.
-/

set_option autoImplicit false

namespace ArkadeEscrow.Interaction

open Service (Follows)

variable {I : Interface} {ι C σ γ α : Type}

/-- Programs started by calls in `C`, and what their threads remember. -/
structure Pool (I : Interface) (C σ γ α : Type) where
  program : C → Program I α
  /-- The observer of the shared state. -/
  observer : Observer I σ
  /-- What a thread remembers at first. -/
  begun : γ
  /-- What it remembers after an answer. -/
  learn : γ → (request : I.Ask) → I.Answer request → γ

namespace Pool

/-- The shared state, and the threads with their memories. -/
structure World (I : Interface) (ι σ γ α : Type) where
  shared : σ
  thread : ι → Option (Thread I α × γ)

/-- The observer of a memory. -/
def memory (P : Pool I C σ γ α) : Observer I γ where
  noted g _ := g
  sent g _ := g
  answered g request answer g' := g' = P.learn g request answer
  lost _ _ _ := False

namespace World

variable [DecidableEq ι]

/-- One thread and the shared state change. -/
def put (w : World I ι σ γ α) (i : ι) (s : σ) (slot : Option (Thread I α × γ)) : World I ι σ γ α :=
  ⟨s, Function.update w.thread i slot⟩

@[simp] theorem put_shared (w : World I ι σ γ α) (i : ι) (s : σ) (slot : Option (Thread I α × γ)) :
    (w.put i s slot).shared = s := rfl

@[simp] theorem put_thread_self (w : World I ι σ γ α) (i : ι) (s : σ)
    (slot : Option (Thread I α × γ)) : (w.put i s slot).thread i = slot :=
  Function.update_self ..

theorem put_thread_of_ne (w : World I ι σ γ α) {i j : ι} (other : j ≠ i) (s : σ)
    (slot : Option (Thread I α × γ)) : (w.put i s slot).thread j = w.thread j :=
  Function.update_of_ne other ..

@[simp] theorem put_put (w : World I ι σ γ α) (i : ι) (s s' : σ)
    (slot slot' : Option (Thread I α × γ)) :
    (w.put i s slot).put i s' slot' = w.put i s' slot' := by
  simp [put]

theorem put_eq_self {w : World I ι σ γ α} {i : ι} {slot : Option (Thread I α × γ)}
    (present : w.thread i = slot) : w.put i w.shared slot = w := by
  rw [put, ← present, Function.update_eq_self]

end World

variable [DecidableEq ι] (P : Pool I C σ γ α)

/-- One step of one thread. -/
inductive Step (i : ι) : World I ι σ γ α → World I ι σ γ α → Prop where
  | start (w : World I ι σ γ α) (c : C) : w.thread i = none →
      Step i w (w.put i w.shared (some (.running (P.program c), P.begun)))
  | note (w : World I ι σ γ α) {remark : I.Note} {rest : Program I α} {g : γ} :
      w.thread i = some (.running (.note remark rest), g) →
      Step i w (w.put i (P.observer.noted w.shared remark) (some (.running rest, g)))
  | send (w : World I ι σ γ α) {request : I.Ask} {next : I.Answer request → Program I α} {g : γ} :
      w.thread i = some (.running (.ask request next), g) →
      Step i w (w.put i (P.observer.sent w.shared request) (some (.waiting request next, g)))
  | receive (w : World I ι σ γ α) {request : I.Ask} {next : I.Answer request → Program I α} {g : γ}
      {s' : σ} (answer : I.Answer request) : w.thread i = some (.waiting request next, g) →
      P.observer.answered w.shared request answer s' →
      Step i w (w.put i s' (some (.running (next answer), P.learn g request answer)))
  /-- A thread has returned, or has crashed between two requests. -/
  | stop (w : World I ι σ γ α) {p : Program I α} {g : γ} : w.thread i = some (.running p, g) →
      Step i w (w.put i w.shared none)
  /-- A thread has crashed while it was waiting. -/
  | lose (w : World I ι σ γ α) {request : I.Ask} {next : I.Answer request → Program I α} {g : γ}
      {s' : σ} : w.thread i = some (.waiting request next, g) →
      P.observer.lost w.shared request s' → Step i w (w.put i s' none)

/-- A step of a run: which thread made it, and the worlds before and after. -/
structure Moment (I : Interface) (ι σ γ α : Type) where
  actor : ι
  before : World I ι σ γ α
  after : World I ι σ γ α

/-- The steps that lead from one world to another. -/
inductive Run : World I ι σ γ α → List (Moment I ι σ γ α) → World I ι σ γ α → Prop where
  | nil (w : World I ι σ γ α) : Run w [] w
  | snoc {w w₁ w₂ : World I ι σ γ α} {moments : List (Moment I ι σ γ α)} {i : ι} :
      Run w moments w₁ → P.Step i w₁ w₂ → Run w (moments ++ [⟨i, w₁, w₂⟩]) w₂

/-! ## The invariant -/

/-- A thread upholds the discipline of its memory, and what it is waiting for was allowed. -/
def InOrder (D : Discipline I γ) (w : World I ι σ γ α) : Prop :=
  ∀ i t g, w.thread i = some (t, g) → t.Upholds P.memory D (fun _ _ => True) g ∧
    ∀ request next, t = .waiting request next → D.allow g request

variable {P} {D : Discipline I γ}

/-- **A step preserves good order**: in the thread that moves, because it upholds its
discipline, and in the others, because their memories are not touched. -/
theorem Step.inOrder (maintains : ∀ c, D.keep P.begun ∧ (P.program c).Safe P.memory D P.begun)
    {i : ι} {w w' : World I ι σ γ α} (step : P.Step i w w') (ordered : P.InOrder D w) :
    P.InOrder D w' := by
  have moved (s : σ) (slot : Option (Thread I α × γ))
      (good : ∀ t g, slot = some (t, g) → t.Upholds P.memory D (fun _ _ => True) g ∧
        ∀ request next, t = .waiting request next → D.allow g request) :
      P.InOrder D (w.put i s slot) := by
    intro j t g present
    by_cases same : j = i
    · subst same
      rw [World.put_thread_self] at present
      exact good t g present
    · rw [World.put_thread_of_ne w same] at present
      exact ordered j t g present
  cases step with
  | start c free =>
      refine moved _ _ ?_
      rintro _ _ ⟨⟩
      exact ⟨maintains c, by rintro _ _ ⟨⟩⟩
  | note present =>
      refine moved _ _ ?_
      rintro _ _ ⟨⟩
      exact ⟨(ordered _ _ _ present).1.2, by rintro _ _ ⟨⟩⟩
  | send present =>
      obtain ⟨_, allowed, rest⟩ := (ordered _ _ _ present).1
      refine moved _ _ ?_
      rintro _ _ ⟨⟩
      refine ⟨rest, ?_⟩
      rintro _ _ ⟨⟩
      exact allowed
  | receive answer present reply =>
      refine moved _ _ ?_
      rintro _ _ ⟨⟩
      exact ⟨(ordered _ _ _ present).1.2.2 answer _ rfl, by rintro _ _ ⟨⟩⟩
  | stop present => exact moved _ _ (by rintro _ _ ⟨⟩)
  | lose present lost => exact moved _ _ (by rintro _ _ ⟨⟩)

/-- **In every run from an idle world every thread is in good order before each step.** -/
theorem Run.inOrder (maintains : ∀ c, D.keep P.begun ∧ (P.program c).Safe P.memory D P.begun)
    {w w' : World I ι σ γ α} {moments : List (Moment I ι σ γ α)} (run : P.Run w moments w')
    (idle : ∀ i, w.thread i = none) : P.InOrder D w' ∧
      ∀ m ∈ moments, P.Step m.actor m.before m.after ∧ P.InOrder D m.before := by
  induction run with
  | nil =>
      refine ⟨fun i t g present => ?_, by simp⟩
      rw [idle i] at present
      cases present
  | snoc _ step ih =>
      obtain ⟨ordered, before⟩ := ih
      refine ⟨step.inOrder maintains ordered, fun m member => ?_⟩
      rcases List.mem_append.mp member with member | member
      · exact before m member
      · rw [List.mem_singleton.mp member]
        exact ⟨step, ordered⟩

/-! ## Runs of one thread -/

theorem Run.trans {w w₁ w₂ : World I ι σ γ α} {first rest : List (Moment I ι σ γ α)}
    (run : P.Run w first w₁) (run' : P.Run w₁ rest w₂) : P.Run w (first ++ rest) w₂ := by
  induction run' with
  | nil => simpa using run
  | snoc _ step ih => simpa using ih.snoc step

variable (P) in
/-- Some run leads from one world to the other, and what is shared is of this kind after each
of its steps. -/
def Reaches (S : σ → Prop) (w w' : World I ι σ γ α) : Prop :=
  ∃ moments, P.Run w moments w' ∧ ∀ m ∈ moments, S m.after.shared

variable {S : σ → Prop}

theorem Step.reaches {i : ι} {w w' : World I ι σ γ α} (step : P.Step i w w')
    (keeps : S w'.shared) : P.Reaches S w w' :=
  ⟨_, .snoc (.nil w) step, by simpa using keeps⟩

theorem Reaches.trans {w w₁ w₂ : World I ι σ γ α} (first : P.Reaches S w w₁)
    (rest : P.Reaches S w₁ w₂) : P.Reaches S w w₂ := by
  obtain ⟨moments, run, keeps⟩ := first
  obtain ⟨moments', run', keeps'⟩ := rest
  exact ⟨_, run.trans run', List.forall_mem_append.mpr ⟨keeps, keeps'⟩⟩

variable (P) in
/-- What a thread remembers after these events. -/
def recollect : γ → List (Event I) → γ
  | g, [] => g
  | g, .answered request answer :: events => recollect (P.learn g request answer) events
  | g, _ :: events => recollect g events

/-- **What a program can do, a thread can do** while the others rest. What is shared on the way
is what a part of the events leads to. -/
theorem reaches_of_evolves {p : Program I α} {events : List (Event I)} {t : Thread I α}
    (run : Evolves p events t) {i : ι} :
    ∀ {w : World I ι σ γ α} {g : γ} {s' : σ}, w.thread i = some (.running p, g) →
      Follows P.observer w.shared events s' →
      (∀ done s, done <+: events → Follows P.observer w.shared done s → S s) →
      P.Reaches S w (w.put i s' (some (t, P.recollect g events))) := by
  induction run with
  | stop p =>
      rintro w g s' present ⟨⟩ _
      refine ⟨[], ?_, by simp⟩
      rw [recollect, World.put_eq_self present]
      exact .nil w
  | note remark _ ih =>
      rintro w g s' present (_ | ⟨_, follows⟩) keeps
      have notes := (Step.note (P := P) w present).reaches
        (keeps [.noted remark] _ (by simp) (.noted remark (.nil _)))
      have rest := ih (w := w.put i _ (some (.running _, g))) (World.put_thread_self ..) follows
        fun done s part follows =>
          keeps _ s (List.cons_prefix_cons.mpr ⟨rfl, part⟩) (.noted remark follows)
      rw [World.put_put] at rest
      exact notes.trans rest
  | send request next =>
      rintro w g s' present (_ | _ | ⟨_, ⟨⟩⟩) keeps
      exact (Step.send w present).reaches (keeps _ _ List.prefix_rfl (.sent request (.nil _)))
  | exchange request answer _ ih =>
      rintro w g s' present (_ | _ | ⟨_, _ | _ | _ | ⟨_, reply, follows⟩⟩) keeps
      have sends := (Step.send (P := P) w present).reaches
        (keeps [.sent request] _ (by simp) (.sent request (.nil _)))
      have receives := sends.trans
        ((Step.receive _ answer (World.put_thread_self ..) reply).reaches
          (keeps [.sent request, .answered request answer] _ (by simp)
            (.sent request (.answered answer reply (.nil _)))))
      have rest := ih (w := w.put i _ (some (.running _, P.learn g request answer)))
        (World.put_thread_self ..) follows fun done s part follows =>
          keeps _ s (List.cons_prefix_cons.mpr ⟨rfl, List.cons_prefix_cons.mpr ⟨rfl, part⟩⟩)
            (.sent request (.answered answer reply follows))
      rw [World.put_put] at receives rest
      exact receives.trans rest

end Pool

end ArkadeEscrow.Interaction
