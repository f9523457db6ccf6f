import Mathlib.Data.List.Forall2
import Mathlib.Data.Option.Basic
import Mathlib.Data.Set.Insert
import Mathlib.Logic.Function.Basic

/-!
# Copies of a document that are passed around

Several participants hold copies of one document. Each of them can contribute to its copy, send
it, take a copy that was sent in place of its own, or merge one into its own. What has been sent
may be received by anyone, at any time, in any order, any number of times, or never.

If contributing and merging are known to act on a copy as inserting and union act on the set of
its contributions (`Accumulates`), then a circulation of copies is a circulation of sets: a deed
fails only where there is no copy or no message (`Accumulates.run_rel`), and a copy is determined
by the contributions that its holder has heard of.
-/

set_option autoImplicit false

namespace ArkadeEscrow.Interaction

/-- What can be done to a document. Either may be refused. -/
structure Document (C S : Type) where
  contribute : C → S → Option S
  merge : S → S → Option S

/-- What a participant does. A message is named by its place among those that were sent. -/
inductive Deed (P C : Type) where
  | contribute (p : P) (c : C)
  | send (p : P)
  | adopt (p : P) (message : Nat)
  | merge (p : P) (message : Nat)

/-- The copies in hand, and those that were sent. -/
structure Circulation (P S : Type) where
  hands : P → Option S
  sent : List S

variable {P C S : Type} [DecidableEq P]

/-- A participant takes this copy in hand. -/
def Circulation.hold (w : Circulation P S) (p : P) (s : S) : Circulation P S :=
  { w with hands := Function.update w.hands p (some s) }

/-- Only one participant has a copy. -/
def Circulation.start (p : P) (s : S) : Circulation P S :=
  Circulation.hold ⟨fun _ => none, []⟩ p s

namespace Document

variable (D : Document C S)

def step (w : Circulation P S) : Deed P C → Option (Circulation P S)
  | .contribute p c => do
      let s ← w.hands p
      return w.hold p (← D.contribute c s)
  | .send p => do
      let s ← w.hands p
      return { w with sent := w.sent ++ [s] }
  | .adopt p message => do
      let s ← w.sent[message]?
      return w.hold p s
  | .merge p message => do
      let s ← w.hands p
      let other ← w.sent[message]?
      return w.hold p (← D.merge s other)

def run (w : Circulation P S) (deeds : List (Deed P C)) : Option (Circulation P S) :=
  deeds.foldlM D.step w

/-- The document that is only the set of its contributions. -/
def sets (C : Type) : Document C (Set C) where
  contribute c known := some (insert c known)
  merge known other := some (known ∪ other)

end Document

/-- The contribution of a deed is one of these. -/
def Deed.By (allowed : C → Prop) : Deed P C → Prop
  | .contribute _ c => allowed c
  | _ => True

/-- A document accumulates: `R` says which contributions a copy has, and a copy is determined by
them. -/
structure Accumulates (D : Document C S) (allowed : C → Prop) (R : Set C → S → Prop) : Prop where
  contribute : ∀ {c known s}, allowed c → R known s → ∃ s', D.contribute c s = some s' ∧
    R (insert c known) s'
  merge : ∀ {known other s s'}, R known s → R other s' → ∃ s'', D.merge s s' = some s'' ∧
    R (known ∪ other) s''
  unique : ∀ {known s s'}, R known s → R known s' → s = s'

/-- The copies have these contributions. -/
structure Circulation.Matches (R : Set C → S → Prop) (v : Circulation P (Set C))
    (w : Circulation P S) : Prop where
  hands : ∀ p, Option.Rel R (v.hands p) (w.hands p)
  sent : List.Forall₂ R v.sent w.sent

variable {D : Document C S} {allowed : C → Prop} {R : Set C → S → Prop}
variable {v v' : Circulation P (Set C)} {w w' : Circulation P S}

namespace Circulation

theorem Matches.hold (same : Matches R v w) (p : P) {known : Set C} {s : S} (copy : R known s) :
    Matches R (v.hold p known) (w.hold p s) where
  hands p' := by
    simp only [Circulation.hold, Function.update_apply]
    split
    · exact .some copy
    · exact same.hands p'
  sent := same.sent

theorem matches_start (p : P) {s : S} (copy : R ∅ s) :
    Matches R (Circulation.start p ∅) (Circulation.start p s) :=
  Matches.hold ⟨fun _ => .none, .nil⟩ p copy

end Circulation

/-- The message that has the same place. -/
theorem rel_getElem? {vs : List (Set C)} {ws : List S} (same : List.Forall₂ R vs ws) (i : Nat) :
    Option.Rel R vs[i]? ws[i]? := by
  induction same generalizing i with
  | nil => exact .none
  | cons first rest ih =>
      cases i with
      | zero => exact .some first
      | succ i => exact ih i

/-- Two computations that agree, and then go on in agreement. -/
theorem rel_bind {α β α' β' : Type} {Q : α → β → Prop} {Q' : α' → β' → Prop} {x : Option α}
    {y : Option β} {f : α → Option α'} {g : β → Option β'} (first : Option.Rel Q x y)
    (rest : ∀ a b, Q a b → Option.Rel Q' (f a) (g b)) : Option.Rel Q' (x >>= f) (y >>= g) := by
  cases first with
  | none => exact .none
  | some related => exact rest _ _ related

/-- One deed: it is done to the copies when it is done to the sets. -/
theorem Accumulates.step_rel (accumulates : Accumulates D allowed R)
    (same : Circulation.Matches R v w) {deed : Deed P C} (by_ : deed.By allowed) :
    Option.Rel (Circulation.Matches R) ((Document.sets C).step v deed) (D.step w deed) := by
  cases deed with
  | contribute p c =>
      refine rel_bind (same.hands p) fun known s copy => ?_
      obtain ⟨s', contributed, copy'⟩ := accumulates.contribute by_ copy
      simp only [contributed]
      exact .some (same.hold p copy')
  | send p =>
      refine rel_bind (same.hands p) fun known s copy => .some ⟨same.hands, ?_⟩
      exact List.rel_append same.sent (.cons copy .nil)
  | adopt p message =>
      exact rel_bind (rel_getElem? same.sent message) fun known s copy => .some (same.hold p copy)
  | merge p message =>
      refine rel_bind (same.hands p) fun known s copy => ?_
      refine rel_bind (rel_getElem? same.sent message) fun other s' copy' => ?_
      obtain ⟨s'', merged, copy''⟩ := accumulates.merge copy copy'
      simp only [merged]
      exact .some (same.hold p copy'')

/-- **A circulation of copies is a circulation of sets.** -/
theorem Accumulates.run_rel (accumulates : Accumulates D allowed R) {deeds : List (Deed P C)}
    (by_ : ∀ deed ∈ deeds, deed.By allowed) (same : Circulation.Matches R v w) :
    Option.Rel (Circulation.Matches R) ((Document.sets C).run v deeds) (D.run w deeds) := by
  induction deeds generalizing v w with
  | nil => exact .some same
  | cons deed deeds ih =>
      rw [Document.run, Document.run, List.foldlM_cons, List.foldlM_cons]
      refine rel_bind (accumulates.step_rel same (by_ deed List.mem_cons_self))
        fun v' w' same' => ?_
      exact ih (fun other member => by_ other (List.mem_cons_of_mem _ member)) same'

/-- **Copies that are passed around as texts.** The contributions have texts as well. -/
theorem Accumulates.encoded {C' S' : Type} {D' : Document C' S'} {encode : S → S'}
    {parse : C' → Option C} (accumulates : Accumulates D allowed R)
    (contribute : ∀ {c' c known s}, parse c' = some c → R known s →
      D'.contribute c' (encode s) = (D.contribute c s).map encode)
    (merge : ∀ {known other s s'}, R known s → R other s' →
      D'.merge (encode s) (encode s') = (D.merge s s').map encode) :
    Accumulates D' (fun c' => ∃ c, parse c' = some c ∧ allowed c)
      fun known text => ∃ s, text = encode s ∧ R {c | ∃ c' ∈ known, parse c' = some c} s where
  contribute := by
    rintro c' known _ ⟨c, parsed, by_⟩ ⟨s, rfl, copy⟩
    obtain ⟨s', contributed, copy'⟩ := accumulates.contribute by_ copy
    refine ⟨encode s', by rw [contribute parsed copy, contributed, Option.map_some], s', rfl, ?_⟩
    have more : {c | ∃ c'' ∈ insert c' known, parse c'' = some c} =
        insert c {c | ∃ c' ∈ known, parse c' = some c} := by
      ext other
      simp [parsed, eq_comm]
    rwa [more]
  merge := by
    rintro known other _ _ ⟨s, rfl, copy⟩ ⟨s', rfl, copy'⟩
    obtain ⟨s'', merged, copy''⟩ := accumulates.merge copy copy'
    refine ⟨encode s'', by rw [merge copy copy', merged, Option.map_some], s'', rfl, ?_⟩
    have both : {c | ∃ c' ∈ known ∪ other, parse c' = some c} =
        {c | ∃ c' ∈ known, parse c' = some c} ∪ {c | ∃ c' ∈ other, parse c' = some c} := by
      ext c
      simp [or_and_right, exists_or]
    rwa [both]
  unique := by
    rintro known _ _ ⟨s, rfl, copy⟩ ⟨s', rfl, copy'⟩
    rw [accumulates.unique copy copy']

/-! ## Where contributions come from -/

/-- Everything that is heard of has been contributed. -/
structure Circulation.Within (made : Set C) (v : Circulation P (Set C)) : Prop where
  hands : ∀ p known, v.hands p = some known → known ⊆ made
  sent : ∀ known ∈ v.sent, known ⊆ made

/-- What has been contributed. -/
def contributed (deeds : List (Deed P C)) : Set C := {c | ∃ p, Deed.contribute p c ∈ deeds}

namespace Circulation.Within

variable {made made' : Set C}

omit [DecidableEq P] in
theorem mono (within : Within made v) (more : made ⊆ made') : Within made' v :=
  ⟨fun p known here => (within.hands p known here).trans more,
    fun known member => (within.sent known member).trans more⟩

theorem hold (within : Within made v) {known : Set C} (p : P) (less : known ⊆ made) :
    Within made (v.hold p known) := by
  refine ⟨fun p' known' here => ?_, within.sent⟩
  simp only [Circulation.hold, Function.update_apply] at here
  split at here
  · obtain rfl := Option.some.inj here
    exact less
  · exact within.hands p' known' here

/-- A deed adds only what it contributes. -/
theorem step (within : Within made v) {deed : Deed P C}
    (done : (Document.sets C).step v deed = some v') :
    Within (made ∪ contributed [deed]) v' := by
  have before : Within (made ∪ contributed [deed]) v := within.mono Set.subset_union_left
  cases deed with
  | contribute p c =>
      obtain ⟨known, here, rest⟩ := Option.bind_eq_some_iff.mp done
      cases rest
      refine before.hold p (Set.insert_subset ?_ (before.hands p known here))
      exact .inr ⟨p, List.mem_singleton_self _⟩
  | send p =>
      obtain ⟨known, here, rest⟩ := Option.bind_eq_some_iff.mp done
      cases rest
      refine ⟨before.hands, fun other member => ?_⟩
      rcases List.mem_append.mp member with member | member
      · exact before.sent other member
      · obtain rfl := List.mem_singleton.mp member
        exact before.hands p other here
  | adopt p message =>
      obtain ⟨known, here, rest⟩ := Option.bind_eq_some_iff.mp done
      cases rest
      exact before.hold p (before.sent known (List.mem_of_getElem? here))
  | merge p message =>
      obtain ⟨known, here, rest⟩ := Option.bind_eq_some_iff.mp done
      obtain ⟨other, there, rest⟩ := Option.bind_eq_some_iff.mp rest
      cases rest
      exact before.hold p (Set.union_subset (before.hands p known here)
        (before.sent other (List.mem_of_getElem? there)))

/-- **Nothing is heard of that nobody has contributed.** -/
theorem run {deeds : List (Deed P C)} (within : Within made v)
    (done : (Document.sets C).run v deeds = some v') :
    Within (made ∪ contributed deeds) v' := by
  induction deeds generalizing v made with
  | nil =>
      cases done
      exact within.mono Set.subset_union_left
  | cons deed deeds ih =>
      rw [Document.run, List.foldlM_cons] at done
      obtain ⟨v₁, first, rest⟩ := Option.bind_eq_some_iff.mp done
      refine (ih (within.step first) rest).mono
        (Set.union_subset (Set.union_subset_union_right _ ?_) fun c member => ?_)
      · rintro c ⟨p, member⟩
        exact ⟨p, List.mem_singleton.mp member ▸ List.mem_cons_self⟩
      · obtain ⟨p, member⟩ := member
        exact .inr ⟨p, List.mem_cons_of_mem _ member⟩

end Circulation.Within

theorem Circulation.within_start (p : P) : Within ∅ (Circulation.start p (∅ : Set C)) :=
  Circulation.Within.hold ⟨nofun, nofun⟩ p subset_rfl

theorem exists_of_rel_some {α β : Type} {Q : α → β → Prop} {a : α} {y : Option β}
    (related : Option.Rel Q (some a) y) : ∃ b, y = some b ∧ Q a b := by
  cases related with
  | some here => exact ⟨_, rfl, here⟩

theorem rel_imp {α β : Type} {Q Q' : α → β → Prop} {x : Option α} {y : Option β}
    (related : Option.Rel Q x y) (more : ∀ a b, x = some a → Q a b → Q' a b) :
    Option.Rel Q' x y := by
  cases related with
  | none => exact .none
  | some here => exact .some (more _ _ rfl here)

theorem forall₂_within {made : Set C} {vs : List (Set C)} {ws : List S}
    (same : List.Forall₂ R vs ws) (less : ∀ known ∈ vs, known ⊆ made) :
    List.Forall₂ (fun known s => known ⊆ made ∧ R known s) vs ws := by
  induction same with
  | nil => exact .nil
  | cons copy rest ih =>
      refine .cons ⟨less _ List.mem_cons_self, copy⟩ (ih fun known member => ?_)
      exact less known (List.mem_cons_of_mem _ member)

omit [DecidableEq P] in
theorem Circulation.Matches.within {made : Set C} (same : Matches R v w) (less : Within made v) :
    Matches (fun known s => known ⊆ made ∧ R known s) v w where
  hands p := rel_imp (same.hands p) fun known _ here copy => ⟨less.hands p known here, copy⟩
  sent := forall₂_within same.sent less.sent

/-- **What becomes of one copy.** Wherever the deeds can be done to sets, they can be done to the
copies, and a copy has contributions that were made. -/
theorem Accumulates.circulates (accumulates : Accumulates D allowed R) {deeds : List (Deed P C)}
    (by_ : ∀ deed ∈ deeds, deed.By allowed) (p : P) {s : S} (copy : R ∅ s) :
    Option.Rel (Circulation.Matches fun known s => known ⊆ contributed deeds ∧ R known s)
      ((Document.sets C).run (Circulation.start p ∅) deeds)
      (D.run (Circulation.start p s) deeds) := by
  refine rel_imp (accumulates.run_rel by_ (Circulation.matches_start p copy))
    fun v _ done same => ?_
  have less := (Circulation.within_start p).run done
  rw [Set.empty_union] at less
  exact same.within less

end ArkadeEscrow.Interaction
