import ArkadeEscrow.Files.Operations

/-!
# Histories of a store

The operations of the store follow each other (`History`). One that returns may have failed, and one
that does not was killed, between two steps or while a step was under way (`Act`). After that
the process is started again, which may open the store again. What an act does to the volume is what
its operation does, wherever that was left (`Acted.upholds`).
-/

set_option autoImplicit false

namespace ArkadeEscrow
namespace Files

open Interaction Program
open Service (Follows)

inductive Op where
  | new
  | save (spend : PendingSpend)
  | load (id : String)
  | remove (id : String)

def Op.id? : Op → Option String
  | .new => none
  | .save spend => some spend.id
  | .load id | .remove id => some id

/-- The operation is to leave this under the id. -/
def Op.leaves (id : String) : Op → Option (Option PendingSpend)
  | .save spend => if spend.id = id then some (some spend) else none
  | .remove id' => if id' = id then some none else none
  | .new | .load _ => none

theorem Op.id?_of_leaves {id : String} {op : Op} {x : Option PendingSpend}
    (leaves : op.leaves id = some x) : op.id? = some id := by
  cases op with
  | new => cases leaves
  | load id' => cases leaves
  | save spend =>
      rw [Op.leaves] at leaves
      split at leaves
      · next own => rw [Op.id?, own]
      · cases leaves
  | remove id' =>
      rw [Op.leaves] at leaves
      split at leaves
      · next own => rw [Op.id?, own]
      · cases leaves

/-- `result`: there is none if the process was killed. -/
structure Act where
  op : Op
  result : Option (Except Error (Option PendingSpend))

/-- The operation has returned `Ok`. -/
def Act.Completed (a : Act) : Prop := ∃ found, a.result = some (.ok found)

variable (L : FileLib) (store : FileSpendStore)

def Op.program : Op → Action (Option PendingSpend)
  | .new => (fun _ => none) <$> FileSpendStore.new store.dir
  | .save spend => (fun _ => none) <$> store.save L spend
  | .load id => store.load L id
  | .remove id => (fun _ => none) <$> store.remove L id

/-- The operation has been run, up to its end or until the process was killed. -/
inductive Acted (v : Volume) : Act → Volume → Prop where
  | returned {op : Op} {events : List (Event interface)} {r : Except Error (Option PendingSpend)}
      {v' : Volume} : Interaction.Returns (op.program L store).run events r →
      Follows disk v events v' → Acted v ⟨op, some r⟩ v'
  | killed {op : Op} {events : List (Event interface)}
      {t : Thread interface (Except Error (Option PendingSpend))} {v₁ v' : Volume} :
      Evolves (op.program L store).run events t → Follows disk v events v₁ → Ends disk t v₁ v' →
      Acted v ⟨op, none⟩ v'

/-- Acts one after the other, the latest first. -/
inductive History (v : Volume) : List Act → Volume → Prop where
  | nil : History v [] v
  | act {h : List Act} {a : Act} {v₁ v₂ : Volume} : History v h v₁ → Acted L store v₁ a v₂ →
      History v (a :: h) v₂

/-- A `load` may return this. -/
def Loads (v : Volume) (id : String) (r : Except Error (Option PendingSpend)) : Prop :=
  ∃ v', Acted L store v ⟨.load id, some r⟩ v'

variable {L store} {v v' : Volume} {op : Op} {id : String}
variable {result : Option (Except Error (Option PendingSpend))}

/-- **What an operation upholds, its acts do.** -/
theorem Acted.upholds {keep : Volume → Prop}
    {post : Except Error (Option PendingSpend) → Volume → Prop}
    (acted : Acted L store v ⟨op, result⟩ v')
    (upholds : Upholds disk (keeps keep) post (op.program L store).run v) (kept : keep v) :
    keep v' ∧ ∀ r, result = some r → post r v' := by
  cases acted with
  | returned run follows =>
      obtain ⟨kept', done⟩ := Evolves.upholds_of_follows run kept upholds follows
      refine ⟨kept', ?_⟩
      rintro _ ⟨⟩
      exact done
  | killed run follows ends =>
      refine ⟨ends.keep (run.upholds_of_follows kept upholds follows), ?_⟩
      rintro _ ⟨⟩

theorem Acted.achieves {keep : Volume → Prop} {post : Unit → Volume → Prop} {x : Action Unit}
    (acted : Acted L store v ⟨op, result⟩ v') (program : op.program L store = (fun _ => none) <$> x)
    (achieves : Fallible.Achieves disk (keeps keep) post x v) (kept : keep v) :
    keep v' ∧ ∀ found, result = some (.ok found) → post () v' := by
  have upholds : Fallible.Achieves disk (keeps keep) (fun _ => post ()) (op.program L store) v := by
    rw [program, Fallible.achieves_map]
    exact achieves
  obtain ⟨kept', done⟩ := acted.upholds upholds kept
  exact ⟨kept', fun found returned => done _ returned found rfl⟩

/-! ## What each operation does -/

theorem Acted.new (acted : Acted L store v ⟨.new, result⟩ v') : Built store.dir v v' := by
  have achieves : Fallible.Achieves disk (keeps (Built store.dir v)) (fun _ _ => True)
      (Op.new.program L store) v :=
    Fallible.achieves_map.mpr (Fallible.achieves_of_safe (new_upholds v) fun _ _ => trivial)
  exact (acted.upholds achieves (.refl v)).1

theorem Acted.load (acted : Acted L store v ⟨.load id, result⟩ v') :
    v' = v ∧ ∀ r, result = some r → ∀ found, r = .ok found ↔ Recorded L store v id found := by
  obtain ⟨same, returns⟩ := acted.upholds (load_upholds id v) rfl
  exact ⟨same, fun r returned => (returns r returned).2⟩

theorem Acted.remove (acted : Acted L store v ⟨.remove id, result⟩ v') :
    Touched L store id none v v' ∧
      ∀ found, result = some (.ok found) → v'.lookup (store.pathFor L id) = .error .notFound :=
  acted.achieves rfl (remove_achieves id v) (touched_refl v)

/-- A record that cannot be printed is not saved. -/
theorem Acted.save {spend : PendingSpend} (acted : Acted L store v ⟨.save spend, result⟩ v') :
    (v' = v ∧ ∀ found, result ≠ some (.ok found)) ∨
      ∃ json, L.toStringPretty spend = .ok json ∧
        Touched L store spend.id (some (.file ⟨encodeUtf8 json, true⟩)) v v' ∧
        ∀ found, result = some (.ok found) → v'.lookup store.dir = .ok .directory ∧
          v' (store.pathFor L spend.id) = ⟨some (.file ⟨encodeUtf8 json, true⟩), []⟩ := by
  cases printed : L.toStringPretty spend with
  | error text =>
      have failed : Fallible.Achieves disk (keeps (· = v)) (fun _ _ => False)
          (store.save L spend) v := by
        rw [FileSpendStore.save, printed]
        rintro _ ⟨⟩
      obtain ⟨same, never⟩ := acted.achieves rfl failed rfl
      exact .inl ⟨same, fun found returned => never found returned⟩
  | ok json => exact .inr ⟨json, rfl, acted.achieves rfl (save_achieves printed v) (touched_refl v)⟩

end Files
end ArkadeEscrow
