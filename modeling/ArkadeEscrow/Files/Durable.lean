import ArkadeEscrow.Files.Atomic

/-!
# The store and the loss of power

When `save` has returned, the record is durable in the directory of the store, and stays so until
another operation on its id has come to its end (`Firm`). The directory itself need not be: `new`
creates it, and the directories above it, and syncs none of the directories that hold their names.
So a saved record survives a loss of power just when the names on the way to the store were durable
before the store was opened (`save_survives_iff`).
-/

set_option autoImplicit false

namespace ArkadeEscrow
namespace Files

open Interaction

variable {L : FileLib} {store : FileSpendStore} {v v' : Volume} {id : String}
variable {ids : String → Prop} {a : Act} {h : List Act} {P : Option PendingSpend → Prop}

/-! ## The directory -/

/-- **No act makes the directory of the store durable**, nor does one undo that it is. -/
theorem Acted.anchored_iff (acted : Acted L store v a v') :
    Anchored v' store.dir ↔ Anchored v store.dir := by
  obtain ⟨op, result⟩ := a
  cases op with
  | new =>
      refine ⟨acted.new.loose, fun anchored => ?_⟩
      rwa [acted.new.anchored anchored]
  | load id => rw [acted.load.1]
  | remove id => exact acted.remove.1.anchored_iff
  | save spend =>
      rcases acted.save with ⟨rfl, _⟩ | ⟨json, _, touched, _⟩
      · rfl
      · exact touched.anchored_iff

theorem History.anchored_iff (history : History L store v h v') :
    Anchored v' store.dir ↔ Anchored v store.dir := by
  induction history with
  | nil => rfl
  | act history acted ih => exact acted.anchored_iff.trans ih

/-! ## The record -/

/-- What the name of a record refers to. -/
inductive Encodes (L : FileLib) : Option Node → Option PendingSpend → Prop where
  | nothing : Encodes L none none
  | record {spend : PendingSpend} {json : String} : L.toStringPretty spend = .ok json →
      Encodes L (some (.file ⟨encodeUtf8 json, true⟩)) (some spend)

variable (L store) in
/-- Whatever the name of the record may refer to is synced, and is one of these. -/
def Firm (v : Volume) (id : String) (possible : Option PendingSpend → Prop) : Prop :=
  ∀ x, (v (store.pathFor L id)).May x → ∃ found, possible found ∧ Encodes L x found

theorem Firm.mono {Q : Option PendingSpend → Prop} (firm : Firm L store v id P)
    (weaken : ∀ found, P found → Q found) : Firm L store v id Q := by
  intro x may
  obtain ⟨found, possible, encodes⟩ := firm x may
  exact ⟨found, weaken found possible, encodes⟩

/-- An operation on the id adds what it is to leave. -/
theorem Firm.touched {x : Option Node} {left : Option PendingSpend} (firm : Firm L store v id P)
    (touched : Touched L store id x v v') (encodes : Encodes L x left) :
    Firm L store v' id fun found => P found ∨ some left = some found := by
  intro y may
  rcases touched.own with settled | ⟨_, _, other⟩
  · exact firm.mono (fun found possible => .inl possible) y (settled.may may)
  · rcases other y may with rfl | may
    · exact ⟨left, .inr rfl, encodes⟩
    · exact firm.mono (fun found possible => .inl possible) y may

/-- An operation on another id adds nothing. -/
theorem Firm.touched_other {x : Option Node} {id' : String} (firm : Firm L store v id P)
    (touched : Touched L store id' x v v') (collisionFree : L.CollisionFree ids)
    (member : ids id) (member' : ids id') (other : id' ≠ id) : Firm L store v' id P := by
  intro y may
  refine firm y
    (Slot.Settled.may (touched.others _ ?_ (FileSpendStore.pathFor_ne_tmpFor id id')) may)
  intro same
  exact other (collisionFree id id' member member'
    (FileSpendStore.sha256_eq_of_pathFor_eq same)).symm

/-- **What an act adds** to what may be left of a record. -/
theorem Firm.acted (firm : Firm L store v id P) (acted : Acted L store v a v')
    (anchored : Anchored v store.dir) (collisionFree : L.CollisionFree ids) (on : a.op.On ids)
    (member : ids id) :
    Firm L store v' id fun found => P found ∨ a.op.leaves id = some found := by
  obtain ⟨op, result⟩ := a
  cases op with
  | new =>
      rw [acted.new.anchored anchored]
      exact firm.mono fun found possible => .inl possible
  | load id' =>
      rw [acted.load.1]
      exact firm.mono fun found possible => .inl possible
  | remove id' =>
      by_cases own : id' = id
      · subst own
        have leaves : Op.leaves id' (.remove id') = some none := if_pos rfl
        simp only [leaves]
        exact firm.touched acted.remove.1 .nothing
      · exact (firm.touched_other acted.remove.1 collisionFree member (on _ rfl) own).mono
          fun found possible => .inl possible
  | save spend =>
      rcases acted.save with ⟨rfl, _⟩ | ⟨json, printed, touched, _⟩
      · exact firm.mono fun found possible => .inl possible
      · by_cases own : spend.id = id
        · subst own
          have leaves : Op.leaves spend.id (.save spend) = some (some spend) := if_pos rfl
          simp only [leaves]
          exact firm.touched touched (.record printed)
        · exact (firm.touched_other touched collisionFree member (on _ rfl) own).mono
            fun found possible => .inl possible

/-- **What a history adds.** -/
theorem Firm.history (firm : Firm L store v id P) (history : History L store v h v')
    (anchored : Anchored v store.dir) (collisionFree : L.CollisionFree ids)
    (on : ∀ a ∈ h, a.op.On ids) (member : ids id) :
    Firm L store v' id fun found => P found ∨ ∃ a ∈ h, a.op.leaves id = some found := by
  induction history with
  | nil => exact firm.mono fun found possible => .inl possible
  | @act h a v₁ v₂ history acted ih =>
      have earlier := ih fun b earlier => on b (List.mem_cons_of_mem a earlier)
      refine (earlier.acted acted (history.anchored_iff.mpr anchored) collisionFree
        (on a List.mem_cons_self) member).mono ?_
      rintro found ((possible | ⟨b, here, leaves⟩) | leaves)
      · exact .inl possible
      · exact .inr ⟨b, List.mem_cons_of_mem a here, leaves⟩
      · exact .inr ⟨a, List.mem_cons_self, leaves⟩

/-- A `save` that has returned leaves its record. -/
theorem firm_save {spend : PendingSpend} {found : Option PendingSpend}
    (acted : Acted L store v ⟨.save spend, some (.ok found)⟩ v') :
    Firm L store v' spend.id (· = some spend) := by
  rcases acted.save with ⟨_, failed⟩ | ⟨json, printed, _, completed⟩
  · exact absurd rfl (failed found)
  · intro x may
    rw [(completed found rfl).2] at may
    rcases may with rfl | member
    · exact ⟨some spend, rfl, .record printed⟩
    · cases member

/-! ## The loss of power -/

/-- **In an anchored directory, one of the possible records survives.** -/
theorem Firm.powerLoss (firm : Firm L store v id P) (anchored : Anchored v store.dir)
    (roundTrips : L.RoundTrips) (loss : PowerLoss v v') :
    ∃ found, P found ∧ Recorded L store v' id found := by
  obtain ⟨x, y, may, survives, left⟩ := loss (store.pathFor L id)
  obtain ⟨found, possible, encodes⟩ := firm x may
  have path : (store.pathFor L id).tail? = some store.dir := rfl
  have here : v'.lookup (store.pathFor L id) = Volume.named y := by
    rw [lookup_of_child path (loss.anchored anchored).lookup, left]
  refine ⟨found, possible, ?_⟩
  cases encodes with
  | nothing =>
      cases survives
      exact here
  | record printed =>
      cases survives
      exact recorded_of_printed roundTrips printed here

variable (L store ids) in
/-- The record, which has just been saved, is still loaded after a loss of power, or what an
operation is to leave that has not been completed since. -/
def Lasting (v : Volume) (spend : PendingSpend) : Prop :=
  ∀ after v' v'', History L store v after v' → (∀ a ∈ after, a.op.On ids) →
    (∀ a ∈ after, a.op.leaves spend.id ≠ none → ¬a.Completed) → PowerLoss v' v'' →
    ∃ found, (found = some spend ∨ ∃ a ∈ after, a.op.leaves spend.id = some found) ∧
      ∀ r, Loads L store v'' spend.id r ↔ r = .ok found

/-- Without an anchored directory, a record can be lost at once. -/
theorem Lasting.anchored {spend : PendingSpend} (lasting : Lasting L store ids v spend) :
    Anchored v store.dir := by
  by_contra loose
  obtain ⟨v', loss, gone⟩ := exists_powerLoss loose
  obtain ⟨found, possible, loads⟩ := lasting [] v v' .nil (by simp) (by simp) loss
  obtain rfl : found = some spend := by simpa using possible
  obtain ⟨f, json, here, _⟩ := recorded_of_loads ((loads _).mpr rfl)
  exact gone (lookup_cons_ok here).1

/-- In one, it is not. -/
theorem lasting_of_anchored (roundTrips : L.RoundTrips) (collisionFree : L.CollisionFree ids)
    {spend : PendingSpend} {found : Option PendingSpend} (member : ids spend.id)
    (saved : Acted L store v ⟨.save spend, some (.ok found)⟩ v')
    (anchored : Anchored v' store.dir) :
    Lasting L store ids v' spend := by
  intro after v₂ v₃ later on _ loss
  have firm := (firm_save saved).history later anchored collisionFree on member
  obtain ⟨found, possible, recorded⟩ :=
    firm.powerLoss (later.anchored_iff.mpr anchored) roundTrips loss
  exact ⟨found, possible, loads_iff recorded⟩

/-- **A record that has been saved survives a loss of power if and only if** the way to the store
was durable before. For every history up to a `save` that has returned, every history after it
in which no operation on the id is completed, and every loss of power then. -/
theorem save_survives_iff (roundTrips : L.RoundTrips) (collisionFree : L.CollisionFree ids)
    {spend : PendingSpend} {found : Option PendingSpend}
    (history : History L store v (⟨.save spend, some (.ok found)⟩ :: h) v')
    (member : ids spend.id) : Lasting L store ids v' spend ↔ Anchored v store.dir := by
  rw [← history.anchored_iff]
  refine ⟨fun lasting => lasting.anchored, fun anchored => ?_⟩
  cases history with
  | act _ saved => exact lasting_of_anchored roundTrips collisionFree member saved anchored

theorem save_survives_sample : ∃ v',
    History Sample.fileLib Sample.store Sample.settled [⟨.save Sample.record, some (.ok none)⟩] v' ∧
    Lasting Sample.fileLib Sample.store (· = "trade") v' Sample.record := by
  obtain ⟨v', saved⟩ := Sample.exists_saved_settled
  have history := History.nil.act saved
  exact ⟨v', history, (save_survives_iff Sample.roundTrips Sample.collisionFree history rfl).mpr
    Sample.anchored_settled⟩

/-- A store that has just been created is lost with its directory. -/
theorem not_always_save_survives :
    ¬∀ (L : FileLib) (store : FileSpendStore) (ids : String → Prop) (v v' : Volume) (h : List Act)
      (spend : PendingSpend) (found opened : Option PendingSpend),
        L.RoundTrips → L.CollisionFree ids → ids spend.id →
        History L store v (⟨.save spend, some (.ok found)⟩ :: h ++ [⟨.new, some (.ok opened)⟩]) v' →
        Lasting L store ids v' spend := by
  intro survives
  obtain ⟨v', saved⟩ := Sample.exists_saved
  have history := (History.nil.act Sample.acted_new_blank).act saved
  have lasting := survives _ _ (· = "trade") _ _ [] _ none none Sample.roundTrips
    Sample.collisionFree rfl history
  cases (history.anchored_iff.mp lasting.anchored).2 none (.inl rfl)

end Files
end ArkadeEscrow
