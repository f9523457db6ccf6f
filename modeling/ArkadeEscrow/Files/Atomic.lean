import ArkadeEscrow.Files.Runs
import ArkadeEscrow.Client.Shelf

/-!
# The store is atomic under crashes

Whatever becomes of the process, an id loads what its last finished operation has left, or what an
operation has left that was not finished after that one (`Outcome`, `crash_atomic`). An
operation on one id changes nothing for another. Seen from outside, the store is therefore the
shelf that the client's calls are verified against (`acted_refines_shelf`).

The hash is taken to be free of collisions, and a record to be read from JSON as it was printed.
-/

set_option autoImplicit false

namespace ArkadeEscrow
namespace Files

open Interaction

/-- What `serde_json` prints, it reads. -/
def FileLib.RoundTrips (L : FileLib) : Prop :=
  ∀ spend json, L.toStringPretty spend = .ok json → L.fromStr json = .ok spend

/-- No two of these ids have the same hash. -/
def FileLib.CollisionFree (L : FileLib) (ids : String → Prop) : Prop :=
  ∀ id id', ids id → ids id' → L.sha256 (encodeUtf8 id) = L.sha256 (encodeUtf8 id') → id = id'

/-- The operation is on one of these ids. -/
def Op.On (ids : String → Prop) (op : Op) : Prop := ∀ id, op.id? = some id → ids id

variable {L : FileLib} {store : FileSpendStore} {v v' : Volume} {id : String}
variable {ids : String → Prop}

/-! ## What is recorded -/

theorem recorded_congr (same : v'.lookup (store.pathFor L id) = v.lookup (store.pathFor L id))
    (found : Option PendingSpend) : Recorded L store v' id found ↔ Recorded L store v id found := by
  cases found <;> simp only [Recorded, same]

/-- There is one record at most. -/
theorem Recorded.unique {found found' : Option PendingSpend}
    (recorded : Recorded L store v id found)
    (recorded' : Recorded L store v id found') : found = found' := by
  cases found with
  | none => exact ((recorded_iff_of_missing recorded found').mp recorded').symm
  | some spend =>
      obtain ⟨f, json, here, text, parsed⟩ := recorded
      obtain ⟨spend', json', rfl, text', parsed'⟩ := (recorded_iff_of_file here found').mp recorded'
      cases text.symm.trans text'
      cases parsed.symm.trans parsed'
      rfl

/-- A file that has been written for a record is one. -/
theorem recorded_of_printed (roundTrips : L.RoundTrips) {spend : PendingSpend} {json : String}
    {synced : Bool} (printed : L.toStringPretty spend = .ok json)
    (here : v.lookup (store.pathFor L id) = .ok (.file ⟨encodeUtf8 json, synced⟩)) :
    Recorded L store v id (some spend) :=
  ⟨_, json, here, decodeUtf8_encodeUtf8 json, roundTrips spend json printed⟩

/-- The record of an operation that touches the files of its id is as it was, or as it is to be. -/
theorem Touched.lookup_own {x : Option Node} (touched : Touched L store id x v v') :
    v'.lookup (store.pathFor L id) = v.lookup (store.pathFor L id) ∨
      v'.lookup (store.pathFor L id) = Volume.named x := by
  have path : (store.pathFor L id).tail? = some store.dir := rfl
  rcases touched.own with settled | ⟨found, now, _⟩
  · refine .inl (lookup_congr fun p above nonempty => ?_)
    rcases List.suffix_cons_iff.mp above with rfl | above
    · exact settled.now
    · rw [touched.outside p (tail?_ne_of_suffix above nonempty)]
  · right
    rw [lookup_of_child path (touched.lookup_dir.trans found), now]

/-- The record of another id is as it was. -/
theorem Touched.lookup_other {x : Option Node} {id' : String} (touched : Touched L store id x v v')
    (collisionFree : L.CollisionFree ids) (member : ids id) (member' : ids id') (other : id ≠ id') :
    v'.lookup (store.pathFor L id') = v.lookup (store.pathFor L id') := by
  refine lookup_congr fun p above nonempty => ?_
  rcases List.suffix_cons_iff.mp above with rfl | above
  · refine (touched.others _ ?_ (FileSpendStore.pathFor_ne_tmpFor id' id)).now
    intro same
    exact other (collisionFree id id' member member'
      (FileSpendStore.sha256_eq_of_pathFor_eq same.symm))
  · rw [touched.outside p (tail?_ne_of_suffix above nonempty)]

variable {a : Act}

/-- **What an act does to a record.** -/
theorem Acted.lookup_pathFor (acted : Acted L store v a v') (roundTrips : L.RoundTrips)
    (collisionFree : L.CollisionFree ids) (on : a.op.On ids) (member : ids id) :
    v'.lookup (store.pathFor L id) = v.lookup (store.pathFor L id) ∧
        (∀ x, a.op.leaves id = some x → ¬a.Completed) ∨
      ∃ x, a.op.leaves id = some x ∧ Recorded L store v' id x := by
  obtain ⟨op, result⟩ := a
  cases op with
  | new => exact .inl ⟨acted.new.found _, by simp [Op.leaves]⟩
  | load id' => exact .inl ⟨by rw [acted.load.1], by simp [Op.leaves]⟩
  | remove id' =>
      obtain ⟨touched, completed⟩ := acted.remove
      by_cases own : id' = id
      · subst own
        by_cases ended : Act.Completed ⟨.remove id', result⟩
        · obtain ⟨found, returned⟩ := ended
          exact .inr ⟨none, by simp [Op.leaves], completed found returned⟩
        · rcases touched.lookup_own with same | new
          · exact .inl ⟨same, fun _ _ => ended⟩
          · exact .inr ⟨none, by simp [Op.leaves], new⟩
      · exact .inl ⟨touched.lookup_other collisionFree (on _ rfl) member own,
          by simp [Op.leaves, own]⟩
  | save spend =>
      by_cases own : spend.id = id
      · subst own
        rcases acted.save with ⟨rfl, failed⟩ | ⟨json, printed, touched, completed⟩
        · refine .inl ⟨rfl, fun _ _ ended => ?_⟩
          obtain ⟨found, returned⟩ := ended
          exact failed found returned
        · have path : (store.pathFor L spend.id).tail? = some store.dir := rfl
          by_cases ended : Act.Completed ⟨.save spend, result⟩
          · obtain ⟨found, returned⟩ := ended
            obtain ⟨dir, slot⟩ := completed found returned
            have here : v'.lookup (store.pathFor L spend.id) =
                .ok (.file ⟨encodeUtf8 json, true⟩) := by
              rw [lookup_of_child path dir, slot]
              rfl
            exact .inr ⟨some spend, by simp [Op.leaves],
              recorded_of_printed roundTrips printed here⟩
          · rcases touched.lookup_own with same | new
            · exact .inl ⟨same, fun _ _ => ended⟩
            · exact .inr ⟨some spend, by simp [Op.leaves],
                recorded_of_printed roundTrips printed new⟩
      · have none : Op.leaves id (.save spend) = none := by simp [Op.leaves, own]
        refine .inl ⟨?_, by simp [none]⟩
        rcases acted.save with ⟨rfl, _⟩ | ⟨json, _, touched, _⟩
        · rfl
        · exact touched.lookup_other collisionFree (on _ rfl) member own

/-! ## What is loaded -/

/-- A record is what a `load` returns. -/
theorem loads_iff {found : Option PendingSpend} (recorded : Recorded L store v id found)
    (r : Except Error (Option PendingSpend)) : Loads L store v id r ↔ r = .ok found := by
  constructor
  · rintro ⟨v', acted⟩
    exact (acted.load.2 r rfl found).mpr recorded
  · rintro rfl
    -- The file is there, or nothing is.
    have run (answer : Except IoError (List UInt8))
        (answered : disk.answered v (.read (store.pathFor L id)) answer v) :
        Loads L store v id (.ok found) := by
      have returned := (loaded_eq_ok_iff answered found).mpr recorded
      have returns : Interaction.Returns (store.load L id).run
          [.sent (.read (store.pathFor L id)), .answered (.read (store.pathFor L id)) answer]
          (.ok found) := by
        rw [load_run, ← returned]
        exact .exchange (I := interface) (.read (store.pathFor L id)) answer (.stop _)
      exact ⟨v, .returned returns (follows_exchange answered (.nil v))⟩
    cases found with
    | none => exact run (.error ⟨.notFound, ""⟩) ⟨.inl recorded, rfl⟩
    | some spend =>
        obtain ⟨f, json, here, _⟩ := recorded
        exact run (.ok f.contents) ⟨⟨f, here, rfl⟩, rfl⟩

theorem recorded_of_loads {found : Option PendingSpend} (loads : Loads L store v id (.ok found)) :
    Recorded L store v id found := by
  obtain ⟨v', acted⟩ := loads
  exact (acted.load.2 _ rfl found).mp rfl

/-- Where a `load` returns depends on what is found there. -/
theorem loads_congr (same : v'.lookup (store.pathFor L id) = v.lookup (store.pathFor L id))
    {found : Option PendingSpend} (recorded : Recorded L store v id found)
    (r : Except Error (Option PendingSpend)) : Loads L store v' id r ↔ Loads L store v id r := by
  rw [loads_iff recorded, loads_iff ((recorded_congr same found).mpr recorded)]

/-! ## Any history -/

/-- An id may load this after these acts: what its last completed operation has left, or what an
operation has left that was not completed after that one. -/
def Outcome (id : String) (initial : Option PendingSpend) : List Act → Option PendingSpend → Prop
  | [], found => found = initial
  | a :: earlier, found =>
      match a.op.leaves id with
      | none => Outcome id initial earlier found
      | some x => found = x ∨ ¬a.Completed ∧ Outcome id initial earlier found

/-- **Every history leaves an outcome** under every id. -/
theorem History.outcome {h : List Act} (history : History L store v h v')
    (roundTrips : L.RoundTrips)
    (collisionFree : L.CollisionFree ids) (on : ∀ a ∈ h, a.op.On ids) (member : ids id)
    {initial : Option PendingSpend} (start : Recorded L store v id initial) :
    ∃ found, Outcome id initial h found ∧ Recorded L store v' id found := by
  induction history with
  | nil => exact ⟨initial, rfl, start⟩
  | @act h a v₁ v₂ history acted ih =>
      obtain ⟨found, outcome, recorded⟩ := ih fun b earlier => on b (List.mem_cons_of_mem a earlier)
      rcases acted.lookup_pathFor roundTrips collisionFree (on a List.mem_cons_self) member with
        ⟨same, open_⟩ | ⟨x, leaves, new⟩
      · refine ⟨found, ?_, (recorded_congr same found).mpr recorded⟩
        rw [Outcome]
        split
        · exact outcome
        · next x leaves => exact .inr ⟨open_ x leaves, outcome⟩
      · refine ⟨x, ?_, new⟩
        rw [Outcome, leaves]
        exact .inl rfl

/-- **The store is atomic under crashes.** From any volume on which every id loads, after any
operations, each of them returned, failed or killed anywhere: every id loads an outcome of them and
nothing else, and an operation that is not on the id changes nothing of that. -/
theorem crash_atomic (roundTrips : L.RoundTrips) (collisionFree : L.CollisionFree ids)
    {initial : String → Option PendingSpend}
    (start : ∀ id, ids id → Loads L store v id (.ok (initial id))) {h : List Act}
    (history : History L store v h v') (on : ∀ a ∈ h, a.op.On ids) (id : String) (member : ids id) :
    (∃ found, Outcome id (initial id) h found ∧
      ∀ r, Loads L store v' id r ↔ r = .ok found) ∧
    ∀ a v'', Acted L store v' a v'' → a.op.On ids → a.op.id? ≠ some id →
      ∀ r, Loads L store v'' id r ↔ Loads L store v' id r := by
  obtain ⟨found, outcome, recorded⟩ :=
    history.outcome roundTrips collisionFree on member (recorded_of_loads (start id member))
  refine ⟨⟨found, outcome, loads_iff recorded⟩, fun a v'' acted on other r => ?_⟩
  rcases acted.lookup_pathFor roundTrips collisionFree on member with ⟨same, _⟩ | ⟨x, leaves, _⟩
  · exact loads_congr same recorded r
  · exact absurd (Op.id?_of_leaves leaves) other

theorem Sample.roundTrips : FileLib.RoundTrips Sample.fileLib := by
  intro spend text printed
  obtain ⟨rfl, rfl⟩ := Sample.toStringPretty_eq_ok_iff.mp printed
  exact Sample.fromStr_json

theorem Sample.collisionFree : FileLib.CollisionFree Sample.fileLib (· = "trade") := by
  rintro id id' rfl rfl _
  rfl

/-- A store is opened for the first time, and the process is killed while it saves a record. -/
theorem crash_atomic_sample : ∃ v',
    History Sample.fileLib Sample.store Sample.blank
      [⟨.save Sample.record, none⟩, ⟨.new, some (.ok none)⟩] v' ∧
    ∃ found, Outcome "trade" none [⟨.save Sample.record, none⟩, ⟨.new, some (.ok none)⟩] found ∧
      ∀ r, Loads Sample.fileLib Sample.store v' "trade" r ↔ r = .ok found := by
  obtain ⟨v', killed⟩ := Sample.exists_killed
  have history := (History.nil.act Sample.acted_new_blank).act killed
  have start (id : String) (own : id = "trade") :
      Loads Sample.fileLib Sample.store Sample.blank id (.ok ((fun _ => none) id)) := by
    subst own
    have nothing : Recorded Sample.fileLib Sample.store Sample.blank "trade" none := rfl
    exact (loads_iff nothing _).mpr rfl
  have on : ∀ a ∈ [Act.mk (.save Sample.record) none, ⟨.new, some (.ok none)⟩],
      a.op.On (· = "trade") := by
    simp [Op.On, Op.id?, Sample.record]
  exact ⟨v', history,
    (crash_atomic Sample.roundTrips Sample.collisionFree start history on "trade" rfl).1⟩

/-! ## The shelf -/

/-- What the client's observer of a shelf says of an operation. -/
def Op.Reflected (id : String) (s s' : Client.Shelf) :
    Op → Option (Except Error (Option PendingSpend)) → Prop
  | .new, _ => s' = s
  | .save spend, some r => (Client.shelf id).answered s (.save spend) (r.map fun _ => ()) s'
  | .save spend, none => (Client.shelf id).lost s (.save spend) s'
  | .load id', some r => (Client.shelf id).answered s (.load id') r s'
  | .load id', none => (Client.shelf id).lost s (.load id') s'
  | .remove id', some r => (Client.shelf id).answered s (.remove id') (r.map fun _ => ()) s'
  | .remove id', none => (Client.shelf id).lost s (.remove id') s'

/-- An act leaves a record, as it was or as the operation is to leave it. -/
theorem Acted.exists_recorded (acted : Acted L store v a v') (roundTrips : L.RoundTrips)
    (collisionFree : L.CollisionFree ids) (on : a.op.On ids) (member : ids id) {s : Client.Shelf}
    (before : Recorded L store v id s) :
    ∃ s', Recorded L store v' id s' ∧ (s' = s ∨ s' = (a.op.leaves id).getD s) ∧
      (a.Completed → s' = (a.op.leaves id).getD s) := by
  rcases acted.lookup_pathFor roundTrips collisionFree on member with
    ⟨same, open_⟩ | ⟨x, leaves, new⟩
  · refine ⟨s, (recorded_congr same s).mpr before, .inl rfl, fun completed => ?_⟩
    cases leaves : a.op.leaves id with
    | none => rfl
    | some x => exact absurd completed (open_ x leaves)
  · rw [leaves]
    exact ⟨x, new, .inr rfl, fun _ => rfl⟩

theorem effect_save_eq (s : Client.Shelf) (spend : PendingSpend) :
    s.effect id (.save spend) = (Op.leaves id (.save spend)).getD s := by
  rw [Client.Shelf.effect, Op.leaves]
  split <;> rfl

theorem effect_remove_eq (s : Client.Shelf) (id' : String) :
    s.effect id (.remove id') = (Op.leaves id (.remove id')).getD s := by
  rw [Client.Shelf.effect, Op.leaves]
  split <;> rfl

/-- **The store is a shelf for every id**: what an act does to the record of an id, and what it
answers, is what the client's calls are verified against. -/
theorem acted_refines_shelf (acted : Acted L store v a v') (roundTrips : L.RoundTrips)
    (collisionFree : L.CollisionFree ids) (on : a.op.On ids) (member : ids id) {s : Client.Shelf}
    (before : Recorded L store v id s) :
    ∃ s', Recorded L store v' id s' ∧ a.op.Reflected id s s' a.result := by
  obtain ⟨s', after, may, completed⟩ :=
    acted.exists_recorded roundTrips collisionFree on member before
  refine ⟨s', after, ?_⟩
  obtain ⟨op, result⟩ := a
  cases op with
  | new => exact may.elim (fun same => same) fun same => same
  | load id' =>
      obtain ⟨rfl, returns⟩ := acted.load
      obtain rfl := after.unique before
      cases result with
      | none => exact .inl rfl
      | some r =>
          cases r with
          | error e => exact .inl rfl
          | ok found =>
              refine ⟨fun own => ?_, rfl⟩
              subst own
              exact ((returns _ rfl found).mp rfl).unique before
  | save spend =>
      have effect := @effect_save_eq id s spend
      cases result with
      | none => exact may.imp_right fun new => new.trans effect.symm
      | some r =>
          cases r with
          | error e => exact may.imp_right fun new => new.trans effect.symm
          | ok found => exact (completed ⟨found, rfl⟩).trans effect.symm
  | remove id' =>
      have effect := @effect_remove_eq id s id'
      cases result with
      | none => exact may.imp_right fun new => new.trans effect.symm
      | some r =>
          cases r with
          | error e => exact may.imp_right fun new => new.trans effect.symm
          | ok found => exact (completed ⟨found, rfl⟩).trans effect.symm

end Files
end ArkadeEscrow
