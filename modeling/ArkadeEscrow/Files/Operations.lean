import ArkadeEscrow.Files.Store

/-!
# What the operations of the file-based store do

An operation on an id touches the two files of the id (`Touched`): the record is as it was, or it is
what the operation is to leave, and when a `save` has returned that is durable. Loading reads
what is recorded (`Recorded`), and opening the store makes nothing but empty directories
(`Built`). All of this holds wherever the operation is killed, and whichever of its steps fail.
-/

set_option autoImplicit false

namespace ArkadeEscrow
namespace Files

open Interaction Program

/-- Anything may be asked, if this is kept. -/
def keeps (keep : Volume → Prop) : Discipline interface Volume := ⟨fun _ _ => True, keep⟩

/-- A step keeps what holds wherever it is interrupted. -/
theorem achieves_step {keep : Volume → Prop} {post : Unit → Volume → Prop} {text : String}
    {s : Step} {v : Volume} (kept : keep v) (interrupted : ∀ v', Interrupted v s v' → keep v')
    (achieved : ∀ v', Effect v s v' → post () v') :
    Fallible.Achieves disk (keeps keep) post (inContext text (step s)) v := by
  refine ⟨trivial, kept, interrupted, fun answer v' answered => ?_⟩
  cases answer with
  | ok done =>
      refine ⟨interrupted v' (.whole answered), ?_⟩
      rintro ⟨⟩ _
      exact achieved v' answered
  | error e =>
      refine ⟨interrupted v' answered.1, ?_⟩
      rintro _ ⟨⟩

/-- A step that is done whole or not at all. -/
theorem achieves_whole {keep : Volume → Prop} {post : Unit → Volume → Prop} {text : String}
    {s : Step} {v : Volume} (other : ∀ path bytes, s ≠ .write path bytes) (kept : keep v)
    (achieved : ∀ v', Effect v s v' → keep v' ∧ post () v') :
    Fallible.Achieves disk (keeps keep) post (inContext text (step s)) v := by
  refine achieves_step kept (fun v' interrupted => ?_) fun v' effect => (achieved v' effect).2
  rcases interrupted.whole_or_nothing other with rfl | effect
  · exact kept
  · exact (achieved v' effect).1

/-! ## Opening the store -/

section New

variable {v v' v'' : Volume} {dir : Path}

/-- Empty directories have been made on the way to this one. -/
structure Built (dir : Path) (v v' : Volume) : Prop where
  found : ∀ name, v'.lookup (name :: dir) = v.lookup (name :: dir)
  anchored : Anchored v dir → v' = v
  loose : Anchored v' dir → Anchored v dir

theorem Built.refl (v : Volume) : Built dir v v := ⟨fun _ => rfl, fun _ => rfl, id⟩

theorem Built.trans (first : Built dir v v') (second : Built dir v' v'') : Built dir v v'' where
  found name := (second.found name).trans (first.found name)
  anchored here := by
    obtain rfl := first.anchored here
    exact second.anchored here
  loose here := first.loose (second.loose here)

theorem built_mkdir {path : Path} (above : path <:+ dir) (made : Interrupted v (.mkdir path) v') :
    Built dir v v' := by
  cases made with
  | nothing => exact .refl v
  | whole effect =>
      cases effect with
      | mkdir parent missing =>
          refine ⟨fun name => ?_, fun anchored => ?_, fun anchored => ?_⟩
          · refine lookup_makeDir parent missing (above.trans (List.suffix_cons name dir)) ?_
            rintro rfl
            have shorter := above.length_le
            simp only [List.length_cons] at shorter
            omega
          · rw [(anchored.of_suffix above).lookup] at missing
            cases missing
          · exact absurd (anchored.of_suffix above) (not_anchored_makeDir parent missing)

/-- The requests that make a directory. -/
def MakesDir (dir : Path) (request : Ask) : Prop :=
  ∃ path, path <:+ dir ∧ (request = .step (.mkdir path) ∨ request = .isDir path)

theorem confined_unlessDir {path : Path} (above : path <:+ dir) (e : IoError) :
    Confined (MakesDir dir) (unlessDir path e).run := by
  refine .ask ⟨path, above, .inr rfl⟩ fun answer => ?_
  cases answer with
  | false => exact .done _
  | true => exact .done _

theorem confined_createDirAll {path : Path} (above : path <:+ dir) :
    Confined (MakesDir dir) (createDirAll path).run := by
  induction path with
  | nil =>
      rw [createDirAll, Fallible.run_attempt_bind]
      refine .ask ⟨[], above, .inl rfl⟩ fun answer => ?_
      cases answer with
      | ok done => exact .done _
      | error e =>
          show Confined _ (ExceptT.run (ite _ _ _))
          split
          · exact .done _
          · exact confined_unlessDir above e
  | cons name rest ih =>
      have parent := ih ((List.suffix_cons name rest).trans above)
      rw [createDirAll, Fallible.run_attempt_bind]
      refine .ask ⟨_, above, .inl rfl⟩ fun answer => ?_
      cases answer with
      | ok done => exact .done _
      | error e =>
          show Confined _ (ExceptT.run (ite _ _ _))
          split
          · refine Fallible.confined_bind parent fun _ => ?_
            rw [Fallible.run_attempt_bind]
            refine .ask ⟨_, above, .inl rfl⟩ fun answer => ?_
            cases answer with
            | ok done => exact .done _
            | error e => exact confined_unlessDir above e
          · exact confined_unlessDir above e

/-- **Opening the store** makes empty directories. -/
theorem new_upholds (v : Volume) :
    Upholds disk (keeps (Built dir v)) (fun _ _ => True) (FileSpendStore.new dir).run v := by
  have confined : Confined (MakesDir dir) (FileSpendStore.new dir).run :=
    Fallible.confined_bind ((confined_createDirAll (List.suffix_refl dir)).map _) fun _ => .done _
  refine confined.upholds (J := Built dir v) ?_ (fun _ _ _ => trivial) (.refl v)
  rintro request s ⟨path, above, rfl | rfl⟩ built
  · have step (s' : Volume) (made : Interrupted s (.mkdir path) s') : Built dir v s' :=
      built.trans (built_mkdir above made)
    refine ⟨trivial, built, step, fun answer s' answered => ?_⟩
    cases answer with
    | ok done => exact ⟨step s' (.whole answered), step s' (.whole answered)⟩
    | error e => exact ⟨step s' answered.1, step s' answered.1⟩
  · refine ⟨trivial, built, ?_, ?_⟩
    · rintro s' rfl
      exact built
    · rintro answer s' ⟨_, rfl⟩
      exact ⟨built, built⟩

end New

/-! ## The files of an id -/

section Touched

variable {L : FileLib} {store : FileSpendStore} {id : String} {x : Option Node}
variable {v v' : Volume}

variable (L store id x) in
/-- Only the two files of the id have been changed. The record is as it was or as it is to be. -/
structure Touched (v v' : Volume) : Prop where
  others : ∀ p, p ≠ store.pathFor L id → p ≠ store.tmpFor L id → (v p).Settled (v' p)
  outside : ∀ p, p.tail? ≠ some store.dir → v' p = v p
  own : (v (store.pathFor L id)).Settled (v' (store.pathFor L id)) ∨
    v.lookup store.dir = .ok .directory ∧ (v' (store.pathFor L id)).now = x ∧
      ∀ y, (v' (store.pathFor L id)).May y → y = x ∨ (v (store.pathFor L id)).May y

/-- What is on the way to the store has not been changed. -/
theorem Touched.lookup_dir (touched : Touched L store id x v v') :
    v'.lookup store.dir = v.lookup store.dir :=
  lookup_congr fun p above nonempty => by rw [touched.outside p (tail?_ne_of_suffix above nonempty)]

theorem Touched.anchored_iff (touched : Touched L store id x v v') :
    Anchored v' store.dir ↔ Anchored v store.dir :=
  anchored_congr fun p above nonempty => touched.outside p (tail?_ne_of_suffix above nonempty)

theorem touched_refl (v : Volume) : Touched L store id x v v :=
  ⟨fun _ _ _ => .inl rfl, fun _ _ => rfl, .inl (.inl rfl)⟩

/-- A temporary file, whatever is in it. -/
theorem touched_draft (v : Volume) (slot : Slot) :
    Touched L store id x v (Function.update v (store.tmpFor L id) slot) where
  others p _ other := .inl (Function.update_of_ne other ..)
  outside p outside := by
    refine Function.update_of_ne ?_ ..
    rintro rfl
    exact outside rfl
  own := .inl (.inl (Function.update_of_ne (FileSpendStore.pathFor_ne_tmpFor id id) ..))

/-- The record is another. -/
theorem touched_put (slot : Slot) (found : v.lookup store.dir = .ok .directory) :
    Touched L store id x v (Function.update (Function.update v (store.tmpFor L id) slot)
      (store.pathFor L id) ((v (store.pathFor L id)).put x)) where
  others p own other := by
    rw [Function.update_of_ne own, Function.update_of_ne other]
    exact .inl rfl
  outside p outside := by
    rw [Function.update_of_ne, Function.update_of_ne]
    all_goals
      rintro rfl
      exact outside rfl
  own := by
    rw [Function.update_self]
    exact .inr ⟨found, rfl, fun y may => Slot.may_put.mp may⟩

theorem Touched.syncDir (touched : Touched L store id x v v') :
    Touched L store id x v (v'.syncDir store.dir) where
  others p own other := by
    have settled := touched.others p own other
    rw [Volume.syncDir]
    split
    · exact settled.sync
    · exact settled
  outside p outside := by
    rw [Volume.syncDir, if_neg outside]
    exact touched.outside p outside
  own := by
    have child : (store.pathFor L id).tail? = some store.dir := rfl
    rw [Volume.syncDir, if_pos child]
    rcases touched.own with settled | ⟨found, now, may⟩
    · exact .inl settled.sync
    · refine .inr ⟨found, now, fun y after => may y ?_⟩
      rcases after with same | member
      · exact .inl same
      · cases member

end Touched

/-! ## The operations on an id -/

section Operations

variable {L : FileLib} {store : FileSpendStore} {id : String} {x : Option Node}
variable {v v₁ : Volume}

/-- Syncing the directory, at the end of an operation. -/
theorem syncDir_achieves (touched : Touched L store id x v v₁) :
    Fallible.Achieves disk (keeps (Touched L store id x v))
      (fun _ v' => v₁.lookup store.dir = .ok .directory ∧ v' = v₁.syncDir store.dir)
      store.syncDir v₁ := by
  rw [FileSpendStore.syncDir, Fallible.achieves_bind]
  refine achieves_whole nofun touched fun v' opened => ?_
  cases opened with
  | openDir found =>
      refine ⟨touched, achieves_whole nofun touched fun v' synced => ?_⟩
      cases synced with
      | syncDir found => exact ⟨touched.syncDir, found, rfl⟩

/-- What is found in a temporary file. -/
theorem now_of_found {slot : Slot} {f : File}
    (found : Volume.lookup (Function.update v (store.tmpFor L id) slot) (store.tmpFor L id) =
      .ok (.file f)) : slot.now = some (.file f) := by
  have now := (lookup_cons_ok found).2
  rwa [← FileSpendStore.tmpFor, Function.update_self] at now

/-- The temporary file is created. -/
theorem create_inv (created : Effect v (.create (store.tmpFor L id)) v₁) :
    v.lookup store.dir = .ok .directory ∧ ∃ slot, slot.now = some (.file ⟨[], false⟩) ∧
      v₁ = Function.update v (store.tmpFor L id) slot := by
  cases created with
  | create parent missing => exact ⟨parent, _, rfl, rfl⟩
  | truncate found => exact ⟨(lookup_cons_ok found).1, _, rfl, rfl⟩

/-- Something is written to it. -/
theorem write_inv {slot : Slot} {bytes : List UInt8} (new : slot.now = some (.file ⟨[], false⟩))
    (written : Effect (Function.update v (store.tmpFor L id) slot)
      (.write (store.tmpFor L id) bytes) v₁) :
    ∃ slot', slot'.now = some (.file ⟨bytes, false⟩) ∧
      v₁ = Function.update v (store.tmpFor L id) slot' := by
  cases written with
  | write _ found =>
      cases new.symm.trans (now_of_found found)
      exact ⟨_, rfl, Function.update_idem ..⟩

theorem syncFile_inv {slot : Slot} {bytes : List UInt8}
    (new : slot.now = some (.file ⟨bytes, false⟩))
    (synced : Effect (Function.update v (store.tmpFor L id) slot)
      (.syncFile (store.tmpFor L id)) v₁) :
    ∃ slot', slot'.now = some (.file ⟨bytes, true⟩) ∧
      v₁ = Function.update v (store.tmpFor L id) slot' := by
  cases synced with
  | syncFile found =>
      cases new.symm.trans (now_of_found found)
      exact ⟨_, rfl, Function.update_idem ..⟩

/-- It takes the place of the record. -/
theorem rename_inv {slot : Slot} {bytes : List UInt8} (new : slot.now = some (.file ⟨bytes, true⟩))
    (renamed : Effect (Function.update v (store.tmpFor L id) slot)
      (.rename (store.tmpFor L id) (store.pathFor L id)) v₁) :
    v.lookup store.dir = .ok .directory ∧ ∃ slot',
      v₁ = Function.update (Function.update v (store.tmpFor L id) slot') (store.pathFor L id)
        ((v (store.pathFor L id)).put (some (.file ⟨bytes, true⟩))) := by
  cases renamed with
  | rename found parent free other =>
      cases new.symm.trans (now_of_found found)
      refine ⟨(lookup_update_of_child rfl slot).symm.trans parent, slot.put none, ?_⟩
      rw [Function.update_self, Function.update_of_ne (FileSpendStore.pathFor_ne_tmpFor id id),
        Function.update_idem]

theorem save_eq {spend : PendingSpend} {json : String}
    (printed : L.toStringPretty spend = .ok json) :
    store.save L spend = (do
      let path := store.pathFor L spend.id
      let tmp := store.tmpFor L spend.id
      inContext s!"creating {display tmp}" (step (.create tmp))
      inContext s!"writing {display tmp}" (step (.write tmp (encodeUtf8 json)))
      inContext s!"syncing {display tmp}" (step (.syncFile tmp))
      inContext s!"renaming {display tmp} → {display path}" (step (.rename tmp path))
      store.syncDir) := by
  rw [FileSpendStore.save, printed, FileSpendStore.withExtension_pathFor]
  rfl

/-- **Saving a record** touches only the files of its id. When it has returned, the record is
durable in its directory. -/
theorem save_achieves {spend : PendingSpend} {json : String}
    (printed : L.toStringPretty spend = .ok json) (v : Volume) :
    Fallible.Achieves disk
      (keeps (Touched L store spend.id (some (.file ⟨encodeUtf8 json, true⟩)) v))
      (fun _ v' => v'.lookup store.dir = .ok .directory ∧
        v' (store.pathFor L spend.id) = ⟨some (.file ⟨encodeUtf8 json, true⟩), []⟩)
      (store.save L spend) v := by
  have draft (slot : Slot) := @touched_draft L store spend.id
    (some (.file ⟨encodeUtf8 json, true⟩)) v slot
  rw [save_eq printed, Fallible.achieves_bind]
  refine achieves_whole nofun (touched_refl v) fun v₁ created => ?_
  obtain ⟨found, slot, new, rfl⟩ := create_inv created
  rw [Fallible.achieves_bind]
  refine ⟨draft slot, achieves_step (draft slot) (fun v' written => ?_) fun v₁ written => ?_⟩
  · -- Whatever part has been written, it is in the temporary file.
    cases written with
    | nothing => exact draft slot
    | whole effect =>
        obtain ⟨slot, _, rfl⟩ := write_inv new effect
        exact draft slot
    | written _ effect =>
        obtain ⟨slot, _, rfl⟩ := write_inv new effect
        exact draft slot
  obtain ⟨slot, new, rfl⟩ := write_inv new written
  rw [Fallible.achieves_bind]
  refine achieves_whole nofun (draft slot) fun v₁ synced => ?_
  obtain ⟨slot, new, rfl⟩ := syncFile_inv new synced
  rw [Fallible.achieves_bind]
  refine ⟨draft slot, achieves_whole nofun (draft slot) fun v₁ renamed => ?_⟩
  obtain ⟨_, slot, rfl⟩ := rename_inv new renamed
  have touched : Touched L store spend.id (some (.file ⟨encodeUtf8 json, true⟩)) v _ :=
    touched_put slot found
  refine ⟨touched, (syncDir_achieves touched).mono fun r v' ended done same => ?_⟩
  obtain ⟨here, rfl⟩ := ended done same
  refine ⟨touched.syncDir.lookup_dir.trans found, ?_⟩
  have child : (store.pathFor L spend.id).tail? = some store.dir := rfl
  rw [Volume.syncDir, if_pos child, Function.update_self]
  rfl

/-- **Removing a record** touches only the files of its id. When it has returned, no record is
found. -/
theorem remove_achieves (id : String) (v : Volume) :
    Fallible.Achieves disk (keeps (Touched L store id none v))
      (fun _ v' => v'.lookup (store.pathFor L id) = .error .notFound) (store.remove L id) v := by
  have path : (store.pathFor L id).tail? = some store.dir := rfl
  have removed (v' : Volume) (effect : Effect v (.removeFile (store.pathFor L id)) v') :
      v.lookup store.dir = .ok .directory ∧ v' = Function.update (Function.update v
        (store.tmpFor L id) (v (store.tmpFor L id))) (store.pathFor L id)
          ((v (store.pathFor L id)).put none) := by
    cases effect with
    | removeFile found => exact ⟨(lookup_cons_ok found).1, by rw [Function.update_eq_self]⟩
  have touched (v' : Volume) (interrupted : Interrupted v (.removeFile (store.pathFor L id)) v') :
      Touched L store id none v v' := by
    cases interrupted with
    | nothing => exact touched_refl v
    | whole effect =>
        obtain ⟨found, rfl⟩ := removed v' effect
        exact touched_put _ found
  refine ⟨trivial, touched_refl v, touched, fun answer v' answered => ?_⟩
  cases answer with
  | ok done =>
      refine ⟨touched v' (.whole answered), ?_⟩
      refine (syncDir_achieves (touched v' (.whole answered))).mono fun r v'' ended done same => ?_
      obtain ⟨here, rfl⟩ := ended done same
      obtain ⟨found, rfl⟩ := removed v' answered
      have dir := (touched _ (.whole answered)).syncDir.lookup_dir.trans found
      rw [lookup_of_child path dir, Volume.syncDir, if_pos path, Function.update_self]
      rfl
  | error e =>
      refine ⟨touched v' answered.1, ?_⟩
      show Upholds _ _ _ (ExceptT.run (ite _ _ _)) _
      split
      · next kind =>
          obtain ⟨needed, member, missing⟩ := answered.2 kind
          obtain rfl := List.mem_singleton.mp member
          rintro ⟨⟩ _
          cases answered.1 with
          | nothing => exact missing
          | whole effect =>
              cases effect with
              | removeFile found =>
                  rw [found] at missing
                  cases missing
      · rintro _ ⟨⟩

variable (L store) in
/-- What is recorded under an id. -/
def Recorded (v : Volume) (id : String) : Option PendingSpend → Prop
  | none => v.lookup (store.pathFor L id) = .error .notFound
  | some spend => ∃ f json, v.lookup (store.pathFor L id) = .ok (.file f) ∧
      decodeUtf8 f.contents = some json ∧ L.fromStr json = .ok spend

theorem recorded_iff_of_missing (missing : v.lookup (store.pathFor L id) = .error .notFound)
    (found : Option PendingSpend) : Recorded L store v id found ↔ found = none := by
  cases found with
  | none => simp [Recorded, missing]
  | some spend => simp [Recorded, missing]

theorem recorded_iff_of_file {f : File} (here : v.lookup (store.pathFor L id) = .ok (.file f))
    (found : Option PendingSpend) : Recorded L store v id found ↔
      ∃ spend json, found = some spend ∧ decodeUtf8 f.contents = some json ∧
        L.fromStr json = .ok spend := by
  cases found with
  | none => simp [Recorded, here]
  | some spend => simp [Recorded, here]

/-- Where there is neither a file nor nothing, there is no record. -/
theorem not_recorded (missing : v.lookup (store.pathFor L id) ≠ .error .notFound)
    (other : ∀ f, v.lookup (store.pathFor L id) ≠ .ok (.file f)) (found : Option PendingSpend) :
    ¬Recorded L store v id found := by
  intro recorded
  cases found with
  | none => exact missing recorded
  | some spend =>
      obtain ⟨f, json, here, _⟩ := recorded
      exact other f here

variable (L store id) in
/-- What `load` makes of the answer to its only request. -/
def loaded : Except IoError (List UInt8) → Except Error (Option PendingSpend)
  | .ok bytes =>
      match decodeUtf8 bytes with
      | some json =>
          (withContext s!"parsing {display (store.pathFor L id)}" (ofDisplay (L.fromStr json))).map
            some
      | none => .error ((Error.msg "stream did not contain valid UTF-8").context
          s!"reading {display (store.pathFor L id)}")
  | .error e =>
      if e.kind = .notFound then .ok none
      else .error (e.toError.context s!"reading {display (store.pathFor L id)}")

theorem load_run : (store.load L id).run =
    .ask (I := interface) (.read (store.pathFor L id)) fun answer =>
      .done (loaded L store id answer) := by
  refine congrArg (Program.ask (I := interface) (.read (store.pathFor L id)))
    (funext fun answer => ?_)
  cases answer with
  | error e =>
      show ExceptT.run (ite _ _ _) = _
      rw [loaded]
      split <;> rfl
  | ok bytes =>
      rw [loaded]
      simp only [Program.bind, ExceptT.bindCont]
      cases decodeUtf8 bytes with
      | none => rfl
      | some json =>
          show ExceptT.run (check (withContext _ (ofDisplay (L.fromStr json))) >>=
            fun spend => pure (some spend)) = _
          dsimp only
          cases L.fromStr json <;> rfl

/-- **Loading a record** returns what is recorded. -/
theorem loaded_eq_ok_iff {answer : Except IoError (List UInt8)} {v' : Volume}
    (answered : Answered v (.read (store.pathFor L id)) answer v') (found : Option PendingSpend) :
    loaded L store id answer = .ok found ↔ Recorded L store v id found := by
  cases answer with
  | error e =>
      obtain ⟨missing, rfl⟩ := answered
      rw [loaded]
      split
      · next kind =>
          rw [kind] at missing
          have missing := missing.resolve_right fun other => by cases other.2
          rw [recorded_iff_of_missing missing, Except.ok.injEq, eq_comm]
      · next kind =>
          refine ⟨fun same => (by cases same), fun recorded => ?_⟩
          refine absurd recorded (not_recorded ?_ ?_ found)
          all_goals
            intros
            rcases missing with missing | ⟨missing, _⟩ <;> simp [missing, kind]
  | ok bytes =>
      obtain ⟨⟨f, here, rfl⟩, rfl⟩ := answered
      rw [loaded, recorded_iff_of_file here]
      cases text : decodeUtf8 f.contents with
      | none => simp
      | some json =>
          cases parsed : L.fromStr json with
          | error e => simp [withContext, ofDisplay, Except.mapError, Except.map, parsed]
          | ok spend =>
              simp [withContext, ofDisplay, Except.mapError, Except.map, parsed, eq_comm]

theorem load_upholds (id : String) (v : Volume) :
    Upholds disk (keeps (· = v))
      (fun r v' => v' = v ∧ ∀ found, r = .ok found ↔ Recorded L store v id found)
      (store.load L id).run v := by
  rw [load_run]
  refine ⟨trivial, rfl, fun v' lost => lost, fun answer v' answered => ?_⟩
  have same : v' = v := by cases answer <;> exact answered.2
  exact ⟨same, same, loaded_eq_ok_iff answered⟩

end Operations

end Files
end ArkadeEscrow
