import ArkadeEscrow.Files.History

/-!
# Operations that succeed

The converse of what the operations may do: a directory can be created where its parent is
(`acted_new`), and a record can be saved where its two files are not directories
(`exists_acted_save`).
-/

set_option autoImplicit false

namespace ArkadeEscrow
namespace Files

open Interaction Program
open Service (Follows)

section Runs

variable {α β : Type} {L : FileLib} {store : FileSpendStore} {v v' v₁ : Volume}

/-- From one volume to the other the action can return this. -/
def Runs (x : Action α) (v : Volume) (a : α) (v' : Volume) : Prop :=
  ∃ events, Fallible.Returns x events a ∧ Follows disk v events v'

theorem Runs.bind {x : Action α} {f : α → Action β} {a : α} {b : β} (first : Runs x v a v₁)
    (rest : Runs (f a) v₁ b v') : Runs (x >>= f) v b v' := by
  obtain ⟨events, returns, follows⟩ := first
  obtain ⟨events', returns', follows'⟩ := rest
  exact ⟨_, returns.bind returns', follows_append.mpr ⟨v₁, follows, follows'⟩⟩

theorem returns_step (s : Step) (text : String) :
    Fallible.Returns (inContext text (step s))
      [.sent (.step s), .answered (.step s) (.ok ())] () :=
  Interaction.Returns.map (Interaction.Returns.request (I := interface) (.step s) (.ok ())) _

theorem runs_step {s : Step} (effect : Effect v s v') (text : String) :
    Runs (inContext text (step s)) v () v' :=
  ⟨_, returns_step s text, follows_exchange effect (.nil v')⟩

theorem Runs.acted {op : Op} {x : Action Unit} (runs : Runs x v () v')
    (program : op.program L store = (fun _ => none) <$> x) :
    Acted L store v ⟨op, some (.ok none)⟩ v' := by
  obtain ⟨events, returns, follows⟩ := runs
  refine .returned ?_ follows
  rw [program]
  exact Fallible.Returns.map returns _

/-! ## Opening the store -/

theorem acted_new (parent : v.lookup store.dir.tail = .ok .directory)
    (missing : v.lookup store.dir = .error .notFound) :
    Acted L store v ⟨.new, some (.ok none)⟩ (v.makeDir store.dir) := by
  obtain ⟨dir⟩ := store
  cases dir with
  | nil => cases missing
  | cons name rest =>
      have made : Interaction.Returns (createDirAll (name :: rest)).run
          [.sent (.step (.mkdir (name :: rest))),
            .answered (.step (.mkdir (name :: rest))) (.ok ())] (.ok ()) := by
        rw [createDirAll, Fallible.run_attempt_bind]
        exact .exchange (I := interface) (.step (.mkdir (name :: rest))) (.ok ()) (.stop _)
      have effect : Answered v (.step (.mkdir (name :: rest))) (.ok ())
          (v.makeDir (name :: rest)) :=
        .mkdir parent missing
      have opened : Fallible.Returns (inContext
          s!"creating spend store directory: {display (name :: rest)}"
          (createDirAll (name :: rest)))
          _ () := Interaction.Returns.map made _
      have new : Fallible.Returns (FileSpendStore.new (name :: rest)) _ ⟨name :: rest⟩ :=
        Fallible.Returns.bind opened (.stop _)
      exact .returned (Fallible.Returns.map new _) (follows_exchange effect (.nil _))

/-! ## Saving a record -/

/-- A file in the directory can be created, unless a directory has its name. -/
theorem exists_create {path dir : Path} (child : path.tail? = some dir)
    (found : v.lookup dir = .ok .directory) (free : (v path).now ≠ some .directory) :
    ∃ v', Effect v (.create path) v' := by
  have here := lookup_of_child child found
  have parent : v.lookup path.tail = .ok .directory := by
    cases path with
    | nil => rfl
    | cons name rest =>
        cases child
        exact found
  cases slot : (v path).now with
  | none => exact ⟨_, .create parent (here.trans (by rw [slot]; rfl))⟩
  | some node =>
      cases node with
      | directory => exact absurd slot free
      | file f => exact ⟨_, .truncate (here.trans (by rw [slot]; rfl))⟩

/-- **A record can be saved.** -/
theorem exists_acted_save {spend : PendingSpend} {json : String}
    (printed : L.toStringPretty spend = .ok json) (found : v.lookup store.dir = .ok .directory)
    (tmp : (v (store.tmpFor L spend.id)).now ≠ some .directory)
    (path : (v (store.pathFor L spend.id)).now ≠ some .directory) :
    ∃ v', Acted L store v ⟨.save spend, some (.ok none)⟩ v' := by
  have child : (store.tmpFor L spend.id).tail? = some store.dir := rfl
  have draft (slot : Slot) (f : File) (new : slot.now = some (.file f)) :
      Volume.lookup (Function.update v (store.tmpFor L spend.id) slot) (store.tmpFor L spend.id) =
        .ok (.file f) := by
    rw [lookup_of_child child ((lookup_update_of_child child slot).trans found),
      Function.update_self, new]
    rfl
  obtain ⟨v₁, created⟩ := exists_create child found tmp
  obtain ⟨_, slot₁, new₁, rfl⟩ := create_inv created
  have written := Effect.write (encodeUtf8 json) (draft slot₁ _ new₁)
  obtain ⟨slot₂, new₂, same₂⟩ := write_inv new₁ written
  rw [same₂] at written
  have synced := Effect.syncFile (draft slot₂ _ new₂)
  obtain ⟨slot₃, new₃, same₃⟩ := syncFile_inv new₂ synced
  rw [same₃] at synced
  have parent : Volume.lookup (Function.update v (store.tmpFor L spend.id) slot₃)
      (store.pathFor L spend.id).tail = .ok .directory :=
    (lookup_update_of_child child slot₃).trans found
  have free : Volume.lookup (Function.update v (store.tmpFor L spend.id) slot₃)
      (store.pathFor L spend.id) ≠ .ok .directory := by
    intro directory
    have other := @FileSpendStore.pathFor_ne_tmpFor L store spend.id spend.id
    have slot := (lookup_cons_ok directory).2
    rw [← FileSpendStore.pathFor, Function.update_of_ne other] at slot
    exact path slot
  have renamed := Effect.rename (draft slot₃ _ new₃) parent free
    (FileSpendStore.pathFor_ne_tmpFor spend.id spend.id).symm
  obtain ⟨_, slot₄, same₄⟩ := rename_inv new₃ renamed
  rw [same₄] at renamed
  have touched : Touched L store spend.id (some (.file ⟨encodeUtf8 json, true⟩)) v _ :=
    touched_put slot₄ found
  have there := touched.lookup_dir.trans found
  have ended : Runs store.syncDir _ () _ :=
    (runs_step (.openDir there) _).bind (runs_step (.syncDir there) _)
  obtain ⟨v', runs⟩ : ∃ v', Runs (store.save L spend) v () v' := by
    rw [save_eq printed]
    exact ⟨_, (runs_step created _).bind ((runs_step written _).bind ((runs_step synced _).bind
      ((runs_step renamed _).bind ended)))⟩
  exact ⟨v', runs.acted rfl⟩

/-- The process can be killed while it writes. -/
theorem acted_killed {spend : PendingSpend} {json : String}
    (printed : L.toStringPretty spend = .ok json)
    (created : Effect v (.create (store.tmpFor L spend.id)) v₁)
    (interrupted : Interrupted v₁ (.write (store.tmpFor L spend.id) (encodeUtf8 json)) v') :
    Acted L store v ⟨.save spend, none⟩ v' := by
  have emits : Emits (Op.program L store (.save spend)).run
      ([.sent (.step (.create (store.tmpFor L spend.id))),
        .answered (.step (.create (store.tmpFor L spend.id))) (.ok ())] ++
        [.sent (.step (.write (store.tmpFor L spend.id) (encodeUtf8 json)))]) := by
    rw [Op.program, save_eq printed, ExceptT.run_map]
    refine Emits.bind ?_ _
    exact (returns_step _ _).emits_bind (.send _ _)
  obtain ⟨t, run⟩ := emits
  obtain ⟨next, rfl⟩ := run.waits rfl
  refine .killed run (follows_append.mpr ⟨v₁, follows_exchange created (.nil v₁), ?_⟩)
    (.lose next interrupted)
  exact .sent (O := disk) _ (.nil v₁)

end Runs

/-! ## A sample store -/

namespace Sample

/-- A record as it is before the submit. -/
def record : PendingSpend where
  id := "trade"
  arkTxid := "00"
  signedCheckpoints := []
  stage := .submitting
  token := "1f"
  arkTx := none
  unsignedCheckpoints := []
  partySignedCheckpoints := []
  serverSignedArkTx := none

def json : String :=
  "\x7b\n  \"id\": \"trade\",\n  \"ark_txid\": \"00\",\n  \"signed_checkpoints\": [],\n" ++
  "  \"stage\": \"submitting\",\n  \"token\": \"1f\",\n  \"ark_tx\": null,\n" ++
  "  \"unsigned_checkpoints\": [],\n  \"party_signed_checkpoints\": [],\n" ++
  "  \"server_signed_ark_tx\": null\n\x7d"

/-- The hash of `trade`. -/
def digest : Vector UInt8 32 :=
  #v[0x27, 0x64, 0x46, 0xba, 0x01, 0xe3, 0xaa, 0x38, 0x7c, 0x83, 0xb0, 0x6f, 0x54, 0xfc, 0xcc, 0x5a,
    0xc6, 0x5b, 0xdc, 0x60, 0x99, 0x15, 0x7a, 0x2a, 0x82, 0x87, 0x16, 0xea, 0xc9, 0xc6, 0xfd, 0x4d]

/-- The hash of one id and the JSON of one record. -/
def fileLib : FileLib where
  sha256 bytes := if bytes = encodeUtf8 "trade" then digest else Vector.replicate 32 0
  toStringPretty spend := if spend = record then .ok json else .error "not the sample record"
  fromStr text := if text = json then .ok record else .error "not the sample record"

def store : FileSpendStore := ⟨["spends"]⟩

/-- There is nothing but the root. -/
def blank : Volume := fun _ => .empty

/-- The store has been opened for the first time. -/
def opened : Volume := blank.makeDir store.dir

theorem toStringPretty_eq_ok_iff {spend : PendingSpend} {text : String} :
    fileLib.toStringPretty spend = .ok text ↔ spend = record ∧ text = json := by
  simp only [fileLib]
  split
  · next same => simp [same, eq_comm]
  · next other => simp [other]

theorem fromStr_json : fileLib.fromStr json = .ok record := by
  simp only [fileLib, if_true]

theorem toStringPretty_record : fileLib.toStringPretty record = .ok json :=
  toStringPretty_eq_ok_iff.mpr ⟨rfl, rfl⟩

theorem acted_new_blank : Acted fileLib store blank ⟨.new, some (.ok none)⟩ opened :=
  acted_new rfl rfl

theorem lookup_opened : opened.lookup store.dir = .ok .directory := lookup_makeDir_self rfl rfl

theorem opened_of_child {path : Path} (child : path.tail? = some store.dir) :
    opened path = .empty := by
  have own : path ≠ store.dir := by
    rintro rfl
    cases child
  rw [opened, Volume.makeDir, if_neg own, if_pos child]

/-- The sample record is saved. -/
theorem exists_saved : ∃ v', Acted fileLib store opened ⟨.save record, some (.ok none)⟩ v' := by
  refine exists_acted_save toStringPretty_record lookup_opened ?_ ?_
  all_goals
    rw [opened_of_child rfl]
    exact (Option.some_ne_none _).symm

/-- The directory of the store has been there for long. -/
def settled : Volume := fun path => if path = store.dir then ⟨some .directory, []⟩ else .empty

theorem anchored_settled : Anchored settled store.dir := by
  refine ⟨trivial, fun x may => ?_⟩
  rcases may with rfl | member
  · rfl
  · cases member

theorem settled_of_child {path : Path} (child : path.tail? = some store.dir) :
    settled path = .empty := by
  refine if_neg ?_
  rintro rfl
  cases child

theorem exists_saved_settled :
    ∃ v', Acted fileLib store settled ⟨.save record, some (.ok none)⟩ v' := by
  refine exists_acted_save toStringPretty_record anchored_settled.lookup ?_ ?_
  all_goals
    rw [settled_of_child rfl]
    exact (Option.some_ne_none _).symm

/-- The process is killed when it has written a part of the temporary file. -/
theorem exists_killed : ∃ v', Acted fileLib store opened ⟨.save record, none⟩ v' := by
  have child : (store.tmpFor fileLib record.id).tail? = some store.dir := rfl
  have free : (opened (store.tmpFor fileLib record.id)).now ≠ some .directory := by
    rw [opened_of_child child]
    exact (Option.some_ne_none _).symm
  obtain ⟨v₁, created⟩ := exists_create child lookup_opened free
  obtain ⟨_, slot, new, rfl⟩ := create_inv created
  have found : Volume.lookup (Function.update opened (store.tmpFor fileLib record.id) slot)
      (store.tmpFor fileLib record.id) = .ok (.file ⟨[], false⟩) := by
    rw [lookup_of_child child ((lookup_update_of_child child slot).trans lookup_opened),
      Function.update_self, new]
    rfl
  exact ⟨_, acted_killed toStringPretty_record created
    (.written (List.take_prefix 3 _) (.write _ found))⟩

end Sample

end Files
end ArkadeEscrow
