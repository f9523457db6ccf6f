import ArkadeEscrow.Client.Outstanding
import ArkadeEscrow.Files.Atomic

/-!
# The client over the file-based store

The client has been verified against a shelf, and here its store is a directory: each request is
served by the operation of the `FileSpendStore`, which may fail or be killed at any of its
file-system steps. Meanwhile other calls operate on other ids, and other processes open the store.
The volume simulates the shelf of each id (`simulates_shelf`), so what the calls uphold over the
shelf they uphold over the directory.

`outstanding_survives` is what this is for: whatever is outstanding when the process is killed, the
directory still loads a record that has what a retry needs.
-/

set_option autoImplicit false

namespace ArkadeEscrow
namespace Files

open Interaction Program
open Service (Follows)
open Client (Shelf shelf)

/-- The files hold the pretty JSON of the records. -/
def FileLib.serde (sha256 : List UInt8 → Vector UInt8 32) (J : JsonText) : FileLib where
  sha256 := sha256
  toStringPretty spend := J.toStringPretty spend.toJson
  fromStr := J.fromStr

theorem FileLib.roundTrips_serde {J : JsonText} (trips : J.RoundTrips)
    (sha256 : List UInt8 → Vector UInt8 32) : (FileLib.serde sha256 J).RoundTrips :=
  fun _ _ written => trips.fromStr (.inr written)

/-- The file-based store has the default conditional operations. -/
def FileSpendStore.spendStore : SpendStore := ⟨false, false⟩

/-- The operation of the store that serves a request. -/
def servingOp : Client.Ask → Option Op
  | .load id => some (.load id)
  | .save spend => some (.save spend)
  | .remove id => some (.remove id)
  | _ => none

/-- The request is served by the store, or it is none for the store. It has no conditional
operations of its own. -/
def Serves (L : FileLib) (store : FileSpendStore) (v : Volume) :
    (request : Client.Ask) → request.Answer → Volume → Prop
  | .load id, r, v' => Acted L store v ⟨.load id, some r⟩ v'
  | .save spend, r, v' =>
      ∃ found, Acted L store v ⟨.save spend, some found⟩ v' ∧ r = found.map fun _ => ()
  | .remove id, r, v' =>
      ∃ found, Acted L store v ⟨.remove id, some found⟩ v' ∧ r = found.map fun _ => ()
  | .saveIf _, _, _ => False
  | .removeIf _ _, _, _ => False
  | _, _, v' => v' = v

/-- The process is killed while the request is served. -/
def Breaks (L : FileLib) (store : FileSpendStore) (v : Volume) (request : Client.Ask)
    (v' : Volume) : Prop :=
  match servingOp request with
  | some op => Acted L store v ⟨op, none⟩ v'
  | none => v' = v

/-- What goes on elsewhere: the store is opened, and operates on other ids. -/
def Elsewhere (L : FileLib) (store : FileSpendStore) (ids : String → Prop) (id : String)
    (v v' : Volume) : Prop :=
  ∃ h, History L store v h v' ∧ ∀ a ∈ h, a.op.On ids ∧ a.op.id? ≠ some id

/-- The volume, when the calls for an id are served by the store. -/
def backed (L : FileLib) (store : FileSpendStore) (ids : String → Prop) (id : String) :
    Observer Client.interface Volume where
  noted v _ := v
  sent v _ := v
  answered v request answer v' := ∃ v₁ v₂, Elsewhere L store ids id v v₁ ∧
    Serves L store v₁ request answer v₂ ∧ Elsewhere L store ids id v₂ v'
  lost v request v' := ∃ v₁ v₂, Elsewhere L store ids id v v₁ ∧
    Breaks L store v₁ request v₂ ∧ Elsewhere L store ids id v₂ v'

variable {L : FileLib} {store : FileSpendStore} {ids : String → Prop} {id : String}
variable {v v' : Volume} {s : Shelf}

/-- What goes on elsewhere leaves the record as it is. -/
theorem Elsewhere.recorded (elsewhere : Elsewhere L store ids id v v') (roundTrips : L.RoundTrips)
    (collisionFree : L.CollisionFree ids) (member : ids id) (recorded : Recorded L store v id s) :
    Recorded L store v' id s := by
  obtain ⟨h, history, apart⟩ := elsewhere
  induction history with
  | nil => exact recorded
  | @act h a v₁ v₂ history acted ih =>
      have before := ih fun b earlier => apart b (List.mem_cons_of_mem a earlier)
      obtain ⟨on, other⟩ := apart a List.mem_cons_self
      rcases acted.lookup_pathFor roundTrips collisionFree on member with ⟨same, _⟩ | ⟨x, leaves, _⟩
      · exact (recorded_congr same s).mpr before
      · exact absurd (Op.id?_of_leaves leaves) other

/-- What serves the request of a call for `id` is on `id`. -/
theorem on_of_key (member : ids id) {request : Client.Ask} (own : request.key id = id) {op : Op}
    (serving : servingOp request = some op) : op.On ids := by
  have name : op.id? = some id := by
    cases request with
    | load id' =>
        cases serving
        exact congrArg some own
    | save spend =>
        cases serving
        exact congrArg some own
    | remove id' =>
        cases serving
        exact congrArg some own
    | _ => cases serving
  intro id' same
  rw [name] at same
  exact Option.some.inj same ▸ member

/-- A request that is served leaves what the shelf says. -/
theorem Serves.refines (roundTrips : L.RoundTrips) (collisionFree : L.CollisionFree ids)
    (member : ids id) {request : Client.Ask} {answer : request.Answer} (own : request.key id = id)
    (serves : Serves L store v request answer v') (recorded : Recorded L store v id s) :
    ∃ s', (shelf id).answered s request answer s' ∧ Recorded L store v' id s' := by
  have refines {a : Act} (acted : Acted L store v a v') (serving : servingOp request = some a.op) :=
    acted_refines_shelf acted roundTrips collisionFree (on_of_key member own serving) member
      recorded
  cases request with
  | load id' =>
      obtain ⟨s', after, reflected⟩ := refines serves rfl
      exact ⟨s', reflected, after⟩
  | save spend =>
      obtain ⟨found, acted, rfl⟩ := serves
      obtain ⟨s', after, reflected⟩ := refines acted rfl
      exact ⟨s', reflected, after⟩
  | remove id' =>
      obtain ⟨found, acted, rfl⟩ := serves
      obtain ⟨s', after, reflected⟩ := refines acted rfl
      exact ⟨s', reflected, after⟩
  | saveIf spend => exact serves.elim
  | removeIf id' token => exact serves.elim
  | newToken =>
      obtain rfl := serves
      exact ⟨s, .inl rfl, recorded⟩
  | submit arkTx checkpointTxs =>
      obtain rfl := serves
      exact ⟨s, .inl rfl, recorded⟩
  | finalize arkTxid checkpoints =>
      obtain rfl := serves
      exact ⟨s, .inl rfl, recorded⟩

theorem Breaks.refines (roundTrips : L.RoundTrips) (collisionFree : L.CollisionFree ids)
    (member : ids id) {request : Client.Ask} (own : request.key id = id)
    (breaks : Breaks L store v request v') (recorded : Recorded L store v id s) :
    ∃ s', (shelf id).lost s request s' ∧ Recorded L store v' id s' := by
  rw [Breaks] at breaks
  cases serving : servingOp request with
  | none =>
      rw [serving] at breaks
      subst breaks
      exact ⟨s, .inl rfl, recorded⟩
  | some op =>
      rw [serving] at breaks
      obtain ⟨s', after, reflected⟩ := acted_refines_shelf breaks roundTrips collisionFree
        (on_of_key member own serving) member recorded
      refine ⟨s', ?_, after⟩
      cases request with
      | load id' => cases serving; exact reflected
      | save spend => cases serving; exact reflected
      | remove id' => cases serving; exact reflected
      | _ => cases serving

/-- **The volume simulates the shelf of an id.** -/
theorem simulates_shelf (roundTrips : L.RoundTrips) (collisionFree : L.CollisionFree ids)
    (member : ids id) :
    Simulates (fun request : Client.Ask => request.key id = id) (backed L store ids id)
      (shelf id) fun v s => Recorded L store v id s where
  noted _ recorded := recorded
  sent _ recorded := recorded
  answered := by
    rintro v s request answer v' own recorded ⟨v₁, v₂, before, serves, after⟩
    have recorded₁ := before.recorded roundTrips collisionFree member recorded
    obtain ⟨s', reply, recorded₂⟩ :=
      serves.refines roundTrips collisionFree member own recorded₁
    exact ⟨s', reply, after.recorded roundTrips collisionFree member recorded₂⟩
  lost := by
    rintro v s request v' own recorded ⟨v₁, v₂, before, breaks, after⟩
    have recorded₁ := before.recorded roundTrips collisionFree member recorded
    obtain ⟨s', reply, recorded₂⟩ :=
      breaks.refines roundTrips collisionFree member own recorded₁
    exact ⟨s', reply, after.recorded roundTrips collisionFree member recorded₂⟩

/-- Calls for an id that are given well-formed PSBTs, one after the other, each up to its end or
killed anywhere. -/
abbrev BackedCalls (B : BitcoinLib) (L : FileLib) (store : FileSpendStore) (ids : String → Prop)
    (id : String) :=
  Sequence (backed L store ids id) (Client.Call.program B FileSpendStore.spendStore)
    (fun call => call.id = id ∧ call.WellFormed) fun v => v

variable {B : BitcoinLib} {J : JsonText} {sha256 : List UInt8 → Vector UInt8 32}

/-- What every call keeps over the shelf, with a history variable, is kept by the directory. -/
theorem keep_of_backedCalls {γ : Type} {next : γ → Event Client.interface → γ}
    (silent : ∀ g remark, next g (.noted remark) = g) {D : Discipline Client.interface (Shelf × γ)}
    (within : ∀ x request, D.allow x request → request.key id = id)
    (safe : ∀ (call : Client.Call) x, call.id = id ∧ call.WellFormed → D.keep x →
      (call.program B FileSpendStore.spendStore).Safe
        ((shelf id).watched (Watch.ofEvents Shelf next)) D x)
    (json : J.RoundTrips) (collisionFree : (FileLib.serde sha256 J).CollisionFree ids)
    (member : ids id) {initial : Option PendingSpend}
    (start : Loads (FileLib.serde sha256 J) store v id (.ok initial)) {g : γ}
    (kept : D.keep (initial, g)) {h : List (Event Client.interface)}
    {t : Thread Client.interface (Except Error (Option Txid))} {v₁ : Volume}
    (run : BackedCalls B (FileLib.serde sha256 J) store ids id v h t v₁)
    (killed : Ends (backed (FileLib.serde sha256 J) store ids id) t v₁ v') :
    ∃ found, (∀ r, Loads (FileLib.serde sha256 J) store v' id r ↔ r = .ok found) ∧
      D.keep (found, h.foldl next g) := by
  have roundTrips := FileLib.roundTrips_serde json sha256
  obtain ⟨found, recorded, kept'⟩ := Simulates.keep_of_sequence silent
    (simulates_shelf roundTrips collisionFree member) within safe (recorded_of_loads start) kept
    run killed
  exact ⟨found, loads_iff recorded, kept'⟩

/-- **What is outstanding survives.** From a directory that loads a record of its own id or none:
whatever the calls for an id have done, whatever has gone on elsewhere, and wherever the process is
killed, the id loads, and as long as a submit is outstanding it loads a record that holds it. -/
theorem outstanding_survives (trips : B.PsbtRoundTrips) (json : J.RoundTrips)
    (collisionFree : (FileLib.serde sha256 J).CollisionFree ids) (member : ids id)
    {initial : Option PendingSpend}
    (start : Loads (FileLib.serde sha256 J) store v id (.ok initial))
    (named : ∀ record, initial = some record → record.id = id)
    {h : List (Event Client.interface)} {t : Thread Client.interface (Except Error (Option Txid))}
    {v₁ : Volume} (run : BackedCalls B (FileLib.serde sha256 J) store ids id v h t v₁)
    (killed : Ends (backed (FileLib.serde sha256 J) store ids id) t v₁ v') :
    ∃ found, (∀ r, Loads (FileLib.serde sha256 J) store v' id r ↔ r = .ok found) ∧
      ∀ sub, Client.outstanding h = some sub →
        ∃ record, found = some record ∧ Client.Holds B sub record := by
  have held : (Client.holding B id).keep (initial, none) := ⟨named, by rintro _ ⟨⟩⟩
  obtain ⟨found, loads, held⟩ := keep_of_backedCalls Client.outstandingNext_noted
    (fun _ _ allowed => allowed) (fun _ _ own kept => Client.Held.safe_call trips own kept) json
    collisionFree member start held run killed
  exact ⟨found, loads, held.held⟩

namespace Sample

open Client.Sample (jsonText pending submitted)

/-- The files of the sample, with the JSON of the sample record. -/
noncomputable abbrev jsonLib : FileLib := .serde fileLib.sha256 jsonText

theorem collisionFree_jsonLib : jsonLib.CollisionFree (· = "trade") := collisionFree

theorem loads_opened : Loads jsonLib Sample.store opened "trade" (.ok none) := by
  have nothing : Recorded jsonLib Sample.store opened "trade" none := by
    rw [Recorded, lookup_of_child rfl lookup_opened, opened_of_child rfl]
    rfl
  exact (loads_iff nothing _).mpr rfl

/-- A process waits for the answer to a submit. -/
theorem exists_backedCalls : ∃ (t : Thread Client.interface (Except Error (Option Txid)))
    (v : Volume),
    BackedCalls .reference jsonLib Sample.store (· = "trade") "trade" opened submitted t v := by
  have apart (v : Volume) : Elsewhere jsonLib Sample.store (· = "trade") "trade" v v :=
    ⟨[], .nil, nofun⟩
  have printed : jsonLib.toStringPretty pending = .ok Client.Sample.pretty :=
    if_pos (PendingSpend.ofJson_toJson _)
  obtain ⟨v, saved⟩ :
      ∃ v, Acted jsonLib Sample.store opened ⟨.save pending, some (.ok none)⟩ v := by
    refine exists_acted_save printed lookup_opened ?_ ?_
    all_goals
      rw [opened_of_child rfl]
      exact (Option.some_ne_none _).symm
  obtain ⟨v₁, loaded⟩ := loads_opened
  obtain rfl := loaded.load.1
  obtain ⟨t, emits⟩ := Client.Sample.emits_submitted FileSpendStore.spendStore
  have follows : Follows (backed jsonLib Sample.store (· = "trade") "trade") opened submitted v :=
    .sent _ (.answered _ ⟨_, _, apart _, loaded, apart _⟩ (.sent _ (.answered _
      ⟨_, _, apart _, rfl, apart _⟩ (.sent _ (.answered _
        ⟨_, _, apart _, ⟨.ok none, saved, rfl⟩, apart _⟩ (.sent _ (.nil _)))))))
  exact ⟨t, v, .first ⟨rfl, Client.Sample.wellFormed_call⟩ emits follows⟩

end Sample

/-- The process is killed while it waits. -/
theorem outstanding_survives_sample : ∃ (record : PendingSpend) (v' : Volume),
    Loads Sample.jsonLib Sample.store v' "trade" (.ok (some record)) ∧
      Client.Holds .reference Client.Sample.submitTx record := by
  obtain ⟨t, v', run⟩ := Sample.exists_backedCalls
  obtain ⟨found, loads, held⟩ := outstanding_survives BitcoinLib.psbtRoundTrips_reference
    Client.Sample.roundTrips_jsonText Sample.collisionFree_jsonLib rfl Sample.loads_opened nofun
    run (.stop _ _)
  obtain ⟨record, rfl, holds⟩ := held _ Client.Sample.outstanding_submitted
  exact ⟨record, v', (loads _).mpr rfl, holds⟩

end Files
end ArkadeEscrow
