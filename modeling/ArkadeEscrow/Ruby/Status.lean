import ArkadeEscrow.Client.Acknowledged
import ArkadeEscrow.Files.Backing
import ArkadeEscrow.Ruby.Releasing

/-!
# The status of an escrow

Before an application does anything with an escrow it asks for its status: whether an offchain
spend is pending, and which VTXOs there are. The server does not say the former, so it is inferred
from the record in the spend store.

The inference errs on the safe side (`pending_flag_reliable`). Whatever the calls for an id have
done, and wherever the process was killed: as long as a submit is outstanding the flag is set,
unless the server has acknowledged the finalize of this very transaction.
-/

set_option autoImplicit false

namespace ArkadeEscrow
namespace Ruby

open Batch Interaction Lookup

variable {L : BatchLib} {A : ArkLib L} {T : TaprootLib} (B : BitcoinLib)

/-- There is a record of the spend, and it is not finalized. -/
def pendingOffchain (found : Option PendingSpend) : Bool := found.any fun p => p.stage != .finalized

/-- The record is loaded from the store of the client. -/
def getEscrowVtxoStatus (loaded : Except Error (Option PendingSpend)) (V : VtxoLib A)
    (clock : Option Nat) (client : Lookup.EscrowClient A) (contract : EscrowContract B T) :
    Except Error (Bool × List (String × UInt64 × Bool) × Bool) := do
  let pending := pendingOffchain (← loaded)
  let (vtxoData, anyRecoverable) ← findRefreshVtxos B V clock client contract
  return (pending, vtxoData, anyRecoverable)

variable {B} {V : VtxoLib A} {clock : Option Nat} {client : Lookup.EscrowClient A}
variable {contract : EscrowContract B T} {J : JsonText} {sha256 : List UInt8 → Vector UInt8 32}

open Files in
/-- **The pending flag is reliable.** From a directory that loads a record of its own id that is
not finalized, or none: whatever the calls for an id have done, whatever has gone on elsewhere, and
wherever the process is killed, the status is that of one flag, and while a submit is outstanding
the flag is set or the server has acknowledged the finalize of what was submitted. -/
theorem pending_flag_reliable (trips : B.PsbtRoundTrips) (txids : B.TxidRoundTrips)
    (json : J.RoundTrips) {ids : String → Prop} {store : FileSpendStore} {id : String}
    (collisionFree : (FileLib.serde sha256 J).CollisionFree ids) (member : ids id)
    {v v₁ v' : Volume} {initial : Option PendingSpend}
    (start : Loads (FileLib.serde sha256 J) store v id (.ok initial))
    (named : ∀ record, initial = some record → record.id = id)
    (unmarked : ∀ record, initial = some record → record.stage ≠ .finalized)
    {h : List (Event Client.interface)} {t : Thread Client.interface (Except Error (Option Txid))}
    (run : BackedCalls B (FileLib.serde sha256 J) store ids id v h t v₁)
    (killed : Ends (backed (FileLib.serde sha256 J) store ids id) t v₁ v') :
    ∃ loaded pending, (∀ r, Loads (FileLib.serde sha256 J) store v' id r ↔ r = loaded) ∧
      getEscrowVtxoStatus B loaded V clock client contract =
        (pending, ·) <$> findRefreshVtxos B V clock client contract ∧
      ∀ sub, Client.outstanding h = some sub →
        pending = true ∨ B.computeTxid sub.1.unsignedTx ∈ Client.acknowledged h := by
  have held : (Client.holding B id).keep (initial, none) := ⟨named, by rintro _ ⟨⟩⟩
  have vouched : (Client.vouching B id).keep (initial, []) :=
    ⟨named, fun record stored stage => absurd stage (unmarked record stored)⟩
  obtain ⟨found, loads, held⟩ := keep_of_backedCalls Client.outstandingNext_noted
    (fun _ _ allowed => allowed) (fun _ _ own kept => Client.Held.safe_call trips own kept) json
    collisionFree member start held run killed
  obtain ⟨found', loads', vouched⟩ := keep_of_backedCalls Client.acknowledgedNext_noted
    (fun _ _ allowed => allowed)
    (fun _ _ own kept => Client.Vouched.safe_call txids own.1 kept) json
    collisionFree member start vouched run killed
  obtain rfl : found = found' := Except.ok.inj ((loads' _).mp ((loads _).mpr rfl))
  refine ⟨.ok found, pendingOffchain found, loads, rfl, fun sub out => ?_⟩
  obtain ⟨record, stored, holds⟩ := held.held sub out
  obtain rfl : found = some record := stored
  cases stage : record.stage with
  | submitting => exact .inl (by simp [pendingOffchain, stage])
  | submitted => exact .inl (by simp [pendingOffchain, stage])
  | finalized =>
      obtain ⟨txid, acked, parsed⟩ := vouched.vouched record rfl stage
      rw [Client.Holds, stage] at holds
      rw [holds.1, txids] at parsed
      cases parsed
      exact .inr acked

/-- A process that waits for the answer to a submit is killed. -/
theorem pending_flag_reliable_sample : ∃ v loaded,
    Files.Loads Files.Sample.jsonLib Files.Sample.store v "trade" loaded ∧
    getEscrowVtxoStatus BitcoinLib.reference loaded Lookup.Sample.sweeping (some 0)
        Lookup.Sample.lister Lookup.Sample.oldContract =
      .ok (true, [(outPointText BitcoinLib.reference ⟨⟨1⟩, 0⟩, 1000, false)], false) := by
  obtain ⟨t, v, run⟩ := Files.Sample.exists_backedCalls
  obtain ⟨loaded, pending, loads, status, set⟩ := @pending_flag_reliable _ _ _ _
    Lookup.Sample.sweeping (some 0) Lookup.Sample.lister Lookup.Sample.oldContract _ _
    BitcoinLib.psbtRoundTrips_reference BitcoinLib.txidRoundTrips_reference
    Client.Sample.roundTrips_jsonText _ _ _ Files.Sample.collisionFree_jsonLib rfl _ _ _ _
    Files.Sample.loads_opened nofun nofun _ _ run (.stop _ _)
  obtain rfl | acked := set _ Client.Sample.outstanding_submitted
  · exact ⟨v, loaded, (loads loaded).mpr rfl, status⟩
  · cases acked

end Ruby
end ArkadeEscrow
