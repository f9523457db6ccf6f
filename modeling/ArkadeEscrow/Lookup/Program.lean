import ArkadeEscrow.Data.Distinct
import ArkadeEscrow.Lookup.Builders

/-!
# Looking up escrow VTXOs

When the server rotates its key, an escrow stays where it was funded: under the contract with
the old key. So every lookup asks for the addresses of all contracts that the known server
keys make of one template, the candidates, and resolves a VTXO to the first candidate with the
script under which the server lists it.

A lookup is one request. `EscrowClient.listVtxos` is what the server answers to it.
-/

set_option autoImplicit false

namespace ArkadeEscrow
namespace Lookup

open Batch Refresh Distinct

variable {L : BatchLib} {A : ArkLib L} {B : BitcoinLib} {T : TaprootLib}

variable (A) in
/-- `EscrowClient`, as far as a lookup uses it. -/
structure EscrowClient where
  serverInfo : Cache A.ServerInfo
  /-- `run_with_timeout(grpc.list_vtxos(request))`, for a request for addresses. -/
  listVtxos : List A.Address → Except Error (List A.Vtxo)

/-- One candidate for each known server key with which there is a contract. -/
def candidateContracts (contract : EscrowContract B T) (signerPk : XOnlyPublicKey)
    (deprecatedSigners : List DeprecatedSigner) : List (EscrowContract B T) :=
  let serverKeys := distinct (contract.options.server :: signerPk ::
    deprecatedSigners.map fun deprecated => deprecated.pk.xOnly)
  serverKeys.filterMap fun server => (contract.withServer server).toOption

def listCandidateVtxos (clock : Option Nat) (client : EscrowClient A)
    (contract : EscrowContract B T) :
    Except Error (A.ServerInfo × List (EscrowContract B T) × A.VtxoList) := do
  let info ← serverInfo client.serverInfo
  let candidates := candidateContracts contract info.signerPk.xOnly info.deprecatedSigners
  let vtxos ← withContext "listing VTXOs" (client.listVtxos (candidates.map (address A)))
  return (info, candidates, A.newVtxoList clock info.dust vtxos)

variable (A) in
def contractForScript (candidates : List (EscrowContract B T)) (script : ScriptBuf) :
    Except Error (EscrowContract B T) :=
  orError s!"escrow contract not found for script pubkey {A.scriptText script}"
    (candidates.find? fun contract => contract.scriptPubkey == script)

/-! ## Resolving -/

variable (B T) in
structure ResolvedEscrowVtxo where
  contract : EscrowContract B T
  vtxo : EscrowVtxo

def resolveSpendableEscrowVtxo (clock : Option Nat) (client : EscrowClient A)
    (contract : EscrowContract B T) (outpoint : OutPoint) :
    Except Error (A.ServerInfo × ResolvedEscrowVtxo B T) := do
  let (info, candidates, vtxoList) ← listCandidateVtxos clock client contract
  let vtxo ← orError s!"spendable escrow VTXO not found: {outPointText B outpoint}"
    ((A.spendableOffchain vtxoList).find? fun v => v.outpoint == outpoint)
  let contract ← contractForScript A candidates vtxo.script
  return (info, ⟨contract, ⟨vtxo.outpoint, vtxo.amount⟩⟩)

/-- One of the VTXOs that are to be refreshed. -/
def resolveRefreshVtxo (candidates : List (EscrowContract B T)) (allUnspent : List A.Vtxo)
    (requested : RefreshVtxo) : Except Error (RefreshInput B T) := do
  let vtxo ← orError
    s!"escrow VTXO not found across signer candidates: {outPointText B requested.outpoint}"
    (allUnspent.find? fun v => v.outpoint == requested.outpoint)
  let contract ← contractForScript A candidates vtxo.script
  return ⟨contract, ⟨vtxo.outpoint, vtxo.amount, vtxo.isSwept⟩⟩

def resolveRefreshVtxos (clock : Option Nat) (client : EscrowClient A)
    (contract : EscrowContract B T) (vtxos : List RefreshVtxo) :
    Except Error (A.ServerInfo × List (RefreshInput B T)) := do
  let (info, candidates, vtxoList) ← listCandidateVtxos clock client contract
  let resolved ← vtxos.mapM (resolveRefreshVtxo candidates (A.allUnspent vtxoList))
  return (info, resolved)

/-! ## The client -/

def findSpendableEscrowVtxos (clock : Option Nat) (client : EscrowClient A)
    (contract : EscrowContract B T) : Except Error (List EscrowVtxo) := do
  let (_, _, vtxoList) ← listCandidateVtxos clock client contract
  return (A.spendableOffchain vtxoList).map fun v => ⟨v.outpoint, v.amount⟩

def findEscrowVtxo (clock : Option Nat) (client : EscrowClient A)
    (contract : EscrowContract B T) : Except Error (Option EscrowVtxo) := do
  return (← findSpendableEscrowVtxos clock client contract).head?

def buildReleaseForOutpoint (overflowChecks : Bool) (clock : Option Nat) (client : EscrowClient A)
    (contract : EscrowContract B T) (outpoint : OutPoint) (buyerDest : A.Address)
    (feeOutputs : List (FeeOutput A.Address)) (signerSet : SignerSet) :
    Checked EscrowTransaction := do
  let (info, resolved) ← resolveSpendableEscrowVtxo clock client contract outpoint
  buildReleaseTx overflowChecks resolved.contract resolved.vtxo buyerDest feeOutputs signerSet info

def buildRefundForOutpoint (clock : Option Nat) (client : EscrowClient A)
    (contract : EscrowContract B T) (outpoint : OutPoint) (sellerDest : A.Address)
    (signerSet : SignerSet) : Except Error EscrowTransaction := do
  let (info, resolved) ← resolveSpendableEscrowVtxo clock client contract outpoint
  buildRefundTx resolved.contract resolved.vtxo sellerDest signerSet info

def prepareRefresh (overflowChecks : Bool) (clock : Option Nat) (client : EscrowClient A)
    (contract : EscrowContract B T) (vtxos : List RefreshVtxo) (signerSet : SignerSet)
    (refreshCosignerPk : PublicKey) : Checked (RefreshIntent L) := do
  let (info, inputs) ← resolveRefreshVtxos clock client contract vtxos
  prepareRefreshResolved overflowChecks clock contract inputs signerSet refreshCosignerPk info

end Lookup
end ArkadeEscrow
