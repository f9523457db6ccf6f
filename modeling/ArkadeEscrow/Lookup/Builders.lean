import ArkadeEscrow.Contract
import ArkadeEscrow.Payout
import ArkadeEscrow.Refresh.Program

/-!
# Building transactions and intents

A release and a refund spend one escrow VTXO by the collaborative leaf of a signer set; a
refresh proves the inputs that it wants to move in the same way. The builders take the leaf,
its control block and the script from the contract that they are given.

`ArkLib` collects the types and functions of other crates that are used here. What is the same
in every call, such as a lock-time that is never set, is left out of their arguments.
-/

set_option autoImplicit false

namespace ArkadeEscrow
namespace Lookup

open Batch Refresh

/-- `send::VtxoInput`. -/
structure VtxoInput where
  spendScript : ScriptBuf
  controlBlock : ControlBlock
  tapscripts : List ScriptBuf
  scriptPubkey : ScriptBuf
  amount : Amount
  outpoint : OutPoint

/-- `send::SendReceiver`. -/
structure SendReceiver (Address : Type) where
  address : Address
  amount : Amount

/-- `intent::Input`. -/
structure IntentInput where
  outpoint : OutPoint
  witnessUtxo : TxOut
  tapscripts : List ScriptBuf
  spendInfo : ScriptBuf × ControlBlock
  isSwept : Bool

/-- `intent::Output`, less those on chain. -/
inductive IntentOutput where
  | offchain (output : TxOut)

/-- `server::VirtualTxOutPoint`. Only `VtxoList` looks at the rest of it. -/
structure VirtualTxOutPoint (Rest : Type) where
  outpoint : OutPoint
  amount : Amount
  script : ScriptBuf
  isSwept : Bool
  rest : Rest

/-- `server::DeprecatedSigner`. -/
structure DeprecatedSigner where
  pk : PublicKey

/-- `server::Info`. Only other crates look at the rest of it. -/
structure Info (ForfeitAddress Rest : Type) where
  signerPk : PublicKey
  deprecatedSigners : List DeprecatedSigner
  forfeitAddress : ForfeitAddress
  dust : Amount
  rest : Rest

/-- The types and functions of other crates. -/
structure ArkLib (L : BatchLib) where
  /-- `ark_core::ArkAddress`. -/
  Address : Type
  /-- `bitcoin::Address`. -/
  ForfeitAddress : Type
  InfoRest : Type
  VtxoRest : Type
  VtxoList : Type
  /-- `ArkAddress::new`. -/
  newAddress : Network → XOnlyPublicKey → XOnlyPublicKey → Address
  /-- `ArkAddress::to_p2tr_script_pubkey`. -/
  toP2trScriptPubkey : Address → ScriptBuf
  /-- `VtxoList::new`, with the system clock in seconds since the epoch, if it is after it. -/
  newVtxoList : Option Nat → Amount → List (VirtualTxOutPoint VtxoRest) → VtxoList
  /-- `VtxoList::spendable_offchain`. -/
  spendableOffchain : VtxoList → List (VirtualTxOutPoint VtxoRest)
  /-- `VtxoList::all_unspent`. -/
  allUnspent : VtxoList → List (VirtualTxOutPoint VtxoRest)
  /-- `send::build_offchain_transactions`: the ark transaction and the checkpoints. -/
  buildOffchainTransactions : List (SendReceiver Address) → Address → List VtxoInput →
    Info ForfeitAddress InfoRest → Except Error (Psbt × List Psbt)
  /-- `intent::IntentMessage::Delete`. -/
  deleteMessage : Nat → L.IntentMessage
  /-- `intent::make_intent`, with closures that sign nothing. -/
  makeIntent : List IntentInput → List IntentOutput → L.IntentMessage → Except String (Intent L)
  /-- `batch::prepare_delegate_psbts`. -/
  prepareDelegatePsbts : List IntentInput → List IntentOutput → PublicKey → ForfeitAddress →
    Amount → Except String (Delegate L)
  /-- The text of an amount. -/
  amountText : Amount → String
  /-- The text of a script. -/
  scriptText : ScriptBuf → String

namespace ArkLib

variable {L : BatchLib} (A : ArkLib L)

abbrev ServerInfo := Info A.ForfeitAddress A.InfoRest

abbrev Vtxo := VirtualTxOutPoint A.VtxoRest

end ArkLib

variable {L : BatchLib} {A : ArkLib L} {B : BitcoinLib} {T : TaprootLib}

/-- An escrow VTXO that will be spent. -/
structure EscrowVtxo where
  outpoint : OutPoint
  amount : Amount

/-- An escrow VTXO that will be refreshed. -/
structure RefreshVtxo where
  outpoint : OutPoint
  amount : Amount
  isSwept : Bool

structure EscrowTransaction where
  arkTx : Psbt
  checkpointTxs : List Psbt

variable (A) in
/-- `EscrowContract::address`. -/
def address (contract : EscrowContract B T) : A.Address :=
  A.newAddress contract.network contract.options.server (T.outputKey contract.spendInfo)

/-! ## Spending -/

/-- The escrow VTXO as an input that is spent by the leaf of the signer set. -/
def vtxoInput (contract : EscrowContract B T) (escrowVtxo : EscrowVtxo) (signerSet : SignerSet) :
    Except Error VtxoInput := do
  let spendScript := signerSet.script B contract.options
  let controlBlock ← contract.controlBlock spendScript
  return {
    spendScript
    controlBlock
    tapscripts := contract.tapscripts
    scriptPubkey := contract.scriptPubkey
    amount := escrowVtxo.amount
    outpoint := escrowVtxo.outpoint }

/-- The transactions that spend the input. -/
def buildTransactions (text : String) (receivers : List (SendReceiver A.Address))
    (change : A.Address) (input : VtxoInput) (serverInfo : A.ServerInfo) :
    Except Error EscrowTransaction := do
  let (arkTx, checkpointTxs) ← withContext text
    (A.buildOffchainTransactions receivers change [input] serverInfo)
  return { arkTx, checkpointTxs }

/-- `spend::build_release_tx`. -/
def buildReleaseTx (overflowChecks : Bool) (contract : EscrowContract B T)
    (escrowVtxo : EscrowVtxo) (buyerDest : A.Address) (feeOutputs : List (FeeOutput A.Address))
    (signerSet : SignerSet) (serverInfo : A.ServerInfo) : Checked EscrowTransaction := do
  let input ← vtxoInput contract escrowVtxo signerSet
  let releasePlan ← planRelease overflowChecks A.amountText escrowVtxo.amount feeOutputs .offchain
    serverInfo.dust
  let receivers := ⟨buyerDest, releasePlan.buyerAmount⟩ ::
    releasePlan.effectiveFeeOutputs.map fun feeOutput => ⟨feeOutput.address, feeOutput.amount⟩
  buildTransactions "building release offchain transactions" receivers buyerDest input serverInfo

/-- `spend::build_refund_tx`. -/
def buildRefundTx (contract : EscrowContract B T) (escrowVtxo : EscrowVtxo)
    (sellerDest : A.Address) (signerSet : SignerSet) (serverInfo : A.ServerInfo) :
    Except Error EscrowTransaction := do
  let input ← vtxoInput contract escrowVtxo signerSet
  buildTransactions "building refund offchain transactions" [⟨sellerDest, escrowVtxo.amount⟩]
    sellerDest input serverInfo

/-! ## Refreshing -/

variable (B T) in
structure RefreshInput where
  contract : EscrowContract B T
  vtxo : RefreshVtxo

/-- One input of an intent. -/
def intentInput (signerSet : SignerSet) (input : RefreshInput B T) : Except Error IntentInput := do
  let spendScript := signerSet.script B input.contract.options
  let controlBlock ← input.contract.controlBlock spendScript
  return {
    outpoint := input.vtxo.outpoint
    witnessUtxo := ⟨input.vtxo.amount, input.contract.scriptPubkey⟩
    tapscripts := input.contract.tapscripts
    spendInfo := (spendScript, controlBlock)
    isSwept := input.vtxo.isSwept }

def buildIntentInputs (inputs : List (RefreshInput B T)) (signerSet : SignerSet) :
    Except Error (List IntentInput) :=
  inputs.mapM (intentInput signerSet)

/-- `DELETE_PROOF_VALIDITY`, in seconds. -/
def deleteProofValidity : Nat := 24 * 60 * 60

/-- The delete proof over these inputs, valid from now on. -/
def prepareDeleteIntent (clock : Option Nat) (intentInputs : List IntentInput) :
    Except Error (Intent L) := do
  let sinceEpoch ← withContext "system clock before unix epoch"
    (orError "second time provided was later than self" clock)
  -- a saturating addition
  let expireAt := min (sinceEpoch + deleteProofValidity) (2 ^ 64 - 1)
  withContext "preparing delete intent"
    (ofDisplay (A.makeIntent intentInputs [] (A.deleteMessage expireAt)))

/-- The output of a refresh: the same template, with the active server. -/
def refreshOutput (outputTemplateContract : EscrowContract B T) (serverInfo : A.ServerInfo)
    (totalEscrowAmount : Amount) : Except Error IntentOutput := do
  let activeServer := serverInfo.signerPk.xOnly
  let outputContract ← outputTemplateContract.withServer activeServer
  return .offchain ⟨totalEscrowAmount, A.toP2trScriptPubkey (address A outputContract)⟩

/-- `RefreshIntent::from_delegate`. -/
def fromDelegate (delegate : Delegate L) : RefreshIntent L where
  intent := delegate.intent
  forfeitPsbts := delegate.forfeitPsbts
  refreshCosignerPk := delegate.delegateCosignerPk
  deleteIntent := none

def prepareRefreshResolved (overflowChecks : Bool) (clock : Option Nat)
    (outputTemplateContract : EscrowContract B T) (inputs : List (RefreshInput B T))
    (signerSet : SignerSet) (refreshCosignerPk : PublicKey) (serverInfo : A.ServerInfo) :
    Checked (RefreshIntent L) := do
  let intentInputs ← buildIntentInputs inputs signerSet
  let totalEscrowAmount ← Amount.sum overflowChecks (inputs.map (·.vtxo.amount))
  let output ← refreshOutput outputTemplateContract serverInfo totalEscrowAmount
  let deleteIntent ← prepareDeleteIntent (A := A) clock intentInputs
  let delegate ← withContext "preparing refresh PSBTs" (ofDisplay (A.prepareDelegatePsbts
    intentInputs [output] refreshCosignerPk serverInfo.forfeitAddress serverInfo.dust))
  return { fromDelegate delegate with deleteIntent := some deleteIntent }

end Lookup
end ArkadeEscrow
