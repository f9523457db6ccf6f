import ArkadeEscrow.Interaction.Program
import ArkadeEscrow.SpendStore

/-!
# What the client asks of the outside

A call of the client asks for the random bytes of a token, operates on the store, and
sends `SubmitTx` and `FinalizeTx` to the server. Store and server may answer anything, an
error included. The only remark is `accepted`: `verify_server_ark_tx_sig` has just returned
`Ok`, so it has verified the server's signature on the input at the index.
-/

set_option autoImplicit false

namespace ArkadeEscrow
namespace Client

open Interaction

/-- `SubmitOffchainTxResponse`. -/
structure SubmitReply where
  signedArkTx : Psbt
  signedCheckpointTxs : List Psbt

/-- The returned checkpoints are well-formed. -/
def SubmitReply.WellFormed (reply : SubmitReply) : Prop :=
  ∀ cp ∈ reply.signedCheckpointTxs, cp.WellFormed

/-- How a request to the server ends: the timer of so many milliseconds fires first, or the
future completes. -/
inductive Outcome (α : Type) where
  | elapsed (millis : Nat)
  | finished (result : Except Error α)

/-- `run_with_timeout`. -/
def runWithTimeout {α : Type} (operation : String) : Outcome α → Except Error α
  | .elapsed millis => .error (.msg s!"{operation} timed out after {millis}ms")
  | .finished result => result

inductive Note where
  | accepted (index : Nat) (own serverSigned canonical : Psbt)

inductive Ask where
  | newToken
  | load (id : String)
  | save (spend : PendingSpend)
  | remove (id : String)
  | removeIf (id token : String)
  | saveIf (spend : PendingSpend)
  | submit (arkTx : Psbt) (checkpointTxs : List Psbt)
  | finalize (arkTxid : Txid) (signedCheckpointTxs : List Psbt)

/-- The request is a message to the server. -/
def Ask.isMessage : Ask → Bool
  | .submit _ _ | .finalize _ _ => true
  | _ => false

/-- The answers to a request. -/
abbrev Ask.Answer : Ask → Type
  | .newToken => Vector UInt8 16
  | .load _ => Except Error (Option PendingSpend)
  | .save _ | .remove _ => Except Error Unit
  | .removeIf _ _ | .saveIf _ => Except Error Bool
  | .submit _ _ => Outcome SubmitReply
  | .finalize _ _ => Outcome Unit

/-- The interface of the client's spend protocol. -/
abbrev interface : Interface := ⟨Note, Ask, Ask.Answer⟩

/-- A step of the client that can fail. -/
abbrev Action (α : Type) := Fallible interface Error α

/-! ## The requests as actions -/

/-- `result.context(text)` on an action. -/
def inContext {α : Type} (text : String) (x : Action α) : Action α :=
  ExceptT.mk (withContext text <$> x.run)

/-- A check of the client's own. -/
def check {α : Type} (r : Except Error α) : Action α := ExceptT.mk (.done r)

def newToken : Action String := do
  let bytes ← ExceptT.lift (Program.request (I := interface) .newToken)
  return PendingSpend.newToken bytes

def load (id : String) : Action (Option PendingSpend) :=
  ExceptT.mk (Program.request (I := interface) (.load id))

def save (spend : PendingSpend) : Action Unit :=
  ExceptT.mk (Program.request (I := interface) (.save spend))

def remove (id : String) : Action Unit :=
  ExceptT.mk (Program.request (I := interface) (.remove id))

/-- `grpc.submit_offchain_transaction_request`, under the client's timeout. -/
def submit (arkTx : Psbt) (checkpointTxs : List Psbt) : Action SubmitReply :=
  ExceptT.mk (runWithTimeout "submitting offchain transaction" <$>
    Program.request (I := interface) (.submit arkTx checkpointTxs))

/-- `grpc.finalize_offchain_transaction`, under the client's timeout. -/
def finalize (arkTxid : Txid) (signedCheckpointTxs : List Psbt) : Action Unit :=
  ExceptT.mk (runWithTimeout "finalizing offchain transaction" <$>
    Program.request (I := interface) (.finalize arkTxid signedCheckpointTxs))

/-- `store.remove_if`: the backend's own operation, or load, compare and remove. -/
def removeIf (store : SpendStore) (id token : String) : Action Bool :=
  if store.overridesRemoveIf then
    ExceptT.mk (Program.request (I := interface) (.removeIf id token))
  else do
    match ← load id with
    | some existing =>
        if existing.matchesToken token then do
          remove id
          return true
        else return false
    | none => return false

/-- `store.save_if`: the backend's own operation, or load, compare and save. -/
def saveIf (store : SpendStore) (spend : PendingSpend) : Action Bool :=
  if store.overridesSaveIf then
    ExceptT.mk (Program.request (I := interface) (.saveIf spend))
  else do
    match ← load spend.id with
    | some existing =>
        if existing.matchesToken spend.token then do
          save spend
          return true
        else return false
    | none => return false

end Client
end ArkadeEscrow
