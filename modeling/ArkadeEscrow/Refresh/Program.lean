import ArkadeEscrow.Batch.Settle
import ArkadeEscrow.Interaction.Deadline

/-!
# Refreshing an escrow

`refreshEscrow` runs a batch ceremony under a deadline and, if it fails, withdraws the intent
that it may have left queued. The ceremony is `executeRefresh`: `settleDelegate`, and once more
when the server says that an earlier intent still holds an input and `deleteIntent` has
removed that one, or has found nothing to remove.

What a refresh exchanges with the server is what a ceremony exchanges, and the sleep between
two attempts to delete. It suspends for all of that but the random numbers. While a ceremony
waits for its next event, the last request before that stands for the wait: the deadline
fires after one request and before the next. The remark `settled` is the result of the
ceremony.
-/

set_option autoImplicit false

namespace ArkadeEscrow

/-- `RwLock<Option<T>>`. The lock is poisoned when a writer has panicked. -/
structure Cache (α : Type) where
  poisoned : Bool
  value : Option α

/-- `EscrowClient::server_info`. -/
def serverInfo {Info : Type} (cache : Cache Info) : Except Error Info := do
  ensure (!cache.poisoned) "server info cache lock poisoned"
  orError "not connected — call connect() first" cache.value

namespace Refresh

open Interaction Batch

variable (L : BatchLib)

/-- The signed intent and forfeits, and a proof that deletes queued intents over the same
inputs. -/
structure RefreshIntent where
  intent : Intent L
  forfeitPsbts : List Psbt
  refreshCosignerPk : PublicKey
  deleteIntent : Option (Intent L)

inductive Note where
  | settled (result : Except Error Txid)

inductive Ask where
  | ceremony (request : Batch.Ask L)
  | sleep (millis : Nat)

/-- The answers to a request. -/
abbrev Ask.Answer : Ask L → Type
  | .ceremony request => Batch.Ask.Answer L request
  | .sleep _ => Unit

/-- The interface of a refresh, deadlines left out. -/
abbrev interface : Interface := ⟨Note, Ask L, Ask.Answer L⟩

/-- A step of a refresh that can fail. -/
abbrev Action (α : Type) := Fallible (interface L) Error α

/-- A ceremony is a part of a refresh. -/
def ceremony : Embedding (Batch.interface L) (interface L) where
  note := Empty.elim
  ask := .ceremony
  answer _ := Equiv.refl _

variable {L}

/-- Generating a random number is the only thing that is not awaited. -/
def suspends : Ask L → Bool
  | .ceremony .random => false
  | _ => true

/-- `run_with_timeout`. -/
def runWithTimeout {α : Type} (timeout : Option Nat) (operation : String) (future : Action L α) :
    Fallible (interface L).scheduled Error α :=
  match timeout with
  | none => ExceptT.mk future.run.unhurried
  | some millis => ExceptT.mk ((fun outcome => match outcome with
      | none => .error (.msg s!"{operation} timed out after {millis}ms")
      | some result => result) <$> future.run.hurried suspends)

/-- `result.context(text)` on an action. -/
def inContext {α : Type} (text : String) (x : Action L α) : Action L α :=
  ExceptT.mk (withContext text <$> x.run)

/-! ## The proofs -/

def RefreshIntent.intoDelegate (refresh : RefreshIntent L) : Delegate L where
  intent := refresh.intent
  forfeitPsbts := refresh.forfeitPsbts
  delegateCosignerPk := refresh.refreshCosignerPk

/-- The inputs of a proof, less input 0, which commits to the message. -/
def inputOutpoints (intent : Intent L) : List OutPoint :=
  (intent.proof.unsignedTx.input.drop 1).map (·.previousOutput)

/-- The two proofs cover the same inputs. -/
def ensureSameInputs (register delete : Intent L) : Except Error Unit :=
  ensure (sorted (inputOutpoints register) == sorted (inputOutpoints delete))
    "delete intent does not cover the same inputs as the refresh intent"

/-! ## The ceremony -/

def staleIntentDeleteAttempts : Nat := 6

/-- `STALE_INTENT_DELETE_RETRY_DELAY` and `DEFAULT_TIMEOUT`, in milliseconds. -/
def staleIntentDeleteRetryDelay : Nat := 5000

def defaultTimeout : Nat := 30000

variable (B : BitcoinLib) (statusText : Status → String)

/-- An earlier intent still holds one of the inputs. -/
def isStaleIntentError (e : Error) : Bool := strContains (e.text statusText) "already registered"

/-- There was nothing queued to delete. -/
def isNoMatchingIntentError (e : Error) : Bool :=
  strContains (e.text statusText) "no matching intents"

/-- The loop of `deleteIntent`: one attempt, and so many more while nothing is queued. -/
def deleteAttempts (intent : Intent L) (more : Nat) : Action L Bool := do
  match ← ExceptT.lift
      (Program.request (I := interface L) (.ceremony (.deleteIntent intent))) with
  | .ok () => return true
  | .error text =>
      let e := Error.msg text
      if !isNoMatchingIntentError statusText e then throw (e.context "deleting intent")
      else match more with
        | 0 => return false
        | more + 1 => do
            ExceptT.lift (Program.request (I := interface L) (.sleep staleIntentDeleteRetryDelay))
            deleteAttempts intent more

/-- Ask the server to drop the queued intents over the inputs of the proof. -/
def deleteIntent (intent : Intent L) (maxAttempts : Nat) : Action L Bool :=
  deleteAttempts statusText intent (maxAttempts - 1)

/-- One ceremony with the signed intent and forfeits. -/
def settle (info : Info) (refresh : RefreshIntent L) (refreshCosignerKp : Keypair) :
    Action L Txid :=
  ExceptT.mk ((settleDelegate B info refresh.intoDelegate refreshCosignerKp).run.embed (ceremony L))

/-- A delete proof, if there is one, covers the inputs. -/
def checkDeleteProof (refresh : RefreshIntent L) : Except Error Unit :=
  match refresh.deleteIntent with
  | some delete => ensureSameInputs refresh.intent delete
  | none => .ok ()

/-- The ceremony, and a second one in place of a first that a stale intent has stopped. -/
def executeRefresh (info : Info) (refresh : RefreshIntent L) (refreshCosignerKp : Keypair) :
    Action L Txid := do
  Fallible.check (checkDeleteProof refresh)
  let first ← (settle B info refresh refreshCosignerKp).attempt
  match first, refresh.deleteIntent with
  | .error e, some delete =>
      if isStaleIntentError statusText e then do
        let _ ← inContext "deleting the stale intent holding the refresh inputs"
          (deleteIntent statusText delete staleIntentDeleteAttempts)
        settle B info refresh refreshCosignerKp
      else throw e
  | result, _ => Fallible.check result

/-! ## The client -/

/-- `EscrowClient`, as far as a refresh reads it: timeouts are in milliseconds. -/
structure EscrowClient where
  serverInfo : Cache Info
  timeout : Option Nat
  refreshTimeout : Option Nat

/-- Delete the queued intents over the inputs of the proof, in one attempt. -/
def deleteRefreshIntent (client : EscrowClient) (delete : Intent L) :
    Fallible (interface L).scheduled Error Bool :=
  runWithTimeout (some (client.timeout.getD defaultTimeout)) "deleting refresh intent"
    (deleteIntent statusText delete 1)

/-- The end of `refreshEscrow`: the intent of a failed ceremony is withdrawn. What becomes of
that is only logged. -/
def cleanup (client : EscrowClient) (refresh : RefreshIntent L) (result : Except Error Txid) :
    Fallible (interface L).scheduled Error Txid :=
  match result, refresh.deleteIntent with
  | .error _, some delete => do
      let _ ← (deleteRefreshIntent statusText client delete).attempt
      Fallible.check result
  | _, _ => Fallible.check result

/-- Refresh the escrow, and withdraw the intent if that fails. -/
def refreshEscrow (client : EscrowClient) (refresh : RefreshIntent L)
    (refreshCosignerKp : Keypair) : Fallible (interface L).scheduled Error Txid := do
  let info ← Fallible.check (serverInfo client.serverInfo)
  Fallible.check (checkDeleteProof refresh)
  let result ← (runWithTimeout client.refreshTimeout "refreshing escrow"
    (executeRefresh B statusText info refresh refreshCosignerKp)).attempt
  ExceptT.lift (Program.remark (I := (interface L).scheduled) (.settled result))
  cleanup statusText client refresh result

end Refresh
end ArkadeEscrow
