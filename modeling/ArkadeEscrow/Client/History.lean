import ArkadeEscrow.Client.Rules

/-!
# What each request of a call rests on

`Justified` says, for every request a call may send, which earlier events of the same call
it rests on: a submit on the arguments of a fresh call or on a loaded record (`Source`), a
finalize on a reply that passed all checks or on a loaded record that did, a save on the
data it stores. `call_justified` proves it for every run, whatever the store and the server
answer and wherever the run breaks off.
-/

set_option autoImplicit false

namespace ArkadeEscrow
namespace Client

open Interaction Program

variable {B : BitcoinLib} {store : SpendStore}

abbrev History := List (Event interface)

/-- One call, with the events of its run so far: up to its end, or up to a crash. -/
structure CallRun (B : BitcoinLib) (store : SpendStore) where
  call : Call
  events : History
  emits : Emits (call.program B store) events

/-- A sequence of calls. -/
abbrev Session (B : BitcoinLib) (store : SpendStore) := List (CallRun B store)

/-- The first thing a call does is to load the record of its id. -/
def Found (call : Call) (h : History) (found : Except Error (Option PendingSpend)) : Prop :=
  [.sent (.load call.id), .answered (.load call.id) found] <+: h

/-- The record of a call and the data it submits, given what it has found in the store: its
own arguments and a new record, or what was recorded. -/
inductive Source (B : BitcoinLib) (call : Call) (found : Except Error (Option PendingSpend)) :
    PendingSpend → Psbt → List Psbt → List (List Psbt) → Prop where
  | fresh {id : String} {arkTx : Psbt} {unsignedCheckpoints : List Psbt}
      {partyCps : List (List Psbt)} (bytes : Vector UInt8 16) :
      call = .spend id arkTx unsignedCheckpoints partyCps →
      found = .ok none →
      validateCheckpoints unsignedCheckpoints partyCps = .ok () →
      Source B call found
        (freshRecord B id arkTx unsignedCheckpoints partyCps (PendingSpend.newToken bytes))
        arkTx unsignedCheckpoints partyCps
  | resumed {pending : PendingSpend} {arkTx : Psbt} {unsignedCheckpoints : List Psbt}
      {partyCps : List (List Psbt)} :
      found = .ok (some pending) →
      Proceeds B call pending →
      Resubmittable B pending arkTx unsignedCheckpoints partyCps →
      Source B call found pending arkTx unsignedCheckpoints partyCps

/-- What a call submits, and that a fresh call has saved its record before. -/
structure Submits (B : BitcoinLib) (call : Call) (h : History)
    (found : Except Error (Option PendingSpend)) (pending : PendingSpend) (arkTx : Psbt)
    (unsignedCheckpoints : List Psbt) (partyCps : List (List Psbt)) : Prop where
  loaded : Found call h found
  source : Source B call found pending arkTx unsignedCheckpoints partyCps
  saved : found = .ok none → .answered (.save pending) (.ok ()) ∈ h

/-- A reply that has passed all checks. -/
structure Accepts (B : BitcoinLib) (call : Call) (h : History)
    (found : Except Error (Option PendingSpend)) (pending : PendingSpend) (arkTx : Psbt)
    (unsignedCheckpoints : List Psbt) (partyCps : List (List Psbt)) (reply : SubmitReply)
    (canonical : Psbt) (finalCheckpoints : List Psbt) : Prop where
  submits : Submits B call h found pending arkTx unsignedCheckpoints partyCps
  answered : .answered (.submit arkTx unsignedCheckpoints) (.finished (.ok reply)) ∈ h
  noted : .noted (.accepted 0 arkTx reply.signedArkTx canonical) ∈ h
  passes : Passes B pending arkTx unsignedCheckpoints partyCps reply canonical finalCheckpoints

/-- A record found at stage `submitted` that has passed all checks. -/
structure Resumes (B : BitcoinLib) (call : Call) (h : History) (pending : PendingSpend)
    (arkTxid : Txid) (evidence canonical : Psbt) (finalCheckpoints : List Psbt) : Prop where
  loaded : Found call h (.ok (some pending))
  proceeds : Proceeds B call pending
  noted : .noted (.accepted 0 evidence evidence canonical) ∈ h
  finalizable : Finalizable B pending arkTxid evidence canonical finalCheckpoints

/-- The record, txid and checkpoints that a call may finalize. -/
inductive Finalizes (B : BitcoinLib) (call : Call) (h : History) :
    PendingSpend → Txid → List Psbt → Prop where
  | accepted {found : Except Error (Option PendingSpend)} {pending : PendingSpend} {arkTx : Psbt}
      {unsignedCheckpoints : List Psbt} {partyCps : List (List Psbt)} {reply : SubmitReply}
      {canonical : Psbt} {finalCheckpoints : List Psbt} :
      Accepts B call h found pending arkTx unsignedCheckpoints partyCps reply canonical
        finalCheckpoints →
      Finalizes B call h (upgradedRecord B pending canonical finalCheckpoints)
        (B.computeTxid arkTx.unsignedTx) finalCheckpoints
  | resumed {pending : PendingSpend} {arkTxid : Txid} {evidence canonical : Psbt}
      {finalCheckpoints : List Psbt} :
      Resumes B call h pending arkTxid evidence canonical finalCheckpoints →
      Finalizes B call h pending arkTxid finalCheckpoints

/-- The record that a call may save. -/
inductive Saves (B : BitcoinLib) (call : Call) (h : History) : PendingSpend → Prop where
  | fresh {pending : PendingSpend} {arkTx : Psbt} {unsignedCheckpoints : List Psbt}
      {partyCps : List (List Psbt)} :
      Found call h (.ok none) →
      Source B call (.ok none) pending arkTx unsignedCheckpoints partyCps → Saves B call h pending
  | upgraded {found : Except Error (Option PendingSpend)} {pending : PendingSpend} {arkTx : Psbt}
      {unsignedCheckpoints : List Psbt} {partyCps : List (List Psbt)} {reply : SubmitReply}
      {canonical : Psbt} {finalCheckpoints : List Psbt} :
      Accepts B call h found pending arkTx unsignedCheckpoints partyCps reply canonical
        finalCheckpoints →
      Saves B call h (upgradedRecord B pending canonical finalCheckpoints)
  | finalized {pending : PendingSpend} {arkTxid : Txid} {finalCheckpoints : List Psbt} :
      Finalizes B call h pending arkTxid finalCheckpoints →
      Saves B call h (finalizedRecord pending)

/-- What a request of a call rests on. -/
def Justified (B : BitcoinLib) (call : Call) (h : History) : Ask → Prop
  | .submit arkTx unsignedCheckpoints =>
      ∃ found pending partyCps, Submits B call h found pending arkTx unsignedCheckpoints partyCps
  | .finalize arkTxid finalCheckpoints =>
      ∃ pending, Finalizes B call h pending arkTxid finalCheckpoints
  | .save spend | .saveIf spend => Saves B call h spend
  | .newToken | .load _ | .remove _ | .removeIf _ _ => True

/-! ## A longer history justifies no less -/

section Monotone

variable {call : Call} {h h' : History} (more : h <+: h')
include more

theorem Submits.mono {found : Except Error (Option PendingSpend)} {pending : PendingSpend}
    {arkTx : Psbt} {unsignedCheckpoints : List Psbt} {partyCps : List (List Psbt)}
    (submits : Submits B call h found pending arkTx unsignedCheckpoints partyCps) :
    Submits B call h' found pending arkTx unsignedCheckpoints partyCps where
  loaded := submits.loaded.trans more
  source := submits.source
  saved fresh := more.subset (submits.saved fresh)

theorem Accepts.mono {found : Except Error (Option PendingSpend)} {pending : PendingSpend}
    {arkTx : Psbt} {unsignedCheckpoints : List Psbt} {partyCps : List (List Psbt)}
    {reply : SubmitReply} {canonical : Psbt} {finalCheckpoints : List Psbt}
    (accepts : Accepts B call h found pending arkTx unsignedCheckpoints partyCps reply canonical
      finalCheckpoints) :
    Accepts B call h' found pending arkTx unsignedCheckpoints partyCps reply canonical
      finalCheckpoints where
  submits := accepts.submits.mono more
  answered := more.subset accepts.answered
  noted := more.subset accepts.noted
  passes := accepts.passes

theorem Finalizes.mono {pending : PendingSpend} {arkTxid : Txid} {finalCheckpoints : List Psbt}
    (finalizes : Finalizes B call h pending arkTxid finalCheckpoints) :
    Finalizes B call h' pending arkTxid finalCheckpoints := by
  cases finalizes with
  | accepted accepts => exact .accepted (accepts.mono more)
  | resumed resumes =>
      exact .resumed
        { resumes with
          loaded := resumes.loaded.trans more
          noted := more.subset resumes.noted }

end Monotone

/-! ## Every request is justified -/

/-- A confined program, when its requests stay justified. -/
theorem safe_of_confined {call : Call} {α : Type} {p : Program interface α} {asks : Ask → Prop}
    {h : History} (confined : Confined asks p)
    (justified : ∀ request h', asks request → h <+: h' → Justified B call h' request) :
    Safe (historian interface) (.guard (Justified B call)) p h := by
  refine confined.upholds (J := fun h' => h <+: h') ?_ (fun _ _ _ => trivial) (List.prefix_rfl)
  intro request h' member more
  exact permits_historian (justified request h' member more) fun answer =>
    more.trans (List.prefix_append _ _)

theorem safe_finalizeAndRecord {call : Call} {pending : PendingSpend} {arkTxid : Txid}
    {finalCheckpoints : List Psbt} {h : History}
    (finalizes : Finalizes B call h pending arkTxid finalCheckpoints) :
    Safe (historian interface) (.guard (Justified B call))
      (finalizeAndRecord store pending arkTxid finalCheckpoints).run h := by
  refine safe_of_confined (confined_finalizeAndRecord ..) fun request h' member more => ?_
  have later := finalizes.mono more
  cases member with
  | finalize => exact ⟨pending, later⟩
  | mark mark =>
      cases mark with
      | own => exact .finalized later
      | load => trivial
      | save => exact .finalized later

theorem safe_upgradeAndFinalize {call : Call} {found : Except Error (Option PendingSpend)}
    {pending : PendingSpend} {arkTx : Psbt} {unsignedCheckpoints : List Psbt}
    {partyCps : List (List Psbt)} {reply : SubmitReply} {canonical : Psbt}
    {finalCheckpoints : List Psbt} {h : History}
    (accepts : Accepts B call h found pending arkTx unsignedCheckpoints partyCps reply canonical
      finalCheckpoints) :
    Safe (historian interface) (.guard (Justified B call))
      (upgradeAndFinalize store (upgradedRecord B pending canonical finalCheckpoints)
        (B.computeTxid arkTx.unsignedTx) finalCheckpoints).run h := by
  refine safe_of_confined (confined_upgradeAndFinalize ..) fun request h' member more => ?_
  have later := accepts.mono more
  have finalizes : Finalizes B call h' _ _ _ := .accepted later
  cases member with
  | save => exact .upgraded later
  | finalize member =>
      cases member with
      | finalize => exact ⟨_, finalizes⟩
      | mark mark =>
          cases mark with
          | own => exact .finalized finalizes
          | load => trivial
          | save => exact .finalized finalizes

theorem safe_submit {call : Call} {found : Except Error (Option PendingSpend)}
    {pending : PendingSpend} {arkTx : Psbt} {unsignedCheckpoints : List Psbt}
    {partyCps : List (List Psbt)} {firstAttempt : Bool} {h : History}
    (submits : Submits B call h found pending arkTx unsignedCheckpoints partyCps) :
    Safe (historian interface) (.guard (Justified B call))
      (submitAndFinalize B store pending arkTx unsignedCheckpoints partyCps firstAttempt).run
      h := by
  refine safe_submitAndFinalize
    (permits_historian ⟨found, pending, partyCps, submits⟩ fun outcome => ?_)
  refine ⟨fun e _ => ?_, fun reply canonical answer verdict => ⟨trivial, ?_⟩⟩
  · refine safe_of_confined (confined_submitFailed ..) fun request h' member _ => ?_
    obtain ⟨_, _, member⟩ := member
    cases member <;> trivial
  · intro finalCheckpoints passes
    subst answer
    refine safe_upgradeAndFinalize (?_ : Accepts B call _ found pending arkTx
      unsignedCheckpoints partyCps reply canonical finalCheckpoints)
    exact
      { submits := submits.mono (by simp)
        answered := by simp
        noted := by simp
        passes := passes }

/-- **Every request of a call is justified by what the call has seen before it**, in every
run and at every point where it may break off. -/
theorem call_justified {call : Call} {events : History}
    (run : Emits (call.program B store) events) : Guarded (Justified B call) events := by
  apply run.guarded (D := .guard (Justified B call)) (by trivial)
  refine safe_call (permits_historian trivial fun found => ⟨?_, ?_⟩)
  · rintro pending rfl proceeds
    refine safe_resumeRecorded ?_ ?_
    · intro evidence canonical _ _
      refine ⟨trivial, fun arkTxid finalCheckpoints finalizable => ?_⟩
      refine safe_finalizeAndRecord (.resumed
        (?_ : Resumes B call _ pending arkTxid evidence canonical finalCheckpoints))
      exact
        { loaded := by simp [Found]
          proceeds := proceeds
          noted := by simp
          finalizable := finalizable }
    · intro arkTx unsignedCheckpoints partyCps resubmittable
      refine safe_submit (?_ : Submits B call _ (.ok (some pending)) pending arkTx
        unsignedCheckpoints partyCps)
      exact
        { loaded := by simp [Found]
          source := .resumed rfl proceeds resubmittable
          saved := by simp }
  · rintro id mergedArkTx unsignedCheckpoints partySignedCheckpoints rfl rfl valid
    have source (bytes : Vector UInt8 16) :
        Source B (.spend id mergedArkTx unsignedCheckpoints partySignedCheckpoints) (.ok none)
          _ _ _ _ := .fresh bytes rfl rfl valid
    refine permits_historian trivial fun bytes => ?_
    apply permits_historian (.fresh (by simp [Found]) (source bytes))
    rintro _ rfl
    refine safe_submit (?_ : Submits B _ _ (.ok none) _ mergedArkTx unsignedCheckpoints
      partySignedCheckpoints)
    exact
      { loaded := by simp [Found]
        source := source bytes
        saved := by simp }

end Client
end ArkadeEscrow
