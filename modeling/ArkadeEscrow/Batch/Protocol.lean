import ArkadeEscrow.Batch.Settle

/-!
# The protocol of a ceremony

What a ceremony is meant to exchange with the server, without the variables of the loop: the
stages that its messages go through, and the event that each of them answers. Every message
leads to a later stage than it is sent in (`Sends.later`), so none is sent twice and none out
of order (`Path.unsent`, `Path.confirmed`, `Path.nonced`), and a ceremony comes to its last
stage only by way of the nonces and a `BatchFinalization` (`Path.finalized`).
-/

set_option autoImplicit false

namespace ArkadeEscrow
namespace Batch
namespace Protocol

open Interaction

variable {L : BatchLib}

/-- How far the messages of a ceremony have come. -/
inductive Stage where
  | registered
  | confirmed
  | nonced
  | signed
  | finalized
  deriving DecidableEq

namespace Stage

def rank : Stage → Nat
  | .registered => 0
  | .confirmed => 1
  | .nonced => 2
  | .signed => 3
  | .finalized => 4

/-- The step of the loop. It does not tell whether the tree has been signed. -/
def step : Stage → Step
  | .registered => .start
  | .confirmed => .batchStarted
  | .nonced | .signed => .batchSigningStarted
  | .finalized => .finalized

end Stage

/-- The stage that a message leads to. -/
def reaches? : Ask L → Option Stage
  | .confirmRegistration _ => some .confirmed
  | .submitTreeNonces .. => some .nonced
  | .submitTreeSignatures .. => some .signed
  | .submitSignedForfeitTxs .. => some .finalized
  | .registerIntent _ | .deleteIntent _ | .getEventStream _ | .random => none

/-- The messages that answer an event which arrives in this stage. -/
inductive Sends (intentId : String) : Stage → StreamEvent L → Ask L → Prop where
  | confirm {id : String} {intentIdHashes : List String} {batchExpiry : UInt32}
      (included : intentIdHashes.contains (intentIdHash L intentId) = true) :
      Sends intentId .registered (.batchStarted id intentIdHashes batchExpiry)
        (.confirmRegistration intentId)
  | nonces {id : String} {cosignersPubkeys : List PublicKey} {commitTx : Psbt}
      (own : PublicKey) (noncePks : L.NoncePks) :
      Sends intentId .confirmed (.treeSigningStarted id cosignersPubkeys commitTx)
        (.submitTreeNonces id own noncePks)
  | signatures {id : String} {txid : Txid} {nonces : BTreeMap XOnlyPublicKey L.PublicNonce}
      (own : PublicKey) (partialSigs : PartialSigTree L) :
      Sends intentId .nonced (.treeNonces id txid nonces)
        (.submitTreeSignatures id own partialSigs)
  | forfeits {stage : Stage} (signing : stage.step = .batchSigningStarted)
      (signedForfeits : List Psbt) (commitTx : Option Psbt) :
      Sends intentId stage .batchFinalization (.submitSignedForfeitTxs signedForfeits commitTx)

/-- A turn: the event, and what is exchanged with the server while it is handled. -/
structure Handling (L : BatchLib) where
  event : StreamEvent L
  shown : List (Event (interface L))

/-- The server has accepted the nonces. -/
def NoncesAccepted (h : List (Event (interface L))) : Prop :=
  ∃ batchId own noncePks, .answered (.submitTreeNonces batchId own noncePks) (.ok ()) ∈ h

/-- What is exchanged while an event is handled, and the stage after it. -/
inductive Move (intentId : String) : Stage → Handling L → Stage → Prop where
  | idle (stage : Stage) (event : StreamEvent L) : Move intentId stage ⟨event, []⟩ stage
  | confirm {event : StreamEvent L}
      (sends : Sends intentId .registered event (.confirmRegistration intentId)) :
      Move intentId .registered ⟨event, [.sent (.confirmRegistration intentId),
        .answered (.confirmRegistration intentId) (.ok ())]⟩ .confirmed
  | nonces {event : StreamEvent L} (entropy : L.Entropy) {id : String} {own : PublicKey}
      {noncePks : L.NoncePks}
      (sends : Sends intentId .confirmed event (.submitTreeNonces id own noncePks)) :
      Move intentId .confirmed ⟨event, [.sent .random, .answered .random entropy,
        .sent (.submitTreeNonces id own noncePks),
        .answered (.submitTreeNonces id own noncePks) (.ok ())]⟩ .nonced
  | signatures {event : StreamEvent L} {id : String} {own : PublicKey}
      {partialSigs : PartialSigTree L}
      (sends : Sends intentId .nonced event (.submitTreeSignatures id own partialSigs)) :
      Move intentId .nonced ⟨event, [.sent (.submitTreeSignatures id own partialSigs),
        .answered (.submitTreeSignatures id own partialSigs) (.ok ())]⟩ .signed
  | forfeits {stage : Stage} {event : StreamEvent L} {signedForfeits : List Psbt}
      {commitTx : Option Psbt}
      (sends : Sends intentId stage event (.submitSignedForfeitTxs signedForfeits commitTx)) :
      Move intentId stage ⟨event, [.sent (.submitSignedForfeitTxs signedForfeits commitTx),
        .answered (.submitSignedForfeitTxs signedForfeits commitTx) (.ok ())]⟩ .finalized
  | finalize {stage : Stage} (signing : stage.step = .batchSigningStarted) :
      Move intentId stage ⟨.batchFinalization, []⟩ .finalized

/-- The turns of a ceremony that has come from one stage to another. -/
inductive Path (intentId : String) (start : Stage) : List (Handling L) → Stage → Prop where
  | nil : Path intentId start [] start
  | turn {turns : List (Handling L)} {handling : Handling L} {stage stage' : Stage}
      (path : Path intentId start turns stage) (move : Move intentId stage handling stage') :
      Path intentId start (turns ++ [handling]) stage'

/-- What a ceremony exchanges before its first turn. -/
def preamble (delegate : Delegate L) (intentId : String) (topics : List String)
    (whole : List (StreamItem L)) : List (Event (interface L)) :=
  [.sent (.registerIntent delegate.intent),
    .answered (.registerIntent delegate.intent) (.ok intentId),
    .sent (.getEventStream topics), .answered (.getEventStream topics) (.ok whole)]

/-- What has been exchanged in these turns. -/
def shown (turns : List (Handling L)) : List (Event (interface L)) := turns.flatMap (·.shown)

theorem shown_append_singleton (turns : List (Handling L)) (handling : Handling L) :
    shown (turns ++ [handling]) = shown turns ++ handling.shown := by
  simp [shown]

variable {intentId : String} {stage stage' : Stage} {event : StreamEvent L} {request : Ask L}
  {handling : Handling L} {turns : List (Handling L)}

theorem rank_of_signing (signing : stage.step = .batchSigningStarted) :
    2 ≤ stage.rank ∧ stage.rank < 4 := by
  cases stage with
  | nonced => exact ⟨by decide, by decide⟩
  | signed => exact ⟨by decide, by decide⟩
  | _ => cases signing

/-- **A message leads to a later stage.** -/
theorem Sends.later (sends : Sends intentId stage event request) :
    ∃ next, reaches? request = some next ∧ stage.rank < next.rank := by
  cases sends with
  | confirm included => exact ⟨_, rfl, by decide⟩
  | nonces own noncePks => exact ⟨_, rfl, by decide⟩
  | signatures own partialSigs => exact ⟨_, rfl, by decide⟩
  | forfeits signing signedForfeits commitTx => exact ⟨_, rfl, (rank_of_signing signing).2⟩

/-- A turn does not lead back, and its messages lead no further than it does. -/
theorem Move.rank_le (move : Move intentId stage handling stage') :
    stage.rank ≤ stage'.rank ∧ ∀ request next, .sent request ∈ handling.shown →
      reaches? request = some next → next.rank ≤ stage'.rank := by
  cases move with
  | idle stage event => exact ⟨le_rfl, by simp⟩
  | confirm sends =>
      refine ⟨by decide, fun request next sent reached => ?_⟩
      obtain rfl : request = .confirmRegistration intentId := by simpa using sent
      cases reached
      exact le_rfl
  | nonces entropy sends =>
      refine ⟨by decide, fun request next sent reached => ?_⟩
      simp only [List.mem_cons, Event.sent.injEq, reduceCtorEq, List.not_mem_nil, or_false,
        false_or] at sent
      rcases sent with rfl | rfl
      · cases reached
      · cases reached
        exact le_rfl
  | signatures sends =>
      refine ⟨by decide, fun request next sent reached => ?_⟩
      obtain rfl : request = .submitTreeSignatures _ _ _ := by simpa using sent
      cases reached
      exact le_rfl
  | forfeits sends =>
      refine ⟨?_, fun request next sent reached => ?_⟩
      · cases sends with
        | forfeits signing signedForfeits commitTx => exact (rank_of_signing signing).2.le
      · obtain rfl : request = .submitSignedForfeitTxs _ _ := by simpa using sent
        cases reached
        exact le_rfl
  | finalize signing => exact ⟨(rank_of_signing signing).2.le, by simp⟩

namespace Path

/-- **The messages so far lead no further than the stage.** -/
theorem rank_le (path : Path intentId .registered turns stage) {next : Stage}
    (sent : .sent request ∈ shown turns) (reached : reaches? request = some next) :
    next.rank ≤ stage.rank := by
  induction path with
  | nil => simp [shown] at sent
  | turn path move ih =>
      obtain ⟨forward, messages⟩ := move.rank_le
      rw [shown_append_singleton, List.mem_append] at sent
      rcases sent with sent | sent
      · exact (ih sent).trans forward
      · exact messages request next sent reached

/-- **A message is not sent twice.** -/
theorem unsent (path : Path intentId .registered turns stage)
    (sends : Sends intentId stage event request) {earlier : Ask L}
    (same : reaches? earlier = reaches? request) : .sent earlier ∉ shown turns := by
  intro sent
  obtain ⟨next, reached, later⟩ := sends.later
  exact absurd (path.rank_le sent (same.trans reached)) (Nat.not_le.mpr later)

/-- After the first stage, the registration has been confirmed. -/
theorem confirmed (path : Path intentId .registered turns stage) (later : 1 ≤ stage.rank) :
    .answered (.confirmRegistration intentId) (.ok ()) ∈ shown turns := by
  induction path with
  | nil => cases later
  | turn path move ih =>
      rw [shown_append_singleton, List.mem_append]
      cases move with
      | idle stage event => exact .inl (ih later)
      | confirm sends => exact .inr (by simp)
      | nonces entropy sends => exact .inl (ih (by decide))
      | signatures sends => exact .inl (ih (by decide))
      | forfeits sends =>
          cases sends with
          | forfeits signing signedForfeits commitTx =>
              exact .inl (ih ((rank_of_signing signing).1.trans' (by decide)))
      | finalize signing => exact .inl (ih ((rank_of_signing signing).1.trans' (by decide)))

/-- After the second, the nonces have been accepted, in answer to `TreeSigningStarted`. -/
theorem nonced (path : Path intentId .registered turns stage) (later : 2 ≤ stage.rank) :
    ∃ before id cosignersPubkeys commitTx exchanged after,
      turns = before ++ ⟨.treeSigningStarted id cosignersPubkeys commitTx, exchanged⟩ :: after ∧
        NoncesAccepted exchanged := by
  induction path with
  | nil => cases later
  | @turn turns handling stage stage' path move ih =>
      -- The nonces are submitted in this turn, or have been in an earlier one.
      have append (earlier : 2 ≤ stage.rank) :
          ∃ before id cosignersPubkeys commitTx exchanged after,
          turns ++ [handling] =
            before ++ ⟨.treeSigningStarted id cosignersPubkeys commitTx, exchanged⟩ :: after ∧
              NoncesAccepted exchanged := by
        obtain ⟨before, id, cosignersPubkeys, commitTx, exchanged, after, rfl, accepted⟩ :=
          ih earlier
        exact ⟨before, id, cosignersPubkeys, commitTx, exchanged, after ++ [handling], by simp,
          accepted⟩
      cases move with
      | idle stage event => exact append later
      | confirm sends => exact absurd later (by decide)
      | @nonces event entropy id own noncePks sends =>
          cases sends with
          | nonces own noncePks =>
              have accepted := List.mem_cons_self
                (a := Event.answered (I := interface L) (.submitTreeNonces id own noncePks)
                  (.ok ()))
                (l := [])
              exact ⟨turns, id, _, _, _, [], rfl, id, own, noncePks,
                List.mem_cons_of_mem _ (List.mem_cons_of_mem _ (List.mem_cons_of_mem _ accepted))⟩
      | signatures sends => exact append (by decide)
      | forfeits sends =>
          cases sends with
          | forfeits signing signedForfeits commitTx => exact append (rank_of_signing signing).1
      | finalize signing => exact append (rank_of_signing signing).1

theorem noncesAccepted (path : Path intentId .registered turns stage) (later : 2 ≤ stage.rank) :
    NoncesAccepted (shown turns) := by
  obtain ⟨before, id, cosignersPubkeys, commitTx, exchanged, after, rfl, batchId, own, noncePks,
    accepted⟩ := path.nonced later
  exact ⟨batchId, own, noncePks,
    List.mem_flatMap.mpr ⟨_, List.mem_append_right _ List.mem_cons_self, accepted⟩⟩

/-- **The last stage is reached by a `BatchFinalization` that follows the nonces.** -/
theorem finalized (path : Path intentId .registered turns .finalized) :
    ∃ before id cosignersPubkeys commitTx exchanged between exchanged' after,
      turns = before ++ ⟨.treeSigningStarted id cosignersPubkeys commitTx, exchanged⟩ ::
        (between ++ ⟨.batchFinalization, exchanged'⟩ :: after) ∧ NoncesAccepted exchanged := by
  generalize last : Stage.finalized = stage at path
  induction path with
  | nil => cases last
  | @turn turns handling stage stage' path move ih =>
      have finish (signing : stage.step = .batchSigningStarted)
          (finalization : handling.event = .batchFinalization) :
          ∃ before id cosignersPubkeys commitTx exchanged between exchanged' after,
            turns ++ [handling] =
              before ++ ⟨.treeSigningStarted id cosignersPubkeys commitTx, exchanged⟩ ::
                (between ++ ⟨.batchFinalization, exchanged'⟩ :: after) ∧
              NoncesAccepted exchanged := by
        obtain ⟨before, id, cosignersPubkeys, commitTx, exchanged, between, rfl, accepted⟩ :=
          path.nonced (rank_of_signing signing).1
        refine ⟨before, id, cosignersPubkeys, commitTx, exchanged, between, handling.shown, [], ?_,
          accepted⟩
        rw [← finalization]
        simp
      cases move with
      | idle stage event =>
          obtain ⟨before, id, cosignersPubkeys, commitTx, exchanged, between, exchanged', after,
            rfl, accepted⟩ := ih last
          exact ⟨before, id, cosignersPubkeys, commitTx, exchanged, between, exchanged',
            after ++ [⟨event, []⟩], by simp, accepted⟩
      | confirm sends => cases last
      | nonces entropy sends => cases last
      | signatures sends => cases last
      | forfeits sends =>
          cases sends with
          | forfeits signing signedForfeits commitTx => exact finish signing rfl
      | finalize signing => exact finish signing rfl

end Path

end Protocol
end Batch
end ArkadeEscrow
