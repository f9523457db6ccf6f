import ArkadeEscrow.Lookup.Program
import ArkadeEscrow.Taproot

/-!
# The candidates

A candidate is the contract of the template with a known server key
(`mem_candidateContracts`), and the contract that was asked for is the first one
(`exists_candidateContracts_cons`). Building one only fails for the key of a party, so there
is exactly one for each other key that the server announces (`candidates_complete`). If no two
server keys make the same script, then a script belongs to one candidate at most
(`candidates_unique`).
-/

set_option autoImplicit false

namespace ArkadeEscrow
namespace Lookup

open Distinct

variable {L : Batch.BatchLib} {A : ArkLib L} {B : BitcoinLib} {T : TaprootLib}
variable {contract contract' candidate candidate' : EscrowContract B T}
variable {signerPk : XOnlyPublicKey} {deprecatedSigners : List DeprecatedSigner}

/-- The keys that the server announces: the current one, and the deprecated ones. -/
def announcedKeys (signerPk : XOnlyPublicKey) (deprecatedSigners : List DeprecatedSigner) :
    List XOnlyPublicKey :=
  signerPk :: deprecatedSigners.map fun deprecated => deprecated.pk.xOnly

/-- No two server keys make the same script of the template. -/
def DistinctScripts (contract : EscrowContract B T) : Prop :=
  ∀ server server' candidate candidate', contract.withServer server = .ok candidate →
    contract.withServer server' = .ok candidate' →
    candidate.scriptPubkey = candidate'.scriptPubkey → server = server'

theorem toOption_eq_some_iff {ε α : Type} {r : Except ε α} {a : α} :
    r.toOption = some a ↔ r = .ok a := by
  cases r <;> simp [Except.toOption]

theorem mem_candidateContracts :
    candidate ∈ candidateContracts contract signerPk deprecatedSigners ↔
      ∃ server, (server = contract.options.server ∨
        server ∈ announcedKeys signerPk deprecatedSigners) ∧
        contract.withServer server = .ok candidate := by
  simp only [candidateContracts, List.mem_filterMap, mem_distinct, toOption_eq_some_iff,
    announcedKeys, List.mem_cons]

/-- **The contract itself is the first candidate.** -/
theorem exists_candidateContracts_cons :
    ∃ rest, candidateContracts contract signerPk deprecatedSigners = contract :: rest := by
  obtain ⟨rest, keys⟩ := exists_distinct_cons contract.options.server
    (announcedKeys signerPk deprecatedSigners)
  rw [announcedKeys] at keys
  rw [candidateContracts, keys, List.filterMap_cons_some (b := contract)]
  · exact ⟨_, rfl⟩
  · exact toOption_eq_some_iff.mpr contract.withServer_self

/-! ## Which keys have a candidate -/

/-- The servers of the candidates are the known keys, each once, in the order in which they
are known, less those with which there is no contract. -/
theorem map_server_candidateContracts :
    (candidateContracts contract signerPk deprecatedSigners).map (fun c => c.options.server) =
      (distinct (contract.options.server :: announcedKeys signerPk deprecatedSigners)).filter
        fun server => (contract.withServer server).toOption.isSome := by
  refine map_filterMap_of_key (fun server candidate made => ?_) _
  rw [EscrowContract.withServer_options (toOption_eq_some_iff.mp made)]

/-- What a lookup has to ask for: the contract itself, and first, then the contract with each
server key that is announced and that no party has; nothing else, and nothing twice. -/
structure Complete (contract : EscrowContract B T) (announced : List XOnlyPublicKey)
    (candidates : List (EscrowContract B T)) : Prop where
  nonempty : candidates ≠ []
  first : candidates.head? = some contract
  nodup : (candidates.map fun candidate => candidate.options.server).Nodup
  covered : ∀ server ∈ announced, server ∉ contract.options.parties →
    ∃ candidate ∈ candidates, contract.withServer server = .ok candidate
  known : ∀ candidate ∈ candidates, candidate = contract ∨
    ∃ server ∈ announced, server ∉ contract.options.parties ∧
      contract.withServer server = .ok candidate

variable {hashing : Merkle.Hashing ScriptBuf (BitVec 256)} {tweak : Tweak}

/-- **The candidates are complete and unambiguous**, for every contract, every current key and
every list of deprecated signers. -/
theorem candidates_complete (trees : BuildsTrees B T hashing tweak) :
    Complete contract (announcedKeys signerPk deprecatedSigners)
      (candidateContracts contract signerPk deprecatedSigners) := by
  obtain ⟨rest, own⟩ := @exists_candidateContracts_cons B T contract signerPk deprecatedSigners
  constructor
  case nonempty =>
    rw [own]
    exact List.cons_ne_nil contract rest
  case first => rw [own, List.head?_cons]
  case nodup =>
    rw [map_server_candidateContracts]
    exact (nodup_distinct _).filter _
  case covered =>
    intro server announced other
    obtain ⟨candidate, made⟩ := (EscrowContract.exists_withServer_iff trees).mpr other
    exact ⟨candidate, mem_candidateContracts.mpr ⟨server, .inr announced, made⟩, made⟩
  case known =>
    intro candidate member
    obtain ⟨server, origin, made⟩ := mem_candidateContracts.mp member
    rcases origin with rfl | announced
    · rw [contract.withServer_self] at made
      exact .inl (Except.ok.inj made).symm
    · exact .inr ⟨server, announced, EscrowContract.server_not_mem_parties made, made⟩

/-- A server that announces its current key twice, in both parities, and the key of the buyer. -/
theorem candidates_complete_sample :
    ∃ contract : EscrowContract Sample.climbing Sample.combining,
      EscrowContract.new Sample.climbing Sample.combining Sample.options .regtest = .ok contract ∧
      Complete contract (announcedKeys ⟨5⟩ [⟨⟨⟨5⟩, true⟩⟩, ⟨⟨⟨2⟩, false⟩⟩, ⟨⟨⟨5⟩, false⟩⟩])
        (candidateContracts contract ⟨5⟩ [⟨⟨⟨5⟩, true⟩⟩, ⟨⟨⟨2⟩, false⟩⟩, ⟨⟨⟨5⟩, false⟩⟩]) := by
  obtain ⟨spendInfo, built, _⟩ := exists_buildTaproot Sample.buildsTrees_combining
  have valid : Sample.options.validate = .ok () := rfl
  obtain ⟨contract, made⟩ := EscrowContract.exists_new_of_built valid ⟨spendInfo, built⟩ .regtest
  exact ⟨contract, made, candidates_complete Sample.buildsTrees_combining⟩

/-! ## One template -/

/-- A candidate is of the same template. -/
theorem sameTemplate_of_withServer {server : XOnlyPublicKey}
    (made : contract.withServer server = .ok candidate) :
    EscrowContract.SameTemplate candidate contract := by
  have options := EscrowContract.withServer_options made
  refine ⟨?_, EscrowContract.new_network made⟩
  rw [options]

theorem sameTemplate_of_mem
    (member : candidate ∈ candidateContracts contract signerPk deprecatedSigners) :
    EscrowContract.SameTemplate candidate contract := by
  obtain ⟨server, _, made⟩ := mem_candidateContracts.mp member
  exact sameTemplate_of_withServer made

/-- **Two contracts of one template have the same candidates**, if their own keys are
announced. The order may be another. -/
theorem candidates_same (same : EscrowContract.SameTemplate contract contract')
    (announced : contract.options.server ∈ announcedKeys signerPk deprecatedSigners)
    (announced' : contract'.options.server ∈ announcedKeys signerPk deprecatedSigners)
    (candidate : EscrowContract B T) :
    candidate ∈ candidateContracts contract signerPk deprecatedSigners ↔
      candidate ∈ candidateContracts contract' signerPk deprecatedSigners := by
  have keys {own : XOnlyPublicKey} (known : own ∈ announcedKeys signerPk deprecatedSigners)
      (server : XOnlyPublicKey) :
      (server = own ∨ server ∈ announcedKeys signerPk deprecatedSigners) ↔
        server ∈ announcedKeys signerPk deprecatedSigners :=
    or_iff_right_of_imp fun here => here ▸ known
  rw [mem_candidateContracts, mem_candidateContracts]
  refine exists_congr fun server => ?_
  rw [keys announced, keys announced', same.withServer]

theorem candidates_unique (distinct : DistinctScripts contract)
    (member : candidate ∈ candidateContracts contract signerPk deprecatedSigners)
    (member' : candidate' ∈ candidateContracts contract signerPk deprecatedSigners)
    (same : candidate.scriptPubkey = candidate'.scriptPubkey) : candidate = candidate' := by
  obtain ⟨server, _, made⟩ := mem_candidateContracts.mp member
  obtain ⟨server', _, made'⟩ := mem_candidateContracts.mp member'
  have key := distinct server server' _ _ made made' same
  subst key
  exact Except.ok.inj (made.symm.trans made')

/-! ## By script -/

theorem contractForScript_eq_ok {candidates : List (EscrowContract B T)} {script : ScriptBuf}
    (found : contractForScript A candidates script = .ok candidate) :
    candidate ∈ candidates ∧ candidate.scriptPubkey = script := by
  have first := orError_eq_ok_iff.mp found
  exact ⟨List.mem_of_find?_eq_some first, by simpa using List.find?_some first⟩

/-- A script of the contract that was asked for belongs to it. -/
theorem contractForScript_self :
    contractForScript A (candidateContracts contract signerPk deprecatedSigners)
      contract.scriptPubkey = .ok contract := by
  obtain ⟨rest, first⟩ := @exists_candidateContracts_cons B T contract signerPk deprecatedSigners
  rw [contractForScript, first, List.find?_cons_of_pos (by simp)]
  rfl

/-- **A script belongs to the same candidate**, whichever contract of the template was asked
for. -/
theorem contractForScript_same (same : EscrowContract.SameTemplate contract contract')
    (distinct : DistinctScripts contract)
    (announced : contract.options.server ∈ announcedKeys signerPk deprecatedSigners)
    (announced' : contract'.options.server ∈ announcedKeys signerPk deprecatedSigners)
    (script : ScriptBuf) :
    contractForScript A (candidateContracts contract signerPk deprecatedSigners) script =
      contractForScript A (candidateContracts contract' signerPk deprecatedSigners) script := by
  have lookup := find?_eq_of_unique (p := fun candidate => candidate.scriptPubkey == script)
    (candidates_same same announced announced') ?_
  · rw [contractForScript, contractForScript, lookup]
  · intro candidate member candidate' member' here here'
    refine candidates_unique distinct member member' ?_
    exact (beq_iff_eq.mp here).trans (beq_iff_eq.mp here').symm

end Lookup
end ArkadeEscrow
