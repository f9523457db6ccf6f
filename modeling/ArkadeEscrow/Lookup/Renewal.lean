import ArkadeEscrow.Lookup.Conservation

/-!
# From what is found to what is moved

`findEscrowVtxoStatuses` and `findRefreshVtxos` list the unspent VTXOs of an escrow, those that
can be spent offchain and then those that can only be recovered. A caller decides by them what
to do with a VTXO, and then names it by its outpoint.

What is found can be moved in just the way that is reported (`found_can_be_moved`): a VTXO that
is spendable by its outpoint, and everything that is found by a refresh, which spends each of
them once and pays out all that they are worth.
-/

set_option autoImplicit false

namespace ArkadeEscrow
namespace Lookup

open Batch Refresh Distinct

variable {L : BatchLib} {A : ArkLib L} {B : BitcoinLib} {T : TaprootLib}

/-- More of `VtxoList` and of `VirtualTxOutPoint`. -/
structure VtxoLib (A : ArkLib L) where
  /-- `VtxoList::recoverable`. -/
  recoverable : A.VtxoList → List A.Vtxo
  createdAt : A.VtxoRest → Int
  expiresAt : A.VtxoRest → Int

/-- `client::EscrowVtxoStatus`. -/
structure EscrowVtxoStatus where
  outpoint : OutPoint
  createdAt : Int
  expiresAt : Int
  amount : Amount
  spendableOffchain : Bool
  recoverable : Bool
  isSwept : Bool

section Finding

variable (V : VtxoLib A) (clock : Option Nat) (client : EscrowClient A)
  (contract : EscrowContract B T)

def findEscrowVtxoStatuses : Except Error (List EscrowVtxoStatus) := do
  let (_, _, vtxoList) ← listCandidateVtxos clock client contract
  return ((A.spendableOffchain vtxoList).map fun v => {
      outpoint := v.outpoint
      createdAt := V.createdAt v.rest
      expiresAt := V.expiresAt v.rest
      amount := v.amount
      spendableOffchain := true
      recoverable := false
      isSwept := v.isSwept }) ++
    (V.recoverable vtxoList).map fun v => {
      outpoint := v.outpoint
      createdAt := V.createdAt v.rest
      expiresAt := V.expiresAt v.rest
      amount := v.amount
      spendableOffchain := false
      recoverable := true
      isSwept := v.isSwept }

def findSpendableEscrowVtxoByOutpoint (outpoint : OutPoint) :
    Except Error (Option EscrowVtxo) := do
  return (← findSpendableEscrowVtxos clock client contract).find? fun v => v.outpoint == outpoint

/-- The unspent VTXOs, and whether one of them is recoverable. -/
def findRefreshVtxos : Except Error (List RefreshVtxo × Bool) := do
  let (_, _, vtxoList) ← listCandidateVtxos clock client contract
  let vtxos := (A.spendableOffchain vtxoList).map fun v => ⟨v.outpoint, v.amount, v.isSwept⟩
  -- the second loop also notes that there was something to loop over
  let (vtxos, anyRecoverable) := (V.recoverable vtxoList).foldl
    (fun (vtxos, _) v => (vtxos ++ [⟨v.outpoint, v.amount, v.isSwept⟩], true)) (vtxos, false)
  return (vtxos, anyRecoverable)

end Finding

/-- What is found of a VTXO. -/
def refreshVtxo (v : A.Vtxo) : RefreshVtxo := ⟨v.outpoint, v.amount, v.isSwept⟩

theorem foldl_found (recoverable : List A.Vtxo) (vtxos : List RefreshVtxo) (some : Bool) :
    recoverable.foldl (fun (vtxos, _) v => (vtxos ++ [⟨v.outpoint, v.amount, v.isSwept⟩], true))
        (vtxos, some) =
      (vtxos ++ recoverable.map refreshVtxo, some || !recoverable.isEmpty) := by
  induction recoverable generalizing vtxos some with
  | nil => simp
  | cons v recoverable ih =>
      rw [List.foldl_cons, ih]
      simp [refreshVtxo]

/-! ## What the listing promises -/

/-- What is unspent can be spent offchain or recovered, and is some of what was listed. -/
structure VtxoLib.Partitions (V : VtxoLib A) : Prop where
  unspent : ∀ list, (A.allUnspent list).Perm (A.spendableOffchain list ++ V.recoverable list)
  listed : ∀ clock dust vtxos, (A.allUnspent (A.newVtxoList clock dust vtxos)).Subperm vtxos

/-- The server lists the VTXOs at the addresses that it is asked for, each once. -/
def EscrowClient.ListsAsked (client : EscrowClient A) (candidates : List (EscrowContract B T)) :
    Prop :=
  ∀ vtxos, client.listVtxos (candidates.map (address A)) = .ok vtxos →
    (vtxos.map (·.outpoint)).Nodup ∧
      ∀ v ∈ vtxos, ∃ candidate ∈ candidates, v.script = A.toP2trScriptPubkey (address A candidate)

variable (A B T) in
/-- The address of a contract stands for its script. -/
def PaysToContract : Prop :=
  ∀ contract : EscrowContract B T,
    A.toP2trScriptPubkey (address A contract) = contract.scriptPubkey

/-- **What was listed**: each VTXO once, and under the script of a candidate. -/
structure Listing (candidates : List (EscrowContract B T)) (unspent : List A.Vtxo) : Prop where
  distinct : (unspent.map (·.outpoint)).Nodup
  owned : ∀ v ∈ unspent, ∃ owner, contractForScript A candidates v.script = .ok owner

theorem exists_contractForScript {candidates : List (EscrowContract B T)}
    {candidate : EscrowContract B T} (known : candidate ∈ candidates) :
    ∃ owner, contractForScript A candidates candidate.scriptPubkey = .ok owner := by
  cases found : candidates.find? fun owner => owner.scriptPubkey == candidate.scriptPubkey with
  | none => exact absurd (beq_self_eq_true _) (List.find?_eq_none.mp found candidate known)
  | some owner => exact ⟨owner, orError_eq_ok_iff.mpr found⟩

variable {V : VtxoLib A} {clock : Option Nat} {client : EscrowClient A}
  {contract : EscrowContract B T} {info : A.ServerInfo} {candidates : List (EscrowContract B T)}
  {vtxoList : A.VtxoList}

theorem listing_of_listed (partitions : V.Partitions) (pays : PaysToContract A B T)
    (asked : client.ListsAsked candidates)
    (listing : listCandidateVtxos clock client contract = .ok (info, candidates, vtxoList)) :
    Listing candidates (A.allUnspent vtxoList) := by
  obtain ⟨info', _, listing⟩ := Results.bind_eq_ok_iff.mp listing
  obtain ⟨vtxos, answered, same⟩ := Results.bind_eq_ok_iff.mp listing
  cases same
  obtain ⟨once, scripts⟩ := asked vtxos (withContext_eq_ok_iff.mp answered)
  have within := partitions.listed clock info.dust vtxos
  constructor
  · obtain ⟨kept, same, sublist⟩ := within
    exact ((same.map _).nodup_iff).mp ((sublist.map _).nodup once)
  · intro v member
    obtain ⟨candidate, known, script⟩ := scripts v (within.subset member)
    rw [script, pays]
    exact exists_contractForScript known

/-! ## Moving -/

/-- A VTXO that is listed is resolved as it is listed. -/
theorem resolveRefreshVtxo_listed {unspent : List A.Vtxo} (listed : Listing candidates unspent)
    {v : A.Vtxo} (member : v ∈ unspent) :
    ∃ owner : EscrowContract B T,
      resolveRefreshVtxo candidates unspent (refreshVtxo v) = .ok ⟨owner, refreshVtxo v⟩ ∧
        contractForScript A candidates v.script = .ok owner := by
  obtain ⟨owner, found⟩ := listed.owned v member
  have here : unspent.find? (fun v' => v'.outpoint == v.outpoint) = some v :=
    (find?_key_iff listed.distinct).mpr ⟨member, rfl⟩
  refine ⟨owner, Results.bind_eq_ok_iff.mpr ⟨v, orError_eq_ok_iff.mpr here, ?_⟩, found⟩
  exact Results.bind_eq_ok_iff.mpr ⟨owner, found, rfl⟩

/-- **A refresh of VTXOs that are listed resolves each of them as it is listed.** -/
theorem resolveRefreshVtxos_listed (listed : Listing candidates (A.allUnspent vtxoList))
    (listing : listCandidateVtxos clock client contract = .ok (info, candidates, vtxoList))
    {vtxos : List A.Vtxo} (members : ∀ v ∈ vtxos, v ∈ A.allUnspent vtxoList) :
    ∃ inputs : List (RefreshInput B T),
      resolveRefreshVtxos clock client contract (vtxos.map refreshVtxo) = .ok (info, inputs) ∧
      List.Forall₂ (fun v input => input.vtxo = refreshVtxo v ∧
        contractForScript A candidates v.script = .ok input.contract) vtxos inputs := by
  have resolves : ∀ requested ∈ vtxos.map refreshVtxo, ∃ input,
      resolveRefreshVtxo candidates (A.allUnspent vtxoList) requested = .ok input := by
    intro requested member
    obtain ⟨v, here, rfl⟩ := List.mem_map.mp member
    obtain ⟨owner, resolved, _⟩ := resolveRefreshVtxo_listed listed (members v here)
    exact ⟨_, resolved⟩
  obtain ⟨inputs, resolved⟩ := Results.exists_mapM_eq_ok_iff.mpr resolves
  refine ⟨inputs, ?_, ?_⟩
  · rw [resolveRefreshVtxos, listing, Results.ok_bind]
    exact Results.bind_eq_ok_iff.mpr ⟨inputs, resolved, rfl⟩
  · have each := Results.mapM_eq_ok_iff.mp resolved
    rw [List.forall₂_map_left_iff] at each
    refine ((List.forall₂_and_left ..).mpr ⟨members, each⟩).imp ?_
    rintro v input ⟨member, resolved⟩
    obtain ⟨owner, resolved', found⟩ := resolveRefreshVtxo_listed listed member
    cases Except.ok.inj (resolved.symm.trans resolved')
    exact ⟨rfl, found⟩

/-- A VTXO that can be spent offchain is resolved as it is listed. -/
theorem resolveSpendableEscrowVtxo_listed (listed : Listing candidates (A.allUnspent vtxoList))
    (partitions : V.Partitions)
    (listing : listCandidateVtxos clock client contract = .ok (info, candidates, vtxoList))
    {v : A.Vtxo} (member : v ∈ A.spendableOffchain vtxoList) :
    ∃ owner : EscrowContract B T,
      resolveSpendableEscrowVtxo clock client contract v.outpoint =
        .ok (info, ⟨owner, ⟨v.outpoint, v.amount⟩⟩) ∧
      contractForScript A candidates v.script = .ok owner := by
  have unspent := partitions.unspent vtxoList
  have distinct := ((unspent.map (·.outpoint)).nodup_iff).mp listed.distinct
  rw [List.map_append] at distinct
  have here : (A.spendableOffchain vtxoList).find? (fun v' => v'.outpoint == v.outpoint) = some v :=
    (find?_key_iff (List.Nodup.of_append_left distinct)).mpr ⟨member, rfl⟩
  obtain ⟨owner, found⟩ :=
    listed.owned v (unspent.mem_iff.mpr (List.mem_append_left _ member))
  refine ⟨owner, ?_, found⟩
  rw [resolveSpendableEscrowVtxo, listing, Results.ok_bind]
  refine Results.bind_eq_ok_iff.mpr ⟨v, orError_eq_ok_iff.mpr here, ?_⟩
  exact Results.bind_eq_ok_iff.mpr ⟨owner, found, rfl⟩

/-- **What the listed VTXOs are worth**, each looked up by its outpoint. -/
theorem listedWorth_listed {unspent : List A.Vtxo} (listed : Listing candidates unspent)
    {vtxos : List A.Vtxo} (members : ∀ v ∈ vtxos, v ∈ unspent) :
    listedWorth unspent (vtxos.map (·.outpoint)) = worth (vtxos.map (·.amount)) := by
  rw [listedWorth, worth_eq_sum, List.map_map, List.map_map]
  refine congrArg List.sum (List.map_congr_left fun v member => ?_)
  have here : unspent.find? (fun v' => v'.outpoint == v.outpoint) = some v :=
    (find?_key_iff listed.distinct).mpr ⟨members v member, rfl⟩
  rw [Function.comp_apply, listedSat, here]
  rfl

/-! ## What is reported of a VTXO -/

/-- The status of a VTXO that can be spent offchain, or of one that cannot. -/
def statusOf (V : VtxoLib A) (spendableOffchain : Bool) (v : A.Vtxo) : EscrowVtxoStatus where
  outpoint := v.outpoint
  createdAt := V.createdAt v.rest
  expiresAt := V.expiresAt v.rest
  amount := v.amount
  spendableOffchain
  recoverable := !spendableOffchain
  isSwept := v.isSwept

/-- What a caller names to have it refreshed. -/
def EscrowVtxoStatus.refreshVtxo (status : EscrowVtxoStatus) : RefreshVtxo :=
  ⟨status.outpoint, status.amount, status.isSwept⟩

/-- **What is found can be moved in the way that is reported.** -/
structure Movable (V : VtxoLib A) (clock : Option Nat) (client : EscrowClient A)
    (contract : EscrowContract B T) (info : A.ServerInfo) (unspent : List A.Vtxo)
    (statuses : List EscrowVtxoStatus) : Prop where
  /-- Nothing that is unspent is missing, and nothing is reported twice. -/
  complete : (statuses.map (·.outpoint)).Perm (unspent.map (·.outpoint)) ∧
    (statuses.map (·.outpoint)).Nodup
  /-- The other lookups find the same. -/
  spendable : findSpendableEscrowVtxos clock client contract =
    .ok ((statuses.filter (·.spendableOffchain)).map fun s => ⟨s.outpoint, s.amount⟩)
  refreshable : findRefreshVtxos V clock client contract =
    .ok (statuses.map (·.refreshVtxo), statuses.any (·.recoverable))
  /-- A VTXO can be spent by its outpoint just when it is reported so, and then for the amount
  that is reported. -/
  spends : ∀ s ∈ statuses,
    (s.spendableOffchain = true ↔ ∃ resolved : ResolvedEscrowVtxo B T,
      resolveSpendableEscrowVtxo clock client contract s.outpoint = .ok (info, resolved)) ∧
    ∀ resolved : ResolvedEscrowVtxo B T,
      resolveSpendableEscrowVtxo clock client contract s.outpoint = .ok (info, resolved) →
        resolved.vtxo = ⟨s.outpoint, s.amount⟩
  byOutpoint : ∀ s ∈ statuses, findSpendableEscrowVtxoByOutpoint clock client contract s.outpoint =
    .ok (if s.spendableOffchain then some ⟨s.outpoint, s.amount⟩ else none)
  /-- Any choice of what is reported can be resolved for a refresh, as it was reported. -/
  resolves : ∀ chosen : List EscrowVtxoStatus, (∀ s ∈ chosen, s ∈ statuses) →
    ∃ inputs : List (RefreshInput B T),
      resolveRefreshVtxos clock client contract (chosen.map (·.refreshVtxo)) = .ok (info, inputs) ∧
      inputs.map (·.vtxo) = chosen.map (·.refreshVtxo)
  /-- A refresh of such a choice spends what was chosen, and pays out all that it is worth. -/
  refreshes : ∀ chosen : List EscrowVtxoStatus, (∀ s ∈ chosen, s ∈ statuses) →
    worth (chosen.map (·.amount)) < 2 ^ 64 →
    ∀ overflowChecks signerSet refreshCosignerPk refresh,
      prepareRefresh overflowChecks clock client contract (chosen.map (·.refreshVtxo)) signerSet
        refreshCosignerPk = some (.ok refresh) →
      inputOutpoints refresh.intent = chosen.map (·.outpoint) ∧
        ∃ output, refresh.intent.proof.unsignedTx.output = [output] ∧
          output.value.sat.toNat = worth (chosen.map (·.amount))

variable {statuses : List EscrowVtxoStatus}

theorem statuses_eq (found : findEscrowVtxoStatuses V clock client contract = .ok statuses)
    (listing : listCandidateVtxos clock client contract = .ok (info, candidates, vtxoList)) :
    statuses = (A.spendableOffchain vtxoList).map (statusOf V true) ++
      (V.recoverable vtxoList).map (statusOf V false) := by
  rw [findEscrowVtxoStatuses, listing, Results.ok_bind] at found
  cases found
  rfl

/-- Every status is that of a VTXO that is listed so. -/
theorem exists_of_mem_statuses {s : EscrowVtxoStatus}
    (member : s ∈ (A.spendableOffchain vtxoList).map (statusOf V true) ++
      (V.recoverable vtxoList).map (statusOf V false)) :
    ∃ v, s = statusOf V s.spendableOffchain v ∧
      (s.spendableOffchain = true → v ∈ A.spendableOffchain vtxoList) ∧
      (s.spendableOffchain = false → v ∈ V.recoverable vtxoList) := by
  rcases List.mem_append.mp member with member | member
  · obtain ⟨v, here, rfl⟩ := List.mem_map.mp member
    exact ⟨v, rfl, fun _ => here, nofun⟩
  · obtain ⟨v, here, rfl⟩ := List.mem_map.mp member
    exact ⟨v, rfl, nofun, fun _ => here⟩

/-- The VTXOs of any choice of statuses. -/
theorem exists_map_of_statuses {chosen : List EscrowVtxoStatus}
    (partitions : V.Partitions)
    (members : ∀ s ∈ chosen, s ∈ (A.spendableOffchain vtxoList).map (statusOf V true) ++
      (V.recoverable vtxoList).map (statusOf V false)) :
    ∃ vtxos : List A.Vtxo, (∀ v ∈ vtxos, v ∈ A.allUnspent vtxoList) ∧
      chosen.map (·.refreshVtxo) = vtxos.map refreshVtxo ∧
      chosen.map (·.outpoint) = vtxos.map (·.outpoint) ∧
      chosen.map (·.amount) = vtxos.map (·.amount) := by
  induction chosen with
  | nil => exact ⟨[], nofun, rfl, rfl, rfl⟩
  | cons s chosen ih =>
      obtain ⟨first, rest⟩ := List.forall_mem_cons.mp members
      obtain ⟨vtxos, within, refreshVtxos, outpoints, amounts⟩ := ih rest
      obtain ⟨v, same, spendable, recoverable⟩ := exists_of_mem_statuses first
      have unspent : v ∈ A.allUnspent vtxoList := by
        rw [(partitions.unspent vtxoList).mem_iff, List.mem_append]
        cases offchain : s.spendableOffchain with
        | true => exact .inl (spendable offchain)
        | false => exact .inr (recoverable offchain)
      refine ⟨v :: vtxos, List.forall_mem_cons.mpr ⟨unspent, within⟩, ?_, ?_, ?_⟩
      · rw [List.map_cons, List.map_cons, refreshVtxos, same]
        rfl
      · rw [List.map_cons, List.map_cons, outpoints, same]
        rfl
      · rw [List.map_cons, List.map_cons, amounts, same]
        rfl

/-- What is only recoverable cannot be spent by its outpoint. -/
theorem resolveSpendableEscrowVtxo_recoverable
    (once : ((A.spendableOffchain vtxoList ++ V.recoverable vtxoList).map (·.outpoint)).Nodup)
    (listing : listCandidateVtxos clock client contract = .ok (info, candidates, vtxoList))
    {v : A.Vtxo} (member : v ∈ V.recoverable vtxoList)
    {resolved : A.ServerInfo × ResolvedEscrowVtxo B T} :
    resolveSpendableEscrowVtxo clock client contract v.outpoint ≠ .ok resolved := by
  intro found
  rw [resolveSpendableEscrowVtxo, listing, Results.ok_bind] at found
  obtain ⟨vtxo, first, _⟩ := Results.bind_eq_ok_iff.mp found
  have first := orError_eq_ok_iff.mp first
  have same : vtxo.outpoint = v.outpoint := by simpa using List.find?_some first
  rw [List.map_append] at once
  exact List.disjoint_of_nodup_append once
    (List.mem_map_of_mem (List.mem_of_find?_eq_some first))
    (List.mem_map.mpr ⟨v, member, same.symm⟩)

/-- What is found by its outpoint is spendable. -/
theorem findSpendableEscrowVtxoByOutpoint_eq
    (once : ((A.spendableOffchain vtxoList ++ V.recoverable vtxoList).map (·.outpoint)).Nodup)
    (listing : listCandidateVtxos clock client contract = .ok (info, candidates, vtxoList))
    {v : A.Vtxo} :
    (v ∈ A.spendableOffchain vtxoList →
      findSpendableEscrowVtxoByOutpoint clock client contract v.outpoint =
        .ok (some ⟨v.outpoint, v.amount⟩)) ∧
    (v ∈ V.recoverable vtxoList →
      findSpendableEscrowVtxoByOutpoint clock client contract v.outpoint = .ok none) := by
  rw [findSpendableEscrowVtxoByOutpoint, findSpendableEscrowVtxos, listing]
  show (_ → Except.ok (List.find? _ (List.map (fun v => (⟨v.outpoint, v.amount⟩ : EscrowVtxo))
      (A.spendableOffchain vtxoList))) = _) ∧
    (_ → Except.ok (List.find? _ (List.map (fun v => (⟨v.outpoint, v.amount⟩ : EscrowVtxo))
      (A.spendableOffchain vtxoList))) = _)
  rw [List.map_append] at once
  constructor
  · intro member
    refine congrArg Except.ok ((find?_key_iff ?_).mpr ⟨List.mem_map_of_mem member, rfl⟩)
    rw [List.map_map]
    exact List.Nodup.of_append_left once
  · intro member
    refine congrArg Except.ok (List.find?_eq_none.mpr ?_)
    intro found here same
    obtain ⟨v', spendable, rfl⟩ := List.mem_map.mp here
    exact List.disjoint_of_nodup_append once (List.mem_map_of_mem spendable)
      (List.mem_map.mpr ⟨v, member, (beq_iff_eq.mp same).symm⟩)

theorem filter_statuses (spendable recoverable : List A.Vtxo) :
    (spendable.map (statusOf V true) ++ recoverable.map (statusOf V false)).filter
      (·.spendableOffchain) = spendable.map (statusOf V true) := by
  rw [List.filter_append, List.filter_eq_self.mpr, List.filter_eq_nil_iff.mpr, List.append_nil]
  all_goals simp [statusOf]

theorem any_statuses (spendable recoverable : List A.Vtxo) :
    (spendable.map (statusOf V true) ++ recoverable.map (statusOf V false)).any (·.recoverable) =
      !recoverable.isEmpty := by
  rw [List.any_append, List.any_map, List.any_map]
  cases recoverable <;> simp [statusOf]

theorem findRefreshVtxos_eq
    (listing : listCandidateVtxos clock client contract = .ok (info, candidates, vtxoList)) :
    findRefreshVtxos V clock client contract =
      .ok ((A.spendableOffchain vtxoList).map refreshVtxo ++
        (V.recoverable vtxoList).map refreshVtxo, !(V.recoverable vtxoList).isEmpty) := by
  rw [findRefreshVtxos, listing, Results.ok_bind]
  dsimp only
  rw [foldl_found, Bool.false_or]
  rfl

/-- **What is found can be moved in the way that is reported.** In a listing of the VTXOs at
the addresses of an escrow, under whichever of the known server keys they were funded: what is
reported as spendable, and nothing else, is spent by its outpoint, for its amount; and whatever
is chosen for a refresh is spent by it and paid out in full. -/
theorem found_can_be_moved (partitions : V.Partitions) (pays : PaysToContract A B T)
    (takes : TakesAsGiven A) (asked : client.ListsAsked candidates)
    (listing : listCandidateVtxos clock client contract = .ok (info, candidates, vtxoList))
    (found : findEscrowVtxoStatuses V clock client contract = .ok statuses) :
    Movable V clock client contract info (A.allUnspent vtxoList) statuses := by
  have listed := listing_of_listed partitions pays asked listing
  obtain rfl := statuses_eq found listing
  have outpoints : ((A.spendableOffchain vtxoList).map (statusOf V true) ++
      (V.recoverable vtxoList).map (statusOf V false)).map (·.outpoint) =
        (A.spendableOffchain vtxoList ++ V.recoverable vtxoList).map (·.outpoint) := by
    rw [List.map_append, List.map_append, List.map_map, List.map_map]
    rfl
  have unspent := (partitions.unspent vtxoList).map fun v => v.outpoint
  have once := (unspent.nodup_iff).mp listed.distinct
  constructor
  case complete =>
    rw [outpoints]
    exact ⟨unspent.symm, once⟩
  case spendable =>
    rw [findSpendableEscrowVtxos, listing, Results.ok_bind, filter_statuses, List.map_map]
    rfl
  case refreshable =>
    rw [findRefreshVtxos_eq listing, any_statuses, List.map_append, List.map_map, List.map_map]
    rfl
  case spends =>
    intro s member
    obtain ⟨v, same, spendable, recoverable⟩ := exists_of_mem_statuses member
    cases offchain : s.spendableOffchain with
    | true =>
        obtain ⟨owner, resolved, _⟩ :=
          resolveSpendableEscrowVtxo_listed listed partitions listing (spendable offchain)
        rw [same]
        refine ⟨⟨fun _ => ⟨_, resolved⟩, fun _ => rfl⟩, fun resolved' found' => ?_⟩
        cases Except.ok.inj (resolved.symm.trans found')
        rfl
    | false =>
        have never := @resolveSpendableEscrowVtxo_recoverable _ _ B T _ _ _ contract _ _ _ once
          listing _ (recoverable offchain)
        rw [same]
        exact ⟨⟨nofun, fun ⟨resolved, found'⟩ => absurd found' never⟩,
          fun resolved found' => absurd found' never⟩
  case byOutpoint =>
    intro s member
    obtain ⟨v, same, spendable, recoverable⟩ := exists_of_mem_statuses member
    obtain ⟨offchain, other⟩ := @findSpendableEscrowVtxoByOutpoint_eq _ _ B T V _ _ contract _ _ _
      once listing v
    rw [same]
    cases status : s.spendableOffchain with
    | true => exact offchain (spendable status)
    | false => exact other (recoverable status)
  case resolves =>
    intro chosen members
    obtain ⟨vtxos, within, refreshVtxos, _, _⟩ := exists_map_of_statuses partitions members
    obtain ⟨inputs, resolved, each⟩ := resolveRefreshVtxos_listed listed listing within
    rw [refreshVtxos]
    refine ⟨inputs, resolved, (Results.map_eq_map_of_forall₂ each ?_).symm⟩
    exact fun v input here => here.1.symm
  case refreshes =>
    intro chosen members fits overflowChecks signerSet refreshCosignerPk refresh prepared
    obtain ⟨vtxos, within, refreshVtxos, outpoints', amounts⟩ :=
      exists_map_of_statuses partitions members
    obtain ⟨spent, output, outputs, value⟩ := prepareRefresh_eq_ok takes listing prepared
    have named : (chosen.map (·.refreshVtxo)).map (·.outpoint) = vtxos.map (·.outpoint) := by
      rw [List.map_map, ← outpoints']
      rfl
    rw [named] at spent value
    rw [amounts] at fits ⊢
    rw [listedWorth_listed listed within, Nat.mod_eq_of_lt fits] at value
    exact ⟨spent.trans outpoints'.symm, output, outputs, value⟩

/-! ## One VTXO before a rotation, and a swept one after it -/

namespace Sample

noncomputable section

/-- What has been swept is recoverable. -/
def sweeping : VtxoLib proving where
  recoverable vtxos := vtxos.filter (·.isSwept)
  createdAt _ := 0
  expiresAt _ := 0

def swept : proving.Vtxo := ⟨⟨⟨2⟩, 0⟩, ⟨500⟩, newContract.scriptPubkey, true, ()⟩

/-- The server lists both to whoever asks for their addresses. -/
def answering : EscrowClient proving where
  serverInfo := ⟨false, some Sample.info⟩
  listVtxos addresses := .ok ([held, swept].filter fun vtxo =>
    addresses.any fun address => proving.toP2trScriptPubkey address == vtxo.script)

theorem partitions_sweeping : sweeping.Partitions where
  unspent vtxos := (List.filter_append_perm (·.isSwept) vtxos).symm.trans List.perm_append_comm
  listed _ _ vtxos := List.Subperm.refl vtxos

theorem paysToContract_proving :
    PaysToContract proving BitcoinLib.reference TaprootLib.committing := fun _ => rfl

theorem listsAsked_answering
    (candidates : List (EscrowContract BitcoinLib.reference TaprootLib.committing)) :
    answering.ListsAsked candidates := by
  rintro vtxos ⟨⟩
  constructor
  · exact ((List.filter_sublist (l := [held, swept])).map _).nodup (by simp [held, swept])
  · intro v member
    obtain ⟨address', known, same⟩ := List.any_eq_true.mp (List.mem_filter.mp member).2
    obtain ⟨candidate, here, rfl⟩ := List.mem_map.mp known
    exact ⟨candidate, here, (beq_iff_eq.mp same).symm⟩

/-- The contracts under the two keys. -/
def underBothKeys : List (EscrowContract BitcoinLib.reference TaprootLib.committing) :=
  candidateContracts oldContract Sample.info.signerPk.xOnly Sample.info.deprecatedSigners

theorem listCandidateVtxos_answering :
    listCandidateVtxos (some 0) answering oldContract =
      .ok (Sample.info, underBothKeys, [held, swept]) := by
  have asked {candidate : EscrowContract BitcoinLib.reference TaprootLib.committing}
      (member : candidate ∈ underBothKeys) : (underBothKeys.map (address proving)).any
        (fun address => proving.toP2trScriptPubkey address == candidate.scriptPubkey) = true :=
    List.any_eq_true.mpr ⟨_, List.mem_map_of_mem member, beq_self_eq_true _⟩
  have old : oldContract ∈ underBothKeys :=
    mem_candidateContracts.mpr ⟨⟨4⟩, .inl rfl, oldContract.withServer_self⟩
  have new : newContract ∈ underBothKeys := mem_candidateContracts.mpr
    ⟨⟨5⟩, .inr (by simp [announcedKeys, Sample.info]), newContract.new_self⟩
  have vtxos : answering.listVtxos (underBothKeys.map (address proving)) = .ok [held, swept] := by
    refine congrArg Except.ok (List.filter_eq_self.mpr fun v member => ?_)
    rcases List.mem_cons.mp member with rfl | member
    · exact asked old
    · obtain rfl := List.mem_singleton.mp member
      exact asked new
  rw [listCandidateVtxos]
  refine Results.bind_eq_ok_iff.mpr ⟨Sample.info, rfl, ?_⟩
  exact Results.bind_eq_ok_iff.mpr ⟨[held, swept], withContext_eq_ok_iff.mpr vtxos, rfl⟩

end

end Sample

/-- A VTXO is reported as spendable, and another one, which has been swept, is not. -/
theorem found_can_be_moved_sample : ∃ statuses,
    findEscrowVtxoStatuses Sample.sweeping (some 0) Sample.answering Sample.oldContract =
      .ok statuses ∧
    statuses.map (fun status => (status.outpoint, status.spendableOffchain)) =
      [(Sample.held.outpoint, true), (Sample.swept.outpoint, false)] ∧
    Movable Sample.sweeping (some 0) Sample.answering Sample.oldContract Sample.info
      [Sample.held, Sample.swept] statuses := by
  have listing := Sample.listCandidateVtxos_answering
  obtain ⟨statuses, found⟩ : ∃ statuses, findEscrowVtxoStatuses Sample.sweeping (some 0)
      Sample.answering Sample.oldContract = .ok statuses := by
    rw [findEscrowVtxoStatuses, listing, Results.ok_bind]
    exact ⟨_, rfl⟩
  refine ⟨statuses, found, ?_, found_can_be_moved Sample.partitions_sweeping
    Sample.paysToContract_proving Sample.takesAsGiven_proving (Sample.listsAsked_answering _)
      listing found⟩
  rw [statuses_eq found listing]
  rfl

end Lookup
end ArkadeEscrow
