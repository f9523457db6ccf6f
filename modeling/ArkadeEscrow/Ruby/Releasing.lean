import ArkadeEscrow.Lookup.Delegated
import ArkadeEscrow.Ruby.Refreshing

/-!
# A release through the Ruby API

A caller finds the VTXOs of an escrow, asks for a quote of the amount that was found, shows it to
the parties, and has the release or a refund built for the outpoint. All of it are texts and
numbers, and the calls are separate requests: a release does not get the quote, and the amount
that it gets is not looked at.

Still a quote is what is paid (`quotes_are_honoured`): a release of a VTXO that was found is built
just when there is a quote for it and the transactions can be built, and it pays what the texts of
the quote say. The same holds of a delegated release (`delegated_quotes_are_honoured`). And what
is found for a refresh can be handed back as it is (`found_texts_are_refreshed`).
-/

set_option autoImplicit false

namespace ArkadeEscrow
namespace Ruby

open Batch Refresh Lookup

variable {L : BatchLib} {A : ArkLib L} {T : TaprootLib}

/-- Texts of addresses. -/
structure AddressLib (A : ArkLib L) where
  /-- `str::parse::<ArkAddress>`. -/
  parse : String → Except String A.Address
  /-- `ArkAddress::to_string`. -/
  print : A.Address → String

/-- The text of an address is the text of that address. -/
def AddressLib.RoundTrips (D : AddressLib A) : Prop :=
  ∀ address, D.parse (D.print address) = .ok address

/-- The text of an outpoint is the text of that outpoint. -/
def TextLib.OutPointsRoundTrip (X : TextLib L) (B : BitcoinLib) : Prop :=
  ∀ outpoint, X.parseOutPoint (outPointText B outpoint) = .ok outpoint

variable (B : BitcoinLib) (S : SigningLib) (X : TextLib L) (D : AddressLib A)

/-! ## What is found -/

/-- A VTXO that can be spent, as a pair for the caller. -/
def vtxoText (v : EscrowVtxo) : String × UInt64 := (outPointText B v.outpoint, v.amount.sat)

/-- A VTXO that can be refreshed. -/
def refreshVtxoText (v : RefreshVtxo) : String × UInt64 × Bool :=
  (outPointText B v.outpoint, v.amount.sat, v.isSwept)

section Finding

variable (V : VtxoLib A) (clock : Option Nat) (client : Lookup.EscrowClient A)
  (contract : EscrowContract B T)

def findEscrowVtxo : Except Error (Option (String × UInt64)) := do
  return (← Lookup.findEscrowVtxo clock client contract).map (vtxoText B)

def findSpendableEscrowVtxos : Except Error (List (String × UInt64)) := do
  return (← Lookup.findSpendableEscrowVtxos clock client contract).map (vtxoText B)

def findRefreshVtxos : Except Error (List (String × UInt64 × Bool) × Bool) := do
  let (vtxos, anyRecoverable) ← Lookup.findRefreshVtxos V clock client contract
  return (vtxos.map (refreshVtxoText B), anyRecoverable)

end Finding

/-! ## What it would pay -/

def parseFeeOutput (feeOutput : String × UInt64) : Except String (FeeOutput A.Address) := do
  let (address, amount) := feeOutput
  let address ← D.parse address
  return { address, amount := ⟨amount⟩ }

def parseFeeOutputs (feeOutputs : List (String × UInt64)) :
    Except Error (List (FeeOutput A.Address)) :=
  ofDisplay (feeOutputs.mapM (parseFeeOutput D))

def feeOutputText (o : FeeOutput A.Address) : String × UInt64 := (D.print o.address, o.amount.sat)

/-- What a quote consists of. -/
structure ReleaseQuote where
  buyerAmount : UInt64
  effectiveFeeOutputs : List (String × UInt64)
  discardedFeeOutputs : List (String × UInt64)

def quoteRelease (overflowChecks : Bool) (client : Lookup.EscrowClient A)
    (escrowAmountSats : UInt64) (feeOutputs : List (String × UInt64)) (useDelegate : Bool) :
    Checked ReleaseQuote := do
  -- a quote for a delegate only warns that it is deprecated
  let info ← serverInfo client.serverInfo
  let feeOutputs ← parseFeeOutputs D feeOutputs
  let releasePlan ← planRelease overflowChecks A.amountText ⟨escrowAmountSats⟩ feeOutputs
    (if useDelegate then .delegate else .offchain) info.dust
  return {
    buyerAmount := releasePlan.buyerAmount.sat
    effectiveFeeOutputs := releasePlan.effectiveFeeOutputs.map (feeOutputText D)
    discardedFeeOutputs := releasePlan.discardedFeeOutputs.map (feeOutputText D) }

/-! ## What is built -/

/-- The ark transaction and the checkpoints, as texts. -/
def transactionTexts (tx : EscrowTransaction) : String × List String :=
  (B.psbtToBase64 tx.arkTx, tx.checkpointTxs.map B.psbtToBase64)

section Building

variable (overflowChecks : Bool) (clock : Option Nat) (client : Lookup.EscrowClient A)
  (contract : EscrowContract B T) (escrowOutpoint : String)

def buildReleaseForOutpoint (buyerDestAddress : String) (feeOutputs : List (String × UInt64))
    (signerSet : String) : Checked (String × List String) := do
  let outpoint ← ofDisplay (X.parseOutPoint escrowOutpoint)
  let buyerDest ← ofDisplay (D.parse buyerDestAddress)
  let feeOutputs ← parseFeeOutputs D feeOutputs
  let signerSet ← parseSignerSet signerSet
  let release ← Lookup.buildReleaseForOutpoint overflowChecks clock client contract outpoint
    buyerDest feeOutputs signerSet
  return transactionTexts B release

/-- The amount is not used. -/
def buildRelease (_escrowAmountSats : UInt64) (buyerDestAddress : String)
    (feeOutputs : List (String × UInt64)) (signerSet : String) : Checked (String × List String) :=
  buildReleaseForOutpoint B X D overflowChecks clock client contract escrowOutpoint
    buyerDestAddress feeOutputs signerSet

def buildRefundForOutpoint (sellerDestAddress signerSet : String) :
    Except Error (String × List String) := do
  let outpoint ← ofDisplay (X.parseOutPoint escrowOutpoint)
  let sellerDest ← ofDisplay (D.parse sellerDestAddress)
  let signerSet ← parseSignerSet signerSet
  let refund ← Lookup.buildRefundForOutpoint clock client contract outpoint sellerDest signerSet
  return transactionTexts B refund

/-- The amount is not used. -/
def buildRefund (_escrowAmountSats : UInt64) (sellerDestAddress signerSet : String) :
    Except Error (String × List String) :=
  buildRefundForOutpoint B X D clock client contract escrowOutpoint sellerDestAddress signerSet

end Building

/-! ## Reading a quote -/

/-- Who is paid how much, by the texts of a quote. -/
def readQuote (buyerDest : A.Address) (quote : ReleaseQuote) :
    Except Error (List (SendReceiver A.Address)) := do
  let feeOutputs ← parseFeeOutputs D quote.effectiveFeeOutputs
  return ⟨buyerDest, ⟨quote.buyerAmount⟩⟩ :: feeOutputs.map fun o => ⟨o.address, o.amount⟩

variable {B S X D}
variable {overflowChecks : Bool} {clock : Option Nat} {client : Lookup.EscrowClient A}
variable {contract : EscrowContract B T} {info : A.ServerInfo} {feeTexts : List (String × UInt64)}
variable {feeOutputs : List (FeeOutput A.Address)} {quote : ReleaseQuote} {sats : UInt64}

theorem parseFeeOutputs_map (trips : D.RoundTrips) (feeOutputs : List (FeeOutput A.Address)) :
    parseFeeOutputs D (feeOutputs.map (feeOutputText D)) = .ok feeOutputs := by
  rw [parseFeeOutputs, ofDisplay_eq_ok_iff, Results.mapM_eq_ok_iff, List.forall₂_map_left_iff,
    List.forall₂_same]
  exact fun o _ => Results.bind_eq_ok_iff.mpr ⟨o.address, trips o.address, rfl⟩

/-- **When there is a quote.** -/
theorem quoteRelease_eq_ok_iff (known : serverInfo client.serverInfo = .ok info)
    (parsed : parseFeeOutputs D feeTexts = .ok feeOutputs) {useDelegate : Bool} :
    quoteRelease D overflowChecks client sats feeTexts useDelegate = some (.ok quote) ↔
      ∃ plan, planRelease overflowChecks A.amountText ⟨sats⟩ feeOutputs
          (if useDelegate then .delegate else .offchain) info.dust = some (.ok plan) ∧
        quote = ⟨plan.buyerAmount.sat, plan.effectiveFeeOutputs.map (feeOutputText D),
          plan.discardedFeeOutputs.map (feeOutputText D)⟩ := by
  simp only [quoteRelease, Checked.bind_eq_ok_iff, Checked.liftExcept_eq_ok_iff, known, parsed]
  constructor
  · rintro ⟨_, ⟨⟩, _, ⟨⟩, plan, planned, ⟨⟩⟩
    exact ⟨plan, planned, rfl⟩
  · rintro ⟨plan, planned, rfl⟩
    exact ⟨info, rfl, feeOutputs, rfl, plan, planned, rfl⟩

/-- The fees of a quote are read. -/
theorem exists_of_quoteRelease {useDelegate : Bool}
    (quoted : quoteRelease D overflowChecks client sats feeTexts useDelegate =
      some (.ok quote)) : ∃ feeOutputs, parseFeeOutputs D feeTexts = .ok feeOutputs := by
  obtain ⟨_, _, quoted⟩ := Checked.bind_eq_ok_iff.mp quoted
  obtain ⟨feeOutputs, parsed, _⟩ := Checked.bind_eq_ok_iff.mp quoted
  exact ⟨feeOutputs, Checked.liftExcept_eq_ok_iff.mp parsed⟩

/-- A quote reads as the plan that it was made of. -/
theorem readQuote_of_plan (trips : D.RoundTrips) (buyerDest : A.Address)
    (plan : ReleasePlan A.Address) :
    readQuote D buyerDest ⟨plan.buyerAmount.sat, plan.effectiveFeeOutputs.map (feeOutputText D),
        plan.discardedFeeOutputs.map (feeOutputText D)⟩ =
      .ok (releaseReceivers buyerDest plan) :=
  Results.bind_eq_ok_iff.mpr ⟨_, parseFeeOutputs_map trips _, rfl⟩

/-! ## What a quote is worth -/

theorem buildTransactions_eq_ok_iff {text : String} {receivers : List (SendReceiver A.Address)}
    {change : A.Address} {input : VtxoInput} {tx : EscrowTransaction} :
    buildTransactions text receivers change input info = .ok tx ↔
      A.buildOffchainTransactions receivers change [input] info =
        .ok (tx.arkTx, tx.checkpointTxs) := by
  constructor
  · intro built
    obtain ⟨⟨arkTx, checkpointTxs⟩, transactions, ⟨⟩⟩ := Results.bind_eq_ok_iff.mp built
    exact withContext_eq_ok_iff.mp transactions
  · intro built
    exact Results.bind_eq_ok_iff.mpr ⟨_, withContext_eq_ok_iff.mpr built, rfl⟩

/-- A release is built by a plan. -/
theorem buildReleaseTx_eq_ok_iff {escrowVtxo : EscrowVtxo} {buyerDest : A.Address}
    {set : SignerSet} {tx : EscrowTransaction} :
    buildReleaseTx overflowChecks contract escrowVtxo buyerDest feeOutputs set info =
        some (.ok tx) ↔
      ∃ input plan, vtxoInput contract escrowVtxo set = .ok input ∧
        planRelease overflowChecks A.amountText escrowVtxo.amount feeOutputs .offchain info.dust =
          some (.ok plan) ∧
        A.buildOffchainTransactions (releaseReceivers buyerDest plan) buyerDest [input] info =
          .ok (tx.arkTx, tx.checkpointTxs) := by
  refine ⟨buildReleaseTx_eq_ok, ?_⟩
  rintro ⟨input, plan, made, planned, built⟩
  refine Checked.bind_eq_ok_iff.mpr ⟨input, Checked.liftExcept_eq_ok_iff.mpr made, ?_⟩
  refine Checked.bind_eq_ok_iff.mpr ⟨plan, planned, Checked.liftExcept_eq_ok_iff.mpr ?_⟩
  exact buildTransactions_eq_ok_iff.mpr built

theorem buildRefundTx_eq_ok_iff {escrowVtxo : EscrowVtxo} {sellerDest : A.Address}
    {set : SignerSet} {tx : EscrowTransaction} :
    buildRefundTx contract escrowVtxo sellerDest set info = .ok tx ↔
      ∃ input, vtxoInput contract escrowVtxo set = .ok input ∧
        A.buildOffchainTransactions [⟨sellerDest, escrowVtxo.amount⟩] sellerDest [input] info =
          .ok (tx.arkTx, tx.checkpointTxs) := by
  constructor
  · intro built
    obtain ⟨input, made, built⟩ := Results.bind_eq_ok_iff.mp built
    exact ⟨input, made, buildTransactions_eq_ok_iff.mp built⟩
  · rintro ⟨input, made, built⟩
    exact Results.bind_eq_ok_iff.mpr ⟨input, made, buildTransactions_eq_ok_iff.mpr built⟩

/-- What the fees are worth, as a number without a bound. -/
def feeSats (feeTexts : List (String × UInt64)) : Nat := (feeTexts.map (·.2.toNat)).sum

variable (X D) in
/-- **A quote is honoured** for a VTXO that was found with an amount: what is built of it pays
what is quoted for this amount, by the leaf of the contract that it was funded under. -/
structure Honoured (overflowChecks : Bool) (clock : Option Nat) (client : Lookup.EscrowClient A)
    (contract owner : EscrowContract B T) (info : A.ServerInfo) (vtxo : EscrowVtxo) : Prop where
  /-- A release is built just when there is a quote for it, and pays the quote. -/
  released : ∀ claimed buyerDestAddress feeTexts signerSet texts,
    buildRelease B X D overflowChecks clock client contract (vtxoText B vtxo).1 claimed
        buyerDestAddress feeTexts signerSet = some (.ok texts) ↔
      ∃ buyerDest set quote receivers input tx,
        D.parse buyerDestAddress = .ok buyerDest ∧ parseSignerSet signerSet = .ok set ∧
        quoteRelease D overflowChecks client (vtxoText B vtxo).2 feeTexts false =
          some (.ok quote) ∧
        readQuote D buyerDest quote = .ok receivers ∧ vtxoInput owner vtxo set = .ok input ∧
        A.buildOffchainTransactions receivers buyerDest [input] info =
          .ok (tx.arkTx, tx.checkpointTxs) ∧
        texts = transactionTexts B tx
  /-- A refund pays all of it. -/
  refunded : ∀ claimed sellerDestAddress signerSet texts,
    buildRefund B X D clock client contract (vtxoText B vtxo).1 claimed sellerDestAddress
        signerSet = .ok texts ↔
      ∃ sellerDest set input tx,
        D.parse sellerDestAddress = .ok sellerDest ∧ parseSignerSet signerSet = .ok set ∧
        vtxoInput owner vtxo set = .ok input ∧
        A.buildOffchainTransactions [⟨sellerDest, vtxo.amount⟩] sellerDest [input] info =
          .ok (tx.arkTx, tx.checkpointTxs) ∧
        texts = transactionTexts B tx
  /-- The quote splits the amount, unless the fees cannot be added up. -/
  splits : ∀ feeTexts quote,
    quoteRelease D overflowChecks client (vtxoText B vtxo).2 feeTexts false = some (.ok quote) →
      quote.discardedFeeOutputs = [] ∧
      quote.effectiveFeeOutputs.map (·.2) = feeTexts.map (·.2) ∧
      (quote.buyerAmount.toNat + feeSats quote.effectiveFeeOutputs = vtxo.amount.sat.toNat ↔
        feeSats feeTexts < 2 ^ 64)

theorem amounts_of_parseFeeOutputs (parsed : parseFeeOutputs D feeTexts = .ok feeOutputs) :
    feeTexts.map (·.2) = feeOutputs.map (·.amount.sat) := by
  refine Results.map_eq_map_of_forall₂
    (Results.mapM_eq_ok_iff.mp (ofDisplay_eq_ok_iff.mp parsed)) ?_
  rintro ⟨text, amount⟩ o read
  obtain ⟨address, _, ⟨⟩⟩ := Results.bind_eq_ok_iff.mp read
  rfl

/-- Texts of these amounts are worth what the fees are worth. -/
theorem feeSats_eq (amounts : feeTexts.map (·.2) = feeOutputs.map (·.amount.sat)) :
    feeSats feeTexts = worth (feeOutputs.map (·.amount)) := by
  have values := congrArg (List.map UInt64.toNat) amounts
  rw [List.map_map, List.map_map] at values
  rw [worth_eq_sum, List.map_map]
  exact congrArg List.sum values

section Found

variable {owner : EscrowContract B T} {vtxo : EscrowVtxo}

/-- A release by its texts, of a VTXO that is resolved. -/
theorem buildReleaseForOutpoint_eq_ok_iff (outpoints : X.OutPointsRoundTrip B)
    (resolved : resolveSpendableEscrowVtxo clock client contract vtxo.outpoint =
      .ok (info, ⟨owner, vtxo⟩))
    {buyerDestAddress signerSet : String} {texts : String × List String} :
    buildReleaseForOutpoint B X D overflowChecks clock client contract
        (outPointText B vtxo.outpoint) buyerDestAddress feeTexts signerSet = some (.ok texts) ↔
      ∃ buyerDest feeOutputs set tx, D.parse buyerDestAddress = .ok buyerDest ∧
        parseFeeOutputs D feeTexts = .ok feeOutputs ∧ parseSignerSet signerSet = .ok set ∧
        buildReleaseTx overflowChecks owner vtxo buyerDest feeOutputs set info = some (.ok tx) ∧
        texts = transactionTexts B tx := by
  simp only [buildReleaseForOutpoint, Lookup.buildReleaseForOutpoint, Checked.bind_eq_ok_iff,
    Checked.liftExcept_eq_ok_iff, ofDisplay_eq_ok_iff, outpoints vtxo.outpoint]
  constructor
  · rintro ⟨_, ⟨⟩, buyerDest, parsed, feeOutputs, fees, set, named, tx, ⟨_, found, built⟩, ⟨⟩⟩
    cases resolved.symm.trans found
    exact ⟨buyerDest, feeOutputs, set, tx, parsed, fees, named, built, rfl⟩
  · rintro ⟨buyerDest, feeOutputs, set, tx, parsed, fees, named, built, rfl⟩
    exact ⟨_, rfl, buyerDest, parsed, feeOutputs, fees, set, named, tx, ⟨_, resolved, built⟩, rfl⟩

theorem buildRefundForOutpoint_eq_ok_iff (outpoints : X.OutPointsRoundTrip B)
    (resolved : resolveSpendableEscrowVtxo clock client contract vtxo.outpoint =
      .ok (info, ⟨owner, vtxo⟩))
    {sellerDestAddress signerSet : String} {texts : String × List String} :
    buildRefundForOutpoint B X D clock client contract (outPointText B vtxo.outpoint)
        sellerDestAddress signerSet = .ok texts ↔
      ∃ sellerDest set tx, D.parse sellerDestAddress = .ok sellerDest ∧
        parseSignerSet signerSet = .ok set ∧
        buildRefundTx owner vtxo sellerDest set info = .ok tx ∧
        texts = transactionTexts B tx := by
  have read := ofDisplay_eq_ok_iff.mpr (outpoints vtxo.outpoint)
  rw [buildRefundForOutpoint, read, Results.ok_bind]
  constructor
  · intro built
    obtain ⟨sellerDest, parsed, built⟩ := Results.bind_eq_ok_iff.mp built
    obtain ⟨set, named, built⟩ := Results.bind_eq_ok_iff.mp built
    obtain ⟨tx, refund, ⟨⟩⟩ := Results.bind_eq_ok_iff.mp built
    rw [Lookup.buildRefundForOutpoint, resolved, Results.ok_bind] at refund
    exact ⟨sellerDest, set, tx, ofDisplay_eq_ok_iff.mp parsed, named, refund, rfl⟩
  · rintro ⟨sellerDest, set, tx, parsed, named, built, rfl⟩
    refine Results.bind_eq_ok_iff.mpr ⟨sellerDest, ofDisplay_eq_ok_iff.mpr parsed, ?_⟩
    refine Results.bind_eq_ok_iff.mpr ⟨set, named, ?_⟩
    rw [Lookup.buildRefundForOutpoint, resolved, Results.ok_bind]
    exact Results.bind_eq_ok_iff.mpr ⟨tx, built, rfl⟩

/-- A quote splits its amount just when its fees can be added up. -/
theorem splits_of_quoteRelease
    (quoted : quoteRelease D overflowChecks client sats feeTexts false = some (.ok quote)) :
    quote.discardedFeeOutputs = [] ∧
    quote.effectiveFeeOutputs.map (·.2) = feeTexts.map (·.2) ∧
    (quote.buyerAmount.toNat + feeSats quote.effectiveFeeOutputs = sats.toNat ↔
      feeSats feeTexts < 2 ^ 64) := by
  obtain ⟨info, known, rest⟩ := Checked.bind_eq_ok_iff.mp quoted
  obtain ⟨feeOutputs, parsed, _⟩ := Checked.bind_eq_ok_iff.mp rest
  have known := Checked.liftExcept_eq_ok_iff.mp known
  have parsed := Checked.liftExcept_eq_ok_iff.mp parsed
  obtain ⟨plan, planned, rfl⟩ := (quoteRelease_eq_ok_iff known parsed).mp quoted
  obtain ⟨totalFee, added, left, _, _, effective, discarded⟩ := planRelease_eq_ok_iff.mp planned
  have effective : plan.effectiveFeeOutputs = feeOutputs := effective
  have discarded : plan.discardedFeeOutputs = [] := discarded
  have amounts := amounts_of_parseFeeOutputs parsed
  have fees : (plan.effectiveFeeOutputs.map (feeOutputText D)).map (·.2) =
      feeOutputs.map (·.amount.sat) := by
    rw [effective, List.map_map]
    rfl
  have paid : totalFee.sat.toNat = worth (feeOutputs.map (·.amount)) % 2 ^ 64 :=
    Amount.toNat_of_sum added
  refine ⟨by rw [discarded]; rfl, fees.trans amounts.symm, ?_⟩
  dsimp only at left ⊢
  rw [feeSats_eq fees, feeSats_eq amounts]
  omega

/-- A listing has the server info of a quote. -/
theorem serverInfo_of_listed {candidates : List (EscrowContract B T)} {vtxoList : A.VtxoList}
    (listing : listCandidateVtxos clock client contract = .ok (info, candidates, vtxoList)) :
    serverInfo client.serverInfo = .ok info := by
  obtain ⟨info', known, listing⟩ := Results.bind_eq_ok_iff.mp listing
  obtain ⟨_, _, same⟩ := Results.bind_eq_ok_iff.mp listing
  cases same
  exact known

/-- **Quotes are honoured.** Whatever VTXO is found with an amount, under whichever server key it
was funded: its releases pay what the texts of a quote for this amount say, whatever amount they
are given, and there is one just when it can be built; and its refunds pay all of it. -/
theorem quotes_are_honoured (addresses : D.RoundTrips) (outpoints : X.OutPointsRoundTrip B)
    {V : VtxoLib A} (partitions : V.Partitions) (pays : PaysToContract A B T)
    {candidates : List (EscrowContract B T)} {vtxoList : A.VtxoList}
    (asked : client.ListsAsked candidates)
    (listing : listCandidateVtxos clock client contract = .ok (info, candidates, vtxoList))
    {found : List (String × UInt64)}
    (spendable : findSpendableEscrowVtxos B clock client contract = .ok found) :
    found = (A.spendableOffchain vtxoList).map
        (fun v => (outPointText B v.outpoint, v.amount.sat)) ∧
    ∀ v ∈ A.spendableOffchain vtxoList, ∃ owner : EscrowContract B T,
      owner.scriptPubkey = v.script ∧
        Honoured X D overflowChecks clock client contract owner info ⟨v.outpoint, v.amount⟩ := by
  have listed := listing_of_listed partitions pays asked listing
  have known := serverInfo_of_listed listing
  constructor
  · rw [findSpendableEscrowVtxos, Lookup.findSpendableEscrowVtxos, listing] at spendable
    cases spendable
    rw [List.map_map]
    rfl
  intro v member
  obtain ⟨owner, resolved, owned⟩ :=
    resolveSpendableEscrowVtxo_listed listed partitions listing member
  refine ⟨owner, (contractForScript_eq_ok owned).2, ?_⟩
  have resolved : resolveSpendableEscrowVtxo clock client contract
      (EscrowVtxo.mk v.outpoint v.amount).outpoint = .ok (info, ⟨owner, ⟨v.outpoint, v.amount⟩⟩) :=
    resolved
  constructor
  case released =>
    intro claimed buyerDestAddress feeTexts signerSet texts
    refine (buildReleaseForOutpoint_eq_ok_iff outpoints resolved).trans ?_
    constructor
    · rintro ⟨buyerDest, feeOutputs, set, tx, parsed, fees, named, built, rfl⟩
      obtain ⟨input, plan, made, planned, transactions⟩ := buildReleaseTx_eq_ok_iff.mp built
      exact ⟨buyerDest, set, _, _, input, tx, parsed, named,
        (quoteRelease_eq_ok_iff known fees).mpr ⟨plan, planned, rfl⟩,
        readQuote_of_plan addresses buyerDest plan, made, transactions, rfl⟩
    · rintro ⟨buyerDest, set, quote, receivers, input, tx, parsed, named, quoted, read, made,
        transactions, rfl⟩
      obtain ⟨feeOutputs, fees⟩ := exists_of_quoteRelease quoted
      obtain ⟨plan, planned, rfl⟩ := (quoteRelease_eq_ok_iff known fees).mp quoted
      cases (readQuote_of_plan addresses buyerDest plan).symm.trans read
      exact ⟨buyerDest, feeOutputs, set, tx, parsed, fees, named,
        buildReleaseTx_eq_ok_iff.mpr ⟨input, plan, made, planned, transactions⟩, rfl⟩
  case refunded =>
    intro claimed sellerDestAddress signerSet texts
    refine (buildRefundForOutpoint_eq_ok_iff outpoints resolved).trans ?_
    constructor
    · rintro ⟨sellerDest, set, tx, parsed, named, built, rfl⟩
      obtain ⟨input, made, transactions⟩ := buildRefundTx_eq_ok_iff.mp built
      exact ⟨sellerDest, set, input, tx, parsed, named, made, transactions, rfl⟩
    · rintro ⟨sellerDest, set, input, tx, parsed, named, made, transactions, rfl⟩
      exact ⟨sellerDest, set, tx, parsed, named,
        buildRefundTx_eq_ok_iff.mpr ⟨input, made, transactions⟩, rfl⟩
  case splits => exact fun feeTexts quote quoted => splits_of_quoteRelease quoted

end Found

/-! ## A delegated release -/

/-- **Quotes are honoured by a delegated release.** It is prepared just when there is a quote for
what its VTXOs add up to, and pays what the texts of the quote say: a fee that the quote discards
is not paid. -/
theorem delegated_quotes_are_honoured (addresses : D.RoundTrips)
    (known : serverInfo client.serverInfo = .ok info)
    (fees : parseFeeOutputs D feeTexts = .ok feeOutputs) {vtxos : List DelegateVtxo}
    {buyerDest : A.Address} {set : SignerSet} {delegateCosignerPk : PublicKey}
    {delegate : Delegate L} :
    prepareReleaseDelegate overflowChecks contract vtxos buyerDest feeOutputs set
        delegateCosignerPk info = some (.ok delegate) ↔
      ∃ controlBlock total quote receivers,
        contract.controlBlock (set.script B contract.options) = .ok controlBlock ∧
        Amount.sum overflowChecks (vtxos.map (·.amount)) = some total ∧
        quoteRelease D overflowChecks client total.sat feeTexts true = some (.ok quote) ∧
        readQuote D buyerDest quote = .ok receivers ∧
        A.prepareDelegatePsbts (delegatedInputs contract set controlBlock vtxos)
            (receivers.map fun receiver =>
              .offchain ⟨receiver.amount, A.toP2trScriptPubkey receiver.address⟩)
            delegateCosignerPk info.forfeitAddress info.dust = .ok delegate := by
  have outputs (plan : ReleasePlan A.Address) : (releaseReceivers buyerDest plan).map
      (fun receiver => .offchain ⟨receiver.amount, A.toP2trScriptPubkey receiver.address⟩) =
        releaseOutputs buyerDest plan := by
    rw [releaseReceivers, List.map_cons, List.map_map]
    rfl
  constructor
  · intro prepared
    obtain ⟨controlBlock, block, prepared⟩ := Checked.bind_eq_ok_iff.mp prepared
    obtain ⟨total, added, prepared⟩ := Checked.bind_eq_ok_iff.mp prepared
    obtain ⟨plan, planned, prepared⟩ := Checked.bind_eq_ok_iff.mp prepared
    have delegated := ofDisplay_eq_ok_iff.mp
      (withContext_eq_ok_iff.mp (Checked.liftExcept_eq_ok_iff.mp prepared))
    refine ⟨controlBlock, total, _, _, Checked.liftExcept_eq_ok_iff.mp block,
      Checked.liftOption_eq_ok_iff.mp added,
      (quoteRelease_eq_ok_iff known fees).mpr ⟨plan, planned, rfl⟩,
      readQuote_of_plan addresses buyerDest plan, ?_⟩
    rw [outputs]
    exact delegated
  · rintro ⟨controlBlock, total, quote, receivers, block, added, quoted, read, delegated⟩
    obtain ⟨plan, planned, rfl⟩ := (quoteRelease_eq_ok_iff known fees).mp quoted
    cases (readQuote_of_plan addresses buyerDest plan).symm.trans read
    rw [outputs] at delegated
    refine Checked.bind_eq_ok_iff.mpr ⟨controlBlock, Checked.liftExcept_eq_ok_iff.mpr block, ?_⟩
    refine Checked.bind_eq_ok_iff.mpr ⟨total, Checked.liftOption_eq_ok_iff.mpr added, ?_⟩
    refine Checked.bind_eq_ok_iff.mpr ⟨plan, planned, Checked.liftExcept_eq_ok_iff.mpr ?_⟩
    exact withContext_eq_ok_iff.mpr (ofDisplay_eq_ok_iff.mpr delegated)

/-! ## A refresh of what is found -/

theorem parseRefreshVtxo_refreshVtxoText (outpoints : X.OutPointsRoundTrip B) (v : RefreshVtxo) :
    parseRefreshVtxo X (refreshVtxoText B v) = .ok v :=
  Results.bind_eq_ok_iff.mpr ⟨_, ofDisplay_eq_ok_iff.mpr (outpoints v.outpoint), rfl⟩

/-- The VTXOs of any choice of the texts. -/
theorem exists_vtxos_of_found {V : VtxoLib A} (partitions : V.Partitions)
    {candidates : List (EscrowContract B T)} {vtxoList : A.VtxoList}
    (listing : listCandidateVtxos clock client contract = .ok (info, candidates, vtxoList))
    {found chosen : List (String × UInt64 × Bool)} {anyRecoverable : Bool}
    (refreshable : findRefreshVtxos B V clock client contract = .ok (found, anyRecoverable))
    (members : ∀ entry ∈ chosen, entry ∈ found) :
    ∃ vtxos : List A.Vtxo, (∀ v ∈ vtxos, v ∈ A.allUnspent vtxoList) ∧
      chosen = vtxos.map fun v => refreshVtxoText B (Lookup.refreshVtxo v) := by
  have known : ∀ entry ∈ found, ∃ v : {v // v ∈ A.allUnspent vtxoList},
      refreshVtxoText B (Lookup.refreshVtxo v.1) = entry := by
    rw [findRefreshVtxos, findRefreshVtxos_eq listing] at refreshable
    cases refreshable
    intro entry member
    rw [← List.map_append, List.map_map] at member
    obtain ⟨v, here, rfl⟩ := List.mem_map.mp member
    exact ⟨⟨v, (partitions.unspent vtxoList).mem_iff.mpr here⟩, rfl⟩
  obtain ⟨vtxos, rfl⟩ : chosen ∈ Set.range (List.map fun v : {v // v ∈ A.allUnspent vtxoList} =>
      refreshVtxoText B (Lookup.refreshVtxo v.1)) := by
    rw [Set.range_list_map]
    exact fun entry member => known entry (members entry member)
  refine ⟨vtxos.map Subtype.val, fun v member => ?_, by rw [List.map_map]; rfl⟩
  obtain ⟨v, _, rfl⟩ := List.mem_map.mp member
  exact v.2

/-- **What is found can be handed back.** Any choice of the texts that a refresh lookup has found
is refreshed as it was found: the proof that the parties get to sign spends the outpoints that
were chosen, in this order, and pays out all that they were found with. -/
theorem found_texts_are_refreshed (psbts : B.PsbtRoundTrips) (builders : BuildsWellFormed A)
    (outpoints : X.OutPointsRoundTrip B) {V : VtxoLib A} (partitions : V.Partitions)
    (pays : PaysToContract A B T) (takes : TakesAsGiven A)
    {candidates : List (EscrowContract B T)} {vtxoList : A.VtxoList}
    (asked : client.ListsAsked candidates)
    (listing : listCandidateVtxos clock client contract = .ok (info, candidates, vtxoList))
    {found chosen : List (String × UInt64 × Bool)} {anyRecoverable : Bool}
    (refreshable : findRefreshVtxos B V clock client contract = .ok (found, anyRecoverable))
    (members : ∀ entry ∈ chosen, entry ∈ found)
    (fits : (chosen.map (·.2.1.toNat)).sum < 2 ^ 64) {signerSet cosignerSkHex : String}
    {texts : RefreshTexts}
    (prepared : prepareRefresh B S X overflowChecks clock client contract chosen signerSet
      cosignerSkHex = some (.ok texts)) :
    ∃ refresh : RefreshIntent L, refreshTexts B X refresh = .ok texts ∧
      psbtFromBase64 B texts.intentProof = .ok refresh.intent.proof ∧
      (inputOutpoints refresh.intent).map (outPointText B) = chosen.map (·.1) ∧
      ∃ output, refresh.intent.proof.unsignedTx.output = [output] ∧
        output.value.sat.toNat = (chosen.map (·.2.1.toNat)).sum := by
  obtain ⟨vtxos, within, rfl⟩ := exists_vtxos_of_found partitions listing refreshable members
  have listed := listing_of_listed partitions pays asked listing
  have read : (vtxos.map fun v => refreshVtxoText B (Lookup.refreshVtxo v)).mapM
      (parseRefreshVtxo X) = .ok (vtxos.map Lookup.refreshVtxo) := by
    rw [Results.mapM_eq_ok_iff, List.forall₂_map_left_iff, List.forall₂_map_right_iff,
      List.forall₂_same]
    exact fun v _ => parseRefreshVtxo_refreshVtxoText outpoints _
  obtain ⟨_, read', prepared⟩ := Checked.bind_eq_ok_iff.mp prepared
  cases read.symm.trans (Checked.liftExcept_eq_ok_iff.mp read')
  obtain ⟨set, _, prepared⟩ := Checked.bind_eq_ok_iff.mp prepared
  obtain ⟨cosignerKp, _, prepared⟩ := Checked.bind_eq_ok_iff.mp prepared
  obtain ⟨refresh, made, written⟩ := Checked.bind_eq_ok_iff.mp prepared
  have written := Checked.liftExcept_eq_ok_iff.mp written
  obtain ⟨_, _, resolved⟩ := Checked.bind_eq_ok_iff.mp made
  have wellFormed := wellFormed_of_prepareRefreshResolved builders resolved
  obtain ⟨spent, output, outputs, value⟩ := prepareRefresh_eq_ok takes listing made
  have proofs := congrArg ProofTexts.intentProof (proofs_refreshTexts written)
  have named : (vtxos.map Lookup.refreshVtxo).map (·.outpoint) = vtxos.map (·.outpoint) := by
    rw [List.map_map]
    rfl
  have sats : ((vtxos.map fun v => refreshVtxoText B (Lookup.refreshVtxo v)).map
      (·.2.1.toNat)).sum = worth (vtxos.map (·.amount)) := by
    rw [worth_eq_sum, List.map_map, List.map_map]
    rfl
  rw [named] at spent value
  rw [sats] at fits ⊢
  rw [listedWorth_listed listed within, Nat.mod_eq_of_lt fits] at value
  refine ⟨refresh, written, ?_, ?_, output, outputs, value⟩
  · rw [show texts.intentProof = B.psbtToBase64 refresh.intent.proof from proofs]
    exact psbtFromBase64_psbtToBase64 psbts wellFormed.intent
  · rw [spent, List.map_map, List.map_map]
    rfl

/-! ### A sample -/

open Lookup.Sample

/-- An address as the bytes that it consists of. -/
def addressText (destination : Network × XOnlyPublicKey × XOnlyPublicKey) : String :=
  toLowerHex (UInt8.ofNat destination.1.ctorIdx :: destination.2.1.serialize ++
    destination.2.2.serialize)

theorem addressText_injective : Function.Injective addressText := by
  rintro ⟨network, server, key⟩ ⟨network', server', key'⟩ same
  have same := toLowerHex_injective same
  obtain ⟨first, rest⟩ := List.cons.inj same
  have lengths : server.serialize.length = server'.serialize.length := by
    rw [server.serialize_length, server'.serialize_length]
  obtain ⟨servers, keys⟩ := List.append_inj rest lengths
  cases XOnlyPublicKey.serialize_injective servers
  cases XOnlyPublicKey.serialize_injective keys
  have networks : ∀ n n' : Network, UInt8.ofNat n.ctorIdx = UInt8.ofNat n'.ctorIdx → n = n' := by
    rintro ⟨⟩ ⟨⟩ <;> decide
  rw [networks network network' first]

noncomputable def addressLib : AddressLib proving := ⟨readBack addressText, addressText⟩

theorem roundTrips_addressLib : addressLib.RoundTrips := readBack_self addressText_injective

theorem outPointsRoundTrip_textLib : textLib.OutPointsRoundTrip BitcoinLib.reference :=
  readBack_self outPointText_injective

/-- The one VTXO of the sample is at the address of the contract. -/
theorem listsAsked_lister : lister.ListsAsked
    (candidateContracts oldContract info.signerPk.xOnly info.deprecatedSigners) := by
  rintro vtxos ⟨⟩
  obtain ⟨rest, first⟩ := @exists_candidateContracts_cons _ _ oldContract info.signerPk.xOnly
    info.deprecatedSigners
  refine ⟨by simp, fun v member => ⟨oldContract, by simp [first], ?_⟩⟩
  cases List.mem_singleton.mp member
  rfl

theorem quotes_are_honoured_sample :
    ∃ owner : EscrowContract BitcoinLib.reference TaprootLib.committing,
      owner.scriptPubkey = oldContract.scriptPubkey ∧
      Honoured textLib addressLib false (some 0) lister oldContract owner Sample.info
        ⟨⟨⟨1⟩, 0⟩, ⟨1000⟩⟩ := by
  obtain ⟨_, honoured⟩ := quotes_are_honoured roundTrips_addressLib outPointsRoundTrip_textLib
    partitions_sweeping paysToContract_proving listsAsked_lister listing_lister rfl
  exact honoured held (List.mem_singleton.mpr rfl)

theorem delegated_quotes_are_honoured_sample : ∃ delegate total quote receivers,
    prepareReleaseDelegate false oldContract [Sample.vtxo] Sample.buyer Sample.fees .sellerBuyer
      ⟨⟨6⟩, false⟩ (Sample.info : Sample.proving.ServerInfo) = some (.ok delegate) ∧
    quoteRelease addressLib false lister total (Sample.fees.map (feeOutputText addressLib)) true =
      some (.ok quote) ∧
    readQuote addressLib Sample.buyer quote = .ok receivers := by
  obtain ⟨delegate, prepared⟩ := Sample.exists_prepareReleaseDelegate
  obtain ⟨_, total, quote, receivers, _, _, quoted, read, _⟩ :=
    (@delegated_quotes_are_honoured _ _ _ _ _ _ lister _ _ _ _ roundTrips_addressLib rfl
      (parseFeeOutputs_map roundTrips_addressLib Sample.fees)).mp prepared
  exact ⟨delegate, total.sat, quote, receivers, prepared, quoted, read⟩

theorem found_texts_are_refreshed_sample : ∃ (texts : RefreshTexts)
    (refresh : RefreshIntent BatchLib.reference),
    psbtFromBase64 BitcoinLib.reference texts.intentProof = .ok refresh.intent.proof ∧
    (inputOutpoints refresh.intent).map (outPointText BitcoinLib.reference) =
      [outPointText BitcoinLib.reference ⟨⟨1⟩, 0⟩] := by
  obtain ⟨texts, prepared⟩ := exists_refreshTexts
  have found : findRefreshVtxos BitcoinLib.reference sweeping (some 0) lister oldContract =
      .ok ([(outPointText BitcoinLib.reference ⟨⟨1⟩, 0⟩, 1000, false)], false) := rfl
  obtain ⟨refresh, _, proof, spent, _⟩ := found_texts_are_refreshed
    BitcoinLib.psbtRoundTrips_reference buildsWellFormed_proving outPointsRoundTrip_textLib
    partitions_sweeping paysToContract_proving takesAsGiven_proving listsAsked_lister
    listing_lister found (fun _ member => member) (by decide) prepared
  exact ⟨texts, refresh, proof, spent⟩

end Ruby
end ArkadeEscrow
