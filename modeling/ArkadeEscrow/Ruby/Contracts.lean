import ArkadeEscrow.Output
import ArkadeEscrow.Ruby.Releasing

/-!
# A contract that is made from texts

The parties of an escrow each make the contract on their own, from the texts of four keys, a
delay and the name of a network, and compare its address. A key can be written in many ways, so
this is safe only if the address says neither more nor less than the texts do.

A contract is accepted just when the texts are digits of keys that are distinct as keys, and not
merely as texts (`contract_accepted_iff`). Digits may have a sign: it is read as a zero. And what
is shown as one address is one agreement: the same parties in the same roles, the same server and
the same delay (`one_agreement_per_address`).
-/

set_option autoImplicit false

namespace ArkadeEscrow
namespace Ruby

open Batch Refresh Lookup

/-! ## The class -/

def parseNetwork (s : String) : Except Error Network :=
  match s with
  | "mainnet" | "bitcoin" => .ok .bitcoin
  | "testnet" => .ok .testnet
  | "signet" | "mutinynet" => .ok .signet
  | "regtest" => .ok .regtest
  | _ => .error (.msg s!"unknown network: {s}")

/-- The names that are known. -/
def networkNames : List String :=
  ["mainnet", "bitcoin", "testnet", "signet", "mutinynet", "regtest"]

theorem exists_parseNetwork_iff {s : String} :
    (∃ network, parseNetwork s = .ok network) ↔ s ∈ networkNames := by
  unfold parseNetwork
  split <;> simp_all [networkNames]

/-- The arguments of `RbContract::new`. -/
structure ContractArgs where
  sellerPk : String
  buyerPk : String
  arbiterPk : String
  serverPk : String
  unilateralExitDelay : UInt32
  network : String

structure RbContract (B : BitcoinLib) (T : TaprootLib) where
  inner : EscrowContract B T

namespace RbContract

variable (B : BitcoinLib) (T : TaprootLib)

def new (args : ContractArgs) : Checked (RbContract B T) := do
  let opts : EscrowOptions := {
    seller := ← parseXonly B args.sellerPk
    buyer := ← parseXonly B args.buyerPk
    arbiter := ← parseXonly B args.arbiterPk
    server := ← parseXonly B args.serverPk
    -- a raw sequence, which is not encoded again
    unilateralExitDelay := args.unilateralExitDelay }
  let net ← parseNetwork args.network
  let contract ← EscrowContract.new B T opts net
  return { inner := contract }

variable {B T} {L : BatchLib} {A : ArkLib L}

def address (D : AddressLib A) (contract : RbContract B T) : String :=
  D.print (Lookup.address A contract.inner)

end RbContract

/-! ## What a key text says -/

/-- The digits of a key text, in lower case. -/
def canonicalKey (hex : String) : List Char := ((keyText hex).map unsign).map Char.toLower

/-- **A text is the bytes that it is parsed as**, but for its prefix, the case of its letters and
its signs. -/
theorem canonicalKey_of_hexTo32Bytes {hex : String} {out : Vector UInt8 32}
    (parsed : hexTo32Bytes hex = some (.ok out)) : canonicalKey hex = Hex.writeHex out.toList :=
  Hex.map_toLower_of_readHex (readHex_unsign parsed)

/-- A key is read from its own bytes only. -/
def SerializesKeys (B : BitcoinLib) : Prop :=
  ∀ bytes key, B.keyFromSlice bytes = .ok key → bytes = key.serialize

variable {B : BitcoinLib} {T : TaprootLib}

/-- A text of a key: 64 digits, of which the first one of a pair may be a plus sign instead, that
denote a key with a zero for each sign. -/
structure IsKeyText (B : BitcoinLib) (hex : String) : Prop where
  digits : IsKey hex ∨ Signed hex
  denotes : ∃ bytes key, Hex.readHex ((keyText hex).map unsign) = some bytes ∧
    B.keyFromSlice bytes = .ok key

/-- **The grammar of keys.** -/
theorem exists_parseXonly_iff {hex : String} :
    (∃ key, parseXonly B hex = some (.ok key)) ↔ IsKeyText B hex := by
  have digits : (∃ out, hexTo32Bytes hex = some (.ok out)) ↔ IsKey hex ∨ Signed hex := by
    rw [isKey_iff, signed_iff, ← and_or_left]
    exact (and_iff_left (em' _)).symm
  constructor
  · rintro ⟨key, parsed⟩
    obtain ⟨out, bytes, made⟩ := parseKey_eq_ok_iff.mp parsed
    exact ⟨digits.mp ⟨out, bytes⟩, out.toList, key, readHex_unsign bytes, made⟩
  · rintro ⟨symbols, bytes, key, read, made⟩
    obtain ⟨out, parsed⟩ := digits.mpr symbols
    obtain rfl := Option.some.inj (read.symm.trans (readHex_unsign parsed))
    exact ⟨key, parseKey_eq_ok_iff.mpr ⟨out, parsed, made⟩⟩

theorem canonicalKey_of_parseXonly (serializes : SerializesKeys B) {hex : String}
    {key : XOnlyPublicKey} (parsed : parseXonly B hex = some (.ok key)) :
    canonicalKey hex = Hex.writeHex key.serialize := by
  obtain ⟨out, bytes, made⟩ := parseKey_eq_ok_iff.mp parsed
  rw [canonicalKey_of_hexTo32Bytes bytes, serializes out.toList key made]

theorem writeHex_serialize_injective :
    Function.Injective fun key : XOnlyPublicKey => Hex.writeHex key.serialize := by
  intro key key' same
  have read := congrArg Hex.readHex same
  rw [Hex.readHex_writeHex, Hex.readHex_writeHex] at read
  exact XOnlyPublicKey.serialize_injective (Option.some.inj read)

/-! ## What is accepted -/

namespace ContractArgs

def keyTexts (args : ContractArgs) : List String :=
  [args.sellerPk, args.buyerPk, args.arbiterPk, args.serverPk]

variable (B) in
/-- The arguments are texts of the options and the network. -/
structure Describes (args : ContractArgs) (options : EscrowOptions) (network : Network) :
    Prop where
  seller : parseXonly B args.sellerPk = some (.ok options.seller)
  buyer : parseXonly B args.buyerPk = some (.ok options.buyer)
  arbiter : parseXonly B args.arbiterPk = some (.ok options.arbiter)
  server : parseXonly B args.serverPk = some (.ok options.server)
  delay : args.unilateralExitDelay = options.unilateralExitDelay
  network : parseNetwork args.network = .ok network

variable (B) in
/-- What the texts have to be. -/
structure Acceptable (args : ContractArgs) : Prop where
  keys : ∀ text ∈ args.keyTexts, IsKeyText B text
  distinct : (args.keyTexts.map canonicalKey).Nodup
  delayed : args.unilateralExitDelay ≠ 0
  relative : Tapscript.Locktime.hasFlag args.unilateralExitDelay.toNat
    Tapscript.Locktime.disableFlag = false
  known : args.network ∈ networkNames

/-- The same keys in the same roles, and the same delay. -/
structure SameAgreement (args args' : ContractArgs) : Prop where
  keys : args.keyTexts.map canonicalKey = args'.keyTexts.map canonicalKey
  delay : args.unilateralExitDelay = args'.unilateralExitDelay

variable {args args' : ContractArgs} {options options' : EscrowOptions}
variable {network network' : Network}

theorem Describes.canonicalKeys (serializes : SerializesKeys B)
    (describes : args.Describes B options network) :
    args.keyTexts.map canonicalKey =
      [options.seller, options.buyer, options.arbiter, options.server].map fun key =>
        Hex.writeHex key.serialize := by
  simp only [keyTexts, List.map_cons, List.map_nil,
    canonicalKey_of_parseXonly serializes describes.seller,
    canonicalKey_of_parseXonly serializes describes.buyer,
    canonicalKey_of_parseXonly serializes describes.arbiter,
    canonicalKey_of_parseXonly serializes describes.server]

/-- **The options are what the texts say.** -/
theorem Describes.options_eq_iff (serializes : SerializesKeys B)
    (describes : args.Describes B options network)
    (describes' : args'.Describes B options' network') :
    options = options' ↔ args.SameAgreement args' := by
  have texts := describes.canonicalKeys serializes
  have texts' := describes'.canonicalKeys serializes
  constructor
  · rintro rfl
    exact ⟨texts.trans texts'.symm, describes.delay.trans describes'.delay.symm⟩
  · rintro ⟨keys, delay⟩
    rw [texts, texts'] at keys
    have keys := List.map_injective_iff.mpr writeHex_serialize_injective keys
    rw [describes.delay, describes'.delay] at delay
    cases options
    cases options'
    simp_all

/-- The options are valid just when the texts are acceptable. -/
theorem Describes.validate_eq_ok_iff (serializes : SerializesKeys B)
    (describes : args.Describes B options network) :
    options.validate = .ok () ↔ args.Acceptable B := by
  rw [EscrowOptions.validate_eq_ok_iff, ← describes.delay,
    ← List.nodup_map_iff writeHex_serialize_injective, ← describes.canonicalKeys serializes]
  constructor
  · rintro ⟨distinct, delayed, relative⟩
    refine ⟨fun text member => exists_parseXonly_iff.mp ?_, distinct, delayed, relative,
      exists_parseNetwork_iff.mp ⟨_, describes.network⟩⟩
    simp only [keyTexts, List.mem_cons, List.not_mem_nil, or_false] at member
    rcases member with rfl | rfl | rfl | rfl
    · exact ⟨_, describes.seller⟩
    · exact ⟨_, describes.buyer⟩
    · exact ⟨_, describes.arbiter⟩
    · exact ⟨_, describes.server⟩
  · intro acceptable
    exact ⟨acceptable.distinct, acceptable.delayed, acceptable.relative⟩

theorem Acceptable.exists_describes (acceptable : args.Acceptable B) :
    ∃ options network, args.Describes B options network := by
  have parsed (text : String) (member : text ∈ args.keyTexts) :
      ∃ key, parseXonly B text = some (.ok key) :=
    exists_parseXonly_iff.mpr (acceptable.keys text member)
  obtain ⟨seller, sellerKey⟩ := parsed args.sellerPk (by simp [keyTexts])
  obtain ⟨buyer, buyerKey⟩ := parsed args.buyerPk (by simp [keyTexts])
  obtain ⟨arbiter, arbiterKey⟩ := parsed args.arbiterPk (by simp [keyTexts])
  obtain ⟨server, serverKey⟩ := parsed args.serverPk (by simp [keyTexts])
  obtain ⟨network, known⟩ := exists_parseNetwork_iff.mpr acceptable.known
  exact ⟨⟨seller, buyer, arbiter, server, args.unilateralExitDelay⟩, network, sellerKey, buyerKey,
    arbiterKey, serverKey, rfl, known⟩

end ContractArgs

namespace RbContract

variable {args args' : ContractArgs} {contract contract' : RbContract B T}

/-- A contract is made just from the arguments that describe it. -/
theorem new_eq_ok_iff : new B T args = some (.ok contract) ↔
    args.Describes B contract.inner.options contract.inner.network := by
  rw [new]
  simp only [Checked.bind_eq_ok_iff, Checked.liftExcept_eq_ok_iff]
  constructor
  · rintro ⟨seller, sellerKey, buyer, buyerKey, arbiter, arbiterKey, server, serverKey, net, known,
      contract, made, ⟨⟩⟩
    have options := EscrowContract.new_options made
    have network := EscrowContract.new_network made
    constructor <;> simp only [options, network] <;> assumption
  · rintro ⟨seller, buyer, arbiter, server, delay, network⟩
    refine ⟨_, seller, _, buyer, _, arbiter, _, server, _, network, contract.inner, ?_, rfl⟩
    rw [delay]
    exact contract.inner.new_self

theorem new_ne_none (args : ContractArgs) : new B T args ≠ none := by
  rw [new]
  simp only [ne_eq, Checked.bind_eq_none_iff, not_or, not_exists, not_and]
  refine ⟨parseKey_ne_none _, fun _ _ => ⟨parseKey_ne_none _, fun _ _ => ⟨parseKey_ne_none _,
    fun _ _ => ⟨parseKey_ne_none _, fun _ _ => ⟨Checked.liftExcept_ne_none _, fun _ _ =>
      ⟨Checked.liftExcept_ne_none _, fun _ _ => nofun⟩⟩⟩⟩⟩⟩

/-- Contracts are equal when their options and their networks are. -/
theorem eq_iff : contract = contract' ↔ contract.inner.options = contract'.inner.options ∧
    contract.inner.network = contract'.inner.network := by
  constructor
  · rintro rfl
    exact ⟨rfl, rfl⟩
  · rintro ⟨options, network⟩
    have made := contract.inner.new_self
    rw [options, network, contract'.inner.new_self] at made
    cases contract
    cases contract'
    cases made
    rfl

end RbContract

variable {hashing : Merkle.Hashing ScriptBuf (BitVec 256)} {tweak : Tweak}

/-- **What is accepted.** No arguments panic, and a contract is made just when the texts are of
four keys of which no two are one key, however they are written, the delay is a relative lock-time
other than zero, and the network has a name that is known. The contract has the keys that the
digits denote, with zeros for the signs. -/
theorem contract_accepted_iff (trees : BuildsTrees B T hashing tweak)
    (serializes : SerializesKeys B) (args : ContractArgs) :
    RbContract.new B T args ≠ none ∧
      ((∃ contract, RbContract.new B T args = some (.ok contract)) ↔ args.Acceptable B) ∧
      ∀ contract, RbContract.new B T args = some (.ok contract) →
        args.keyTexts.map canonicalKey =
          [contract.inner.options.seller, contract.inner.options.buyer,
            contract.inner.options.arbiter, contract.inner.options.server].map
              fun key => Hex.writeHex key.serialize := by
  refine ⟨RbContract.new_ne_none args, ?_, fun contract made =>
    (RbContract.new_eq_ok_iff.mp made).canonicalKeys serializes⟩
  constructor
  · rintro ⟨contract, made⟩
    have describes := RbContract.new_eq_ok_iff.mp made
    exact (describes.validate_eq_ok_iff serializes).mp contract.inner.valid
  · intro acceptable
    obtain ⟨options, network, describes⟩ := acceptable.exists_describes
    have valid := (describes.validate_eq_ok_iff serializes).mpr acceptable
    obtain ⟨spendInfo, built, _⟩ := @exists_buildTaproot B T options hashing tweak trees
    exact ⟨⟨⟨options, spendInfo, network, valid, built⟩⟩, RbContract.new_eq_ok_iff.mpr describes⟩

/-! ## What an address says -/

variable {L : BatchLib} {A : ArkLib L} {D : AddressLib A}

/-- Addresses that are shown as one text pay to one script. -/
theorem scriptPubkey_eq_of_address (roundTrips : D.RoundTrips) (pays : PaysToContract A B T)
    {contract contract' : RbContract B T} (same : contract.address D = contract'.address D) :
    contract.inner.scriptPubkey = contract'.inner.scriptPubkey := by
  have parsed := congrArg D.parse same
  rw [RbContract.address, RbContract.address, roundTrips, roundTrips] at parsed
  rw [← pays, ← pays, Except.ok.inj parsed]

/-- **One address is one agreement.** Parties that made their contracts on their own have the same
contract just when their texts say the same and name the same network. And if they are only
shown the same address, then their texts say the same, or the contracts break the hash
functions. -/
theorem one_agreement_per_address (builds : BuildsScripts B)
    (trees : BuildsTrees B T hashing tweak) (serializes : SerializesKeys B)
    (roundTrips : D.RoundTrips) (pays : PaysToContract A B T) {args args' : ContractArgs}
    {contract contract' : RbContract B T} (made : RbContract.new B T args = some (.ok contract))
    (made' : RbContract.new B T args' = some (.ok contract')) :
    (contract = contract' ↔
      args.SameAgreement args' ∧ parseNetwork args.network = parseNetwork args'.network) ∧
    (contract.address D = contract'.address D → args.SameAgreement args' ∨
      Breaks B hashing tweak (contract.inner.commitment hashing)
        (contract'.inner.commitment hashing)) := by
  have describes := RbContract.new_eq_ok_iff.mp made
  have describes' := RbContract.new_eq_ok_iff.mp made'
  have agree := describes.options_eq_iff serializes describes'
  constructor
  · rw [RbContract.eq_iff, agree, describes.network, describes'.network, Except.ok.injEq]
  · intro shown
    have same := scriptPubkey_eq_of_address roundTrips pays shown
    exact (leafScripts_perm_or_breaks trees contract.inner contract'.inner same).imp_left
      fun perm => agree.mp (options_eq_of_leafScripts_perm builds contract.inner.valid perm)

/-! ### A sample -/

section Sample

open ArkadeEscrow.Sample

/-- The texts of the sample escrow. -/
def sampleArgs (network : String) : ContractArgs where
  sellerPk := toLowerHex Sample.options.seller.serialize
  buyerPk := toLowerHex Sample.options.buyer.serialize
  arbiterPk := toLowerHex Sample.options.arbiter.serialize
  serverPk := toLowerHex Sample.options.server.serialize
  unilateralExitDelay := Sample.options.unilateralExitDelay
  network

theorem magnitude_lt {bytes : List UInt8} (length : bytes.length = 32) :
    Tapscript.Number.magnitude bytes < 2 ^ 256 := by
  have bound := Nat.ofDigits_lt_base_pow_length (b := 256) (l := bytes.map UInt8.toNat) (by omega)
    (by simpa using fun byte _ => byte.toNat_lt)
  rwa [List.length_map, length] at bound

/-- 32 bytes are one key. -/
theorem keyOfBytes_inj {bytes bytes' : List UInt8} (length : bytes.length = 32)
    (length' : bytes'.length = 32) (same : keyOfBytes bytes = keyOfBytes bytes') :
    bytes = bytes' := by
  have coordinates := congrArg (·.coordinate.toNat) same
  simp only [keyOfBytes, BitVec.toNat_ofNat] at coordinates
  rw [Nat.mod_eq_of_lt (magnitude_lt (by simpa)), Nat.mod_eq_of_lt (magnitude_lt (by simpa))]
    at coordinates
  have digits := Nat.ofDigits_inj_of_len_eq (by omega) (by simp [length, length'])
    (by simpa using fun byte _ => byte.toNat_lt) (by simpa using fun byte _ => byte.toNat_lt)
    coordinates
  have injective : Function.Injective UInt8.toNat := fun _ _ => UInt8.toNat_inj.mp
  exact List.reverse_injective (List.map_injective_iff.mpr injective digits)

theorem serializesKeys_climbing : SerializesKeys climbing := by
  intro bytes key read
  change (if bytes.length = 32 then Except.ok (keyOfBytes bytes) else _) = _ at read
  split at read
  · next length =>
      obtain rfl := Except.ok.inj read
      exact keyOfBytes_inj length (keyOfBytes bytes).serialize_length (keyOfBytes_serialize _).symm
  · cases read

theorem describes_sampleArgs {name : String} {network : Network}
    (known : parseNetwork name = .ok network) :
    (sampleArgs name).Describes climbing Sample.options network := by
  have parsed (key : XOnlyPublicKey) :
      parseXonly climbing (toLowerHex key.serialize) = some (.ok key) :=
    parseXonly_toLowerHex (BitcoinLib.keyFromSlice_serialize key)
  exact ⟨parsed _, parsed _, parsed _, parsed _, rfl, known⟩

theorem contract_accepted_sample : ∃ contract : RbContract climbing combining,
    RbContract.new climbing combining (sampleArgs "mutinynet") = some (.ok contract) := by
  have describes := @describes_sampleArgs "mutinynet" .signet rfl
  exact (contract_accepted_iff buildsTrees_combining serializesKeys_climbing _).2.1.mpr
    ((describes.validate_eq_ok_iff serializesKeys_climbing).mp rfl)

/-- The contract of the sample escrow. -/
theorem exists_new_sampleArgs {name : String} {network : Network}
    (known : parseNetwork name = .ok network) : ∃ contract : RbContract climbing combining,
      RbContract.new climbing combining (sampleArgs name) = some (.ok contract) := by
  obtain ⟨contract, accepted⟩ := Sample.exists_contract network
  have describes := describes_sampleArgs known
  rw [← EscrowContract.new_options accepted, ← EscrowContract.new_network accepted] at describes
  exact ⟨⟨contract⟩, RbContract.new_eq_ok_iff.mpr describes⟩

/-- Two names of one network make one contract. -/
theorem one_agreement_per_address_sample : ∃ contract contract' : RbContract climbing combining,
    RbContract.new climbing combining (sampleArgs "signet") = some (.ok contract) ∧
    RbContract.new climbing combining (sampleArgs "mutinynet") = some (.ok contract') ∧
    contract = contract' := by
  obtain ⟨contract, made⟩ := @exists_new_sampleArgs "signet" .signet rfl
  obtain ⟨contract', made'⟩ := @exists_new_sampleArgs "mutinynet" .signet rfl
  have one := one_agreement_per_address buildsScripts_climbing buildsTrees_combining
    serializesKeys_climbing roundTrips_addressLib (fun _ => rfl) made made'
  exact ⟨contract, contract', made, made', one.1.mpr ⟨⟨rfl, rfl⟩, rfl⟩⟩

end Sample

end Ruby
end ArkadeEscrow
