import ArkadeEscrow.Contract

/-!
# The leaf scripts as instructions

The scripts of a contract are put together from pieces that the script builder pushes.
`BuildsScripts` is what is known of the builder, and it is enough to decode them:
`decode_collaborative3of3` and `decode_unilateral2of2`.
-/

set_option autoImplicit false

namespace ArkadeEscrow

open Tapscript

/-- What the `bitcoin` crate documents of its script builder: a number is pushed as its
shortest encoding, and a key as its 32 bytes. -/
structure BuildsScripts (B : BitcoinLib) : Prop where
  pushInt : ∀ n : Nat, n < 2 ^ 32 → Pushes (B.pushInt n) (Number.encode n)
  pushXOnlyKey : ∀ key : XOnlyPublicKey, Pushes (B.pushXOnlyKey key) key.serialize

theorem XOnlyPublicKey.serialize_length (key : XOnlyPublicKey) : key.serialize.length = 32 :=
  List.length_ofFn

variable {B : BitcoinLib}

theorem decode_collaborative3of3 (builds : BuildsScripts B) (pkA pkB server : XOnlyPublicKey) :
    decode (collaborative3of3 B pkA pkB server) = .script
      [.push pkA.serialize, .op opCheckSigVerify, .push pkB.serialize, .op opCheckSigVerify,
        .push server.serialize, .op opCheckSig] := by
  have verify (rest : Bytes) : decode (opCheckSigVerify :: rest) =
      (decode rest).cons (.op opCheckSigVerify) := decode_cons (by decide) rfl
  have check (rest : Bytes) : decode (opCheckSig :: rest) =
      (decode rest).cons (.op opCheckSig) := decode_cons (by decide) rfl
  rw [collaborative3of3, decode_pushes (builds.pushXOnlyKey pkA), verify,
    decode_pushes (builds.pushXOnlyKey pkB), verify, decode_pushes (builds.pushXOnlyKey server),
    check, decode_nil]
  rfl

theorem decode_unilateral2of2 (builds : BuildsScripts B) (delay : UInt32)
    (pkA pkB : XOnlyPublicKey) :
    decode (unilateral2of2 B delay pkA pkB) = .script
      [.push (Number.encode delay.toNat), .op opCheckSequenceVerify, .op opDrop,
        .push pkA.serialize, .op opCheckSigVerify, .push pkB.serialize, .op opCheckSig] := by
  have sequence (rest : Bytes) : decode (opCheckSequenceVerify :: rest) =
      (decode rest).cons (.op opCheckSequenceVerify) := decode_cons (by decide) rfl
  have drop (rest : Bytes) : decode (opDrop :: rest) =
      (decode rest).cons (.op opDrop) := decode_cons (by decide) rfl
  have verify (rest : Bytes) : decode (opCheckSigVerify :: rest) =
      (decode rest).cons (.op opCheckSigVerify) := decode_cons (by decide) rfl
  have check (rest : Bytes) : decode (opCheckSig :: rest) =
      (decode rest).cons (.op opCheckSig) := decode_cons (by decide) rfl
  rw [unilateral2of2, decode_pushes (builds.pushInt _ delay.toNat_lt), sequence, drop,
    decode_pushes (builds.pushXOnlyKey pkA), verify, decode_pushes (builds.pushXOnlyKey pkB),
    check, decode_nil]
  rfl

end ArkadeEscrow
