import ArkadeEscrow.Data.Json
import ArkadeEscrow.Data.Results
import ArkadeEscrow.SpendStore

/-!
# The JSON of a record

What is derived for `PendingSpend`: a record is written with all its fields, and read back from
any object that has them. The fields that were added after the first release have defaults, so a
record of an older version still loads, as one at stage `submitted` (`ofJson_eq_some_iff` says for
every JSON value what it loads as).

`JsonText` is the part of `serde_json` that turns values into text and back.
-/

set_option autoImplicit false

namespace ArkadeEscrow

/-! ## The fields -/

namespace SpendStage

def all : List SpendStage := [.submitting, .submitted, .finalized]

/-- `rename_all = "snake_case"`. -/
def name : SpendStage → String
  | .submitting => "submitting"
  | .submitted => "submitted"
  | .finalized => "finalized"

/-- Records written before the stage existed were only ever saved after a successful submit. -/
def default : SpendStage := .submitted

theorem mem_all (stage : SpendStage) : stage ∈ all := by
  cases stage <;> decide

def codec : Json.Codec SpendStage := .variants all name (by decide) mem_all

end SpendStage

namespace PendingSpend

inductive Field where
  | id | arkTxid | signedCheckpoints | stage | token | arkTx | unsignedCheckpoints
  | partySignedCheckpoints | serverSignedArkTx
  deriving DecidableEq

namespace Field

def all : List Field :=
  [.id, .arkTxid, .signedCheckpoints, .stage, .token, .arkTx, .unsignedCheckpoints,
    .partySignedCheckpoints, .serverSignedArkTx]

abbrev Value : Field → Type
  | .id | .arkTxid | .token => String
  | .signedCheckpoints | .unsignedCheckpoints => List String
  | .stage => SpendStage
  | .arkTx | .serverSignedArkTx => Option String
  | .partySignedCheckpoints => List (List String)

def name : Field → String
  | .id => "id"
  | .arkTxid => "ark_txid"
  | .signedCheckpoints => "signed_checkpoints"
  | .stage => "stage"
  | .token => "token"
  | .arkTx => "ark_tx"
  | .unsignedCheckpoints => "unsigned_checkpoints"
  | .partySignedCheckpoints => "party_signed_checkpoints"
  | .serverSignedArkTx => "server_signed_ark_tx"

def codec : (f : Field) → Json.Codec f.Value
  | .id | .arkTxid | .token => .string
  | .signedCheckpoints | .unsignedCheckpoints => .list .string
  | .stage => SpendStage.codec
  | .arkTx | .serverSignedArkTx => .option .string fun _ => nofun
  | .partySignedCheckpoints => .list (.list .string)

/-- `#[serde(default)]`: the fields of the first release have none. -/
def default : (f : Field) → Option f.Value
  | .id | .arkTxid | .signedCheckpoints => none
  | .stage => some SpendStage.default
  | .token => some ""
  | .arkTx | .serverSignedArkTx => some none
  | .unsignedCheckpoints => some []
  | .partySignedCheckpoints => some []

theorem mem_all (f : Field) : f ∈ all := by
  cases f <;> decide

theorem name_injective : Function.Injective name := by
  intro f f' same
  cases f <;> cases f' <;> simp_all [name]

end Field

def schema : Json.Schema Field where
  Value := Field.Value
  fields := Field.all
  complete := Field.mem_all
  nodup := by decide
  name := Field.name
  name_injective := Field.name_injective
  codec := Field.codec
  default := Field.default

/-- The fields of a record. -/
def values (spend : PendingSpend) : schema.Values
  | .id => spend.id
  | .arkTxid => spend.arkTxid
  | .signedCheckpoints => spend.signedCheckpoints
  | .stage => spend.stage
  | .token => spend.token
  | .arkTx => spend.arkTx
  | .unsignedCheckpoints => spend.unsignedCheckpoints
  | .partySignedCheckpoints => spend.partySignedCheckpoints
  | .serverSignedArkTx => spend.serverSignedArkTx

def ofValues (values : schema.Values) : PendingSpend where
  id := values .id
  arkTxid := values .arkTxid
  signedCheckpoints := values .signedCheckpoints
  stage := values .stage
  token := values .token
  arkTx := values .arkTx
  unsignedCheckpoints := values .unsignedCheckpoints
  partySignedCheckpoints := values .partySignedCheckpoints
  serverSignedArkTx := values .serverSignedArkTx

theorem ofValues_eq_iff {v : schema.Values} {spend : PendingSpend} :
    ofValues v = spend ↔ v = spend.values := by
  constructor
  · rintro rfl
    funext f
    cases f <;> rfl
  · rintro rfl
    rfl

/-! ## Writing and reading -/

/-- `Serialize`. -/
def toJson (spend : PendingSpend) : Json := schema.write spend.values

/-- `Deserialize`. -/
def ofJson (json : Json) : Option PendingSpend := ofValues <$> schema.read json

theorem ofJson_eq_some_iff_read {json : Json} {spend : PendingSpend} :
    ofJson json = some spend ↔ schema.read json = some spend.values := by
  constructor
  · intro read
    obtain ⟨v, read, same⟩ := Option.map_eq_some_iff.mp read
    rw [read, ofValues_eq_iff.mp same]
  · intro read
    exact Option.map_eq_some_iff.mpr ⟨_, read, ofValues_eq_iff.mpr rfl⟩

theorem ofJson_toJson (spend : PendingSpend) : ofJson spend.toJson = some spend :=
  ofJson_eq_some_iff_read.mpr (Json.Schema.read_write spend.values)

/-- What a JSON value gives each field of the record. -/
def Gives (spend : PendingSpend) : Json → Prop
  | .object members => ∀ f : Field, schema.Has members f (spend.values f)
  | .array items => items.length ≤ 9 ∧ ∀ f : Field, schema.HasAt items f (spend.values f)
  | _ => False

/-- What loads as a record. -/
theorem ofJson_eq_some_iff_gives {json : Json} {spend : PendingSpend} :
    ofJson json = some spend ↔ spend.Gives json := by
  rw [ofJson_eq_some_iff_read]
  cases json with
  | object members => exact Json.Schema.read_object_eq_some_iff
  | array items => exact Json.Schema.read_array_eq_some_iff
  | null => exact ⟨nofun, nofun⟩
  | bool value => exact ⟨nofun, nofun⟩
  | number literal => exact ⟨nofun, nofun⟩
  | string text => exact ⟨nofun, nofun⟩

/-- **The format of a record.** Every JSON value loads as the record whose fields it gives, each
of them once or, where there is a default, not at all, and in an object in any order and among
any other members; anything else does not load. And what is saved loads. -/
theorem record_format :
    (∀ (json : Json) (spend : PendingSpend), ofJson json = some spend ↔ spend.Gives json) ∧
      ∀ spend : PendingSpend, ofJson spend.toJson = some spend :=
  ⟨fun _ _ => ofJson_eq_some_iff_gives, ofJson_toJson⟩

/-- A record is read from its fields in order, and the last ones may be missing. -/
example : ofJson (.array [.string "trade", .string "00", .array []]) =
    some ⟨"trade", "00", [], .submitted, "", none, [], [], none⟩ := rfl

end PendingSpend

/-! ## Text -/

/-- `serde_json`: the text of a value and the value of a text. -/
structure JsonText where
  toString : Json → Except String String
  toStringPretty : Json → Except String String
  parse : String → Except String Json
  /-- The error for a value that is no record. -/
  dataError : Json → String

namespace JsonText

/-- `serde_json::from_str`. -/
def fromStr (J : JsonText) (text : String) : Except String PendingSpend := do
  let json ← J.parse text
  match PendingSpend.ofJson json with
  | some spend => return spend
  | none => .error (J.dataError json)

/-- What is documented of `serde_json`: a text that has been written is parsed to its value. -/
structure RoundTrips (J : JsonText) : Prop where
  compact : ∀ (spend : PendingSpend) (text : String), J.toString spend.toJson = .ok text →
    J.parse text = .ok spend.toJson
  pretty : ∀ (spend : PendingSpend) (text : String), J.toStringPretty spend.toJson = .ok text →
    J.parse text = .ok spend.toJson

variable {J : JsonText} {text : String} {spend : PendingSpend}

theorem fromStr_of_parse (parsed : J.parse text = .ok spend.toJson) :
    J.fromStr text = .ok spend := by
  simp only [fromStr, parsed, Results.ok_bind, PendingSpend.ofJson_toJson]
  rfl

/-- **A record that has been written is read back**, from either text. -/
theorem RoundTrips.fromStr (trips : J.RoundTrips)
    (written : J.toString spend.toJson = .ok text ∨ J.toStringPretty spend.toJson = .ok text) :
    J.fromStr text = .ok spend := by
  rcases written with compact | pretty
  · exact fromStr_of_parse (trips.compact spend text compact)
  · exact fromStr_of_parse (trips.pretty spend text pretty)

end JsonText

end ArkadeEscrow
