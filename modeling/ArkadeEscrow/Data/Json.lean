import Mathlib.Data.List.Nodup
import Mathlib.Logic.Function.Basic

/-!
# Records as JSON

A JSON value, and how a record with named fields is written to one and read from one. A codec
reads what it has written. A schema lists the fields of a record with their names, their codecs
and the defaults of those that may be missing.

Reading goes through the members of an object one by one: a member of an unknown name is
ignored, a field that occurs twice is an error, and a field that is missing takes its default.
`Schema.read_object_eq_some_iff` says what this comes to, field by field, so neither the order of
the members matters nor what else there is. A record is also read from an array, with its fields
in order.
-/

set_option autoImplicit false

namespace ArkadeEscrow

/-- A JSON value. An object keeps its members in their order, and may repeat a name. -/
inductive Json where
  | null
  | bool (value : Bool)
  | number (literal : String)
  | string (text : String)
  | array (items : List Json)
  | object (members : List (String × Json))

namespace Json

variable {α F : Type}

/-! ## Codecs -/

/-- How values are written and read. -/
structure Codec (α : Type) where
  encode : α → Json
  decode : Json → Option α
  decode_encode : ∀ a, decode (encode a) = some a

namespace Codec

def string : Codec String where
  encode := .string
  decode
    | .string text => some text
    | _ => none
  decode_encode _ := rfl

/-- A list is an array. -/
def list (item : Codec α) : Codec (List α) where
  encode values := .array (values.map item.encode)
  decode
    | .array items => items.mapM item.decode
    | _ => none
  decode_encode values := by
    induction values with
    | nil => rfl
    | cons value values ih =>
        rw [List.map_cons]
        show (List.mapM item.decode (_ :: _)) = _
        rw [List.mapM_cons, item.decode_encode, show List.mapM item.decode _ = _ from ih]
        rfl

/-- What is missing is `null`. -/
def option (value : Codec α) (some_ : ∀ a, value.encode a ≠ .null) : Codec (Option α) where
  encode
    | some a => value.encode a
    | none => .null
  decode
    | .null => some none
    | json => some <$> value.decode json
  decode_encode
    | none => rfl
    | some a => by
        have back := value.decode_encode a
        dsimp only
        split
        · next null => exact absurd null (some_ a)
        · rw [back]
          rfl

/-- The values of an enumeration by their names: the name itself, or an object with the name
as its only member and nothing in it. -/
def variants (all : List α) (name : α → String) (distinct : (all.map name).Nodup)
    (complete : ∀ a, a ∈ all) : Codec α where
  encode a := .string (name a)
  decode
    | .string text => all.find? fun a => name a == text
    | .object [(text, .null)] => all.find? fun a => name a == text
    | _ => none
  decode_encode a := by
    cases found : all.find? fun a' => name a' == name a with
    | none => simpa using List.find?_eq_none.mp found a (complete a)
    | some a' =>
        have same : name a' = name a := by simpa using List.find?_some found
        have member := List.mem_of_find?_eq_some found
        exact found.trans (congrArg some
          (List.inj_on_of_nodup_map distinct member (complete a) same))

end Codec

/-! ## Schemas -/

/-- The fields of a record, in their order. A field without a default is required. -/
structure Schema (F : Type) where
  Value : F → Type
  fields : List F
  complete : ∀ f, f ∈ fields
  nodup : fields.Nodup
  name : F → String
  name_injective : Function.Injective name
  codec : (f : F) → Codec (Value f)
  default : (f : F) → Option (Value f)

namespace Schema

variable (S : Schema F)

/-- The values of all fields. -/
abbrev Values := (f : F) → S.Value f

/-- The values that have been read so far. -/
abbrev Slots := (f : F) → Option (S.Value f)

/-- An object with all fields, in their order. -/
def write (values : S.Values) : Json :=
  .object (S.fields.map fun f => (S.name f, (S.codec f).encode (values f)))

/-- The field of a name. -/
def fieldOf (name : String) : Option F := S.fields.find? fun f => S.name f == name

/-- What has not been read takes its default. -/
def finish (slots : S.Slots) : Option S.Values :=
  if given : ∀ f ∈ S.fields, ((slots f).or (S.default f)).isSome then
    some fun f => ((slots f).or (S.default f)).get (given f (S.complete f))
  else none

variable [DecidableEq F]

/-- Read one member of an object. -/
def visit (slots : S.Slots) (member : String × Json) : Option S.Slots :=
  match S.fieldOf member.1 with
  | none => some slots
  | some f =>
      if (slots f).isSome then none
      else ((S.codec f).decode member.2).map fun value => Function.update slots f (some value)

/-- Read the items of an array for these fields. -/
def visitSeq : List F → List Json → S.Slots → Option S.Slots
  | _, [], slots => some slots
  | [], _ :: _, _ => none
  | f :: fields, item :: items, slots => do
      let value ← (S.codec f).decode item
      visitSeq fields items (Function.update slots f (some value))

/-- Read a record. -/
def read : Json → Option S.Values
  | .object members => do
      let slots ← members.foldlM S.visit fun _ => none
      S.finish slots
  | .array items => do
      let slots ← S.visitSeq S.fields items fun _ => none
      S.finish slots
  | _ => none

variable {S}

omit [DecidableEq F] in
theorem fieldOf_eq_some_iff {name : String} {f : F} :
    S.fieldOf name = some f ↔ S.name f = name := by
  constructor
  · intro found
    simpa using List.find?_some found
  · rintro rfl
    cases found : S.fieldOf (S.name f) with
    | none => simpa using List.find?_eq_none.mp found f (S.complete f)
    | some f' =>
        have same : S.name f' = S.name f := by simpa using List.find?_some found
        rw [S.name_injective same]

/-- The members of a field. -/
def membersOf (S : Schema F) (f : F) (members : List (String × Json)) : List (String × Json) :=
  members.filter fun member => member.1 == S.name f

omit [DecidableEq F] in
theorem membersOf_cons (f : F) (member : String × Json) (members : List (String × Json)) :
    S.membersOf f (member :: members) =
      if member.1 = S.name f then member :: S.membersOf f members else S.membersOf f members := by
  by_cases same : member.1 = S.name f
  · rw [if_pos same]
    exact List.filter_cons_of_pos (by simp [same])
  · rw [if_neg same]
    exact List.filter_cons_of_neg (by simp [same])

/-- What the members of a field make of its slot: nothing, or they are one member, the slot is
free, and it takes the value. -/
def Fills (S : Schema F) (members : List (String × Json)) (f : F)
    (before after : Option (S.Value f)) : Prop :=
  (S.membersOf f members = [] ∧ after = before) ∨
    ∃ member value, S.membersOf f members = [member] ∧ before = none ∧
      (S.codec f).decode member.2 = some value ∧ after = some value

/-- **Each field is read by itself.** -/
theorem foldlM_visit_eq_some_iff {members : List (String × Json)} {slots slots' : S.Slots} :
    members.foldlM S.visit slots = some slots' ↔
      ∀ f, S.Fills members f (slots f) (slots' f) := by
  induction members generalizing slots with
  | nil =>
      constructor
      · intro same f
        cases same
        exact .inl ⟨rfl, rfl⟩
      · intro fills
        refine congrArg some (funext fun f => ?_)
        rcases fills f with ⟨_, same⟩ | ⟨_, _, none, _⟩
        · exact same.symm
        · cases none
  | cons member members ih =>
      rw [List.foldlM_cons]
      cases field : S.fieldOf member.1 with
      | none =>
          have unknown (f : F) : S.membersOf f (member :: members) = S.membersOf f members := by
            rw [membersOf_cons, if_neg]
            intro same
            have known := fieldOf_eq_some_iff.mpr same.symm
            rw [field] at known
            cases known
          have visited : S.visit slots member = some slots := by rw [visit, field]
          rw [visited]
          show members.foldlM S.visit slots = some slots' ↔ _
          rw [ih]
          simp only [Fills, unknown]
      | some g =>
          have own := fieldOf_eq_some_iff.mp field
          have here : S.membersOf g (member :: members) = member :: S.membersOf g members := by
            rw [membersOf_cons, if_pos own.symm]
          have there {f : F} (other : f ≠ g) :
              S.membersOf f (member :: members) = S.membersOf f members := by
            rw [membersOf_cons, if_neg]
            exact fun same => other (S.name_injective (own.trans same).symm)
          constructor
          · intro read
            obtain ⟨slots₁, visited, read⟩ := Option.bind_eq_some_iff.mp read
            rw [visit, field] at visited
            dsimp only at visited
            split at visited
            · cases visited
            · next free =>
                obtain ⟨value, decoded, rfl⟩ := Option.map_eq_some_iff.mp visited
                intro f
                have rest := ih.mp read f
                by_cases same : f = g
                · subst same
                  rw [Function.update_self] at rest
                  rcases rest with ⟨none, after⟩ | ⟨_, _, _, absurd, _⟩
                  · exact .inr ⟨member, value, by rw [here, none], by simpa using free, decoded,
                      after⟩
                  · cases absurd
                · rw [Function.update_of_ne same] at rest
                  rw [Fills, there same]
                  exact rest
          · intro fills
            rcases fills g with ⟨none, _⟩ | ⟨member', value, one, free, decoded, after⟩
            · rw [here] at none
              cases none
            · rw [here] at one
              obtain ⟨rfl, none⟩ := List.cons.inj one
              refine Option.bind_eq_some_iff.mpr
                ⟨Function.update slots g (some value), ?_, ih.mpr fun f => ?_⟩
              · rw [visit, field]
                dsimp only
                rw [free, decoded]
                rfl
              · by_cases same : f = g
                · subst same
                  rw [Function.update_self]
                  exact .inl ⟨none, after⟩
                · rw [Function.update_of_ne same]
                  have rest := fills f
                  rwa [Fills, there same] at rest

omit [DecidableEq F] in
theorem finish_eq_some_iff {slots : S.Slots} {values : S.Values} :
    S.finish slots = some values ↔ ∀ f, (slots f).or (S.default f) = some (values f) := by
  rw [finish]
  constructor
  · intro finished f
    split at finished
    · cases finished
      exact (Option.some_get _).symm
    · cases finished
  · intro given
    rw [dif_pos fun f _ => by rw [given f]; rfl]
    refine congrArg some (funext fun f => ?_)
    exact Option.get_of_eq_some _ (given f)

/-- The object has this value for the field: as its only member of the name, or there is none
and it is the default. -/
def Has (S : Schema F) (members : List (String × Json)) (f : F) (value : S.Value f) : Prop :=
  (∃ json, S.membersOf f members = [(S.name f, json)] ∧ (S.codec f).decode json = some value) ∨
    (S.membersOf f members = [] ∧ S.default f = some value)

/-- **What is read from an object**, field by field. -/
theorem read_object_eq_some_iff {members : List (String × Json)} {values : S.Values} :
    S.read (.object members) = some values ↔ ∀ f, S.Has members f (values f) := by
  have named {f : F} {member : String × Json} (one : S.membersOf f members = [member]) :
      member = (S.name f, member.2) := by
    have here : member ∈ S.membersOf f members := one ▸ List.mem_singleton.mpr rfl
    have name : member.1 = S.name f := by simpa using (List.mem_filter.mp here).2
    exact Prod.ext name rfl
  constructor
  · intro read f
    obtain ⟨slots, visited, finished⟩ := Option.bind_eq_some_iff.mp read
    have value := finish_eq_some_iff.mp finished f
    rcases foldlM_visit_eq_some_iff.mp visited f with
      ⟨none, empty⟩ | ⟨member, _, one, _, decoded, taken⟩
    · rw [empty] at value
      exact .inr ⟨none, value⟩
    · rw [taken] at value
      cases Option.some.inj value
      exact .inl ⟨member.2, one.trans (congrArg ([·]) (named one)), decoded⟩
  · intro has
    let slots : S.Slots := fun f => if S.membersOf f members = [] then none else some (values f)
    refine Option.bind_eq_some_iff.mpr ⟨slots, foldlM_visit_eq_some_iff.mpr fun f => ?_,
      finish_eq_some_iff.mpr fun f => ?_⟩
    · rcases has f with ⟨json, one, decoded⟩ | ⟨none, _⟩
      · exact .inr ⟨_, values f, one, rfl, decoded, if_neg (by simp [one])⟩
      · exact .inl ⟨none, if_pos none⟩
    · rcases has f with ⟨json, one, _⟩ | ⟨none, default⟩
      · simp only [slots, one, if_neg (List.cons_ne_nil _ _)]
        rfl
      · simp only [slots, none, if_true]
        exact default

/-! ## Records as arrays -/

/-- What the item at the place of a field makes of its slot. -/
def Takes (S : Schema F) (fields : List F) (items : List Json) (f : F)
    (after : Option (S.Value f)) : Prop :=
  (items[fields.idxOf f]? = none ∧ after = none) ∨
    ∃ item value, items[fields.idxOf f]? = some item ∧ (S.codec f).decode item = some value ∧
      after = some value

theorem takes_cons_self {f : F} {fields : List F} {item : Json} {items : List Json}
    {after : Option (S.Value f)} : S.Takes (f :: fields) (item :: items) f after ↔
      ∃ value, (S.codec f).decode item = some value ∧ after = some value := by
  simp [Takes]

theorem takes_cons_of_ne {f g : F} (other : g ≠ f) {fields : List F} {item : Json}
    {items : List Json} {after : Option (S.Value g)} :
    S.Takes (f :: fields) (item :: items) g after ↔ S.Takes fields items g after := by
  simp [Takes, List.idxOf_cons_ne fields (Ne.symm other)]

/-- Each field is read by itself. -/
theorem visitSeq_eq_some_iff {fields : List F} {items : List Json} {slots slots' : S.Slots}
    (nodup : fields.Nodup) (free : ∀ f ∈ fields, slots f = none) :
    S.visitSeq fields items slots = some slots' ↔ items.length ≤ fields.length ∧
      ∀ f, (f ∈ fields → S.Takes fields items f (slots' f)) ∧
        (f ∉ fields → slots' f = slots f) := by
  induction fields generalizing items slots with
  | nil =>
      cases items with
      | nil =>
          simp only [visitSeq, Option.some.injEq, List.length_nil, Nat.le_refl, true_and,
            List.not_mem_nil, false_implies, not_false_eq_true, true_implies]
          exact ⟨fun same f => by rw [same], fun same => funext fun f => (same f).symm⟩
      | cons item items => simp [visitSeq]
  | cons f fields ih =>
      obtain ⟨absent, nodup⟩ := List.nodup_cons.mp nodup
      cases items with
      | nil =>
          have given : S.visitSeq (f :: fields) [] slots = some slots := rfl
          rw [given]
          constructor
          · rintro ⟨⟩
            exact ⟨Nat.zero_le _, fun g => ⟨fun member => .inl ⟨rfl, free g member⟩,
              fun _ => rfl⟩⟩
          · rintro ⟨_, taken⟩
            refine congrArg some (funext fun g => ?_)
            by_cases member : g ∈ f :: fields
            · rcases (taken g).1 member with ⟨_, none⟩ | ⟨_, _, some, _⟩
              · rw [none, free g member]
              · cases some
            · exact ((taken g).2 member).symm
      | cons item items =>
          have apart {g : F} (member : g ∈ fields) : g ≠ f := fun same => absent (same ▸ member)
          have free' (value : S.Value f) :
              ∀ g ∈ fields, Function.update slots f (some value) g = none := fun g member => by
            rw [Function.update_of_ne (apart member)]
            exact free g (List.mem_cons_of_mem f member)
          constructor
          · intro read
            obtain ⟨value, decoded, read⟩ := Option.bind_eq_some_iff.mp read
            obtain ⟨short, taken⟩ := (ih nodup (free' value)).mp read
            refine ⟨Nat.succ_le_succ short, fun g => ⟨fun member => ?_, fun other => ?_⟩⟩
            · rcases List.mem_cons.mp member with rfl | member
              · have kept := (taken g).2 absent
                rw [Function.update_self] at kept
                exact takes_cons_self.mpr ⟨value, decoded, kept⟩
              · exact (takes_cons_of_ne (apart member)).mpr ((taken g).1 member)
            · obtain ⟨notFirst, notLater⟩ :=
                not_or.mp (fun either => other (List.mem_cons.mpr either))
              have kept := (taken g).2 notLater
              rwa [Function.update_of_ne notFirst] at kept
          · rintro ⟨short, taken⟩
            obtain ⟨value, decoded, first⟩ :=
              takes_cons_self.mp ((taken f).1 List.mem_cons_self)
            refine Option.bind_eq_some_iff.mpr ⟨value, decoded, (ih nodup (free' value)).mpr
              ⟨Nat.le_of_succ_le_succ short, fun g => ⟨fun member => ?_, fun other => ?_⟩⟩⟩
            · exact (takes_cons_of_ne (apart member)).mp
                ((taken g).1 (List.mem_cons_of_mem f member))
            · by_cases same : g = f
              · subst same
                rw [Function.update_self, first]
              · rw [Function.update_of_ne same]
                exact (taken g).2 fun member => (List.mem_cons.mp member).elim same other

/-- The array has this value for the field: at its place, or it ends before, and it is the
default. -/
def HasAt (S : Schema F) (items : List Json) (f : F) (value : S.Value f) : Prop :=
  (∃ item, items[S.fields.idxOf f]? = some item ∧ (S.codec f).decode item = some value) ∨
    (items[S.fields.idxOf f]? = none ∧ S.default f = some value)

/-- **What is read from an array**, field by field. -/
theorem read_array_eq_some_iff {items : List Json} {values : S.Values} :
    S.read (.array items) = some values ↔
      items.length ≤ S.fields.length ∧ ∀ f, S.HasAt items f (values f) := by
  have visits (slots : S.Slots) : S.visitSeq S.fields items (fun _ => none) = some slots ↔
      items.length ≤ S.fields.length ∧ ∀ f, S.Takes S.fields items f (slots f) := by
    rw [visitSeq_eq_some_iff S.nodup fun _ _ => rfl]
    refine and_congr_right fun _ => forall_congr' fun f => ?_
    exact ⟨fun both => both.1 (S.complete f),
      fun taken => ⟨fun _ => taken, fun absent => absurd (S.complete f) absent⟩⟩
  constructor
  · intro read
    obtain ⟨slots, visited, finished⟩ := Option.bind_eq_some_iff.mp read
    obtain ⟨short, taken⟩ := (visits slots).mp visited
    refine ⟨short, fun f => ?_⟩
    have value := finish_eq_some_iff.mp finished f
    rcases taken f with ⟨none, empty⟩ | ⟨item, _, here, decoded, full⟩
    · rw [empty] at value
      exact .inr ⟨none, value⟩
    · rw [full] at value
      cases Option.some.inj value
      exact .inl ⟨item, here, decoded⟩
  · rintro ⟨short, has⟩
    let slots : S.Slots :=
      fun f => if items[S.fields.idxOf f]? = none then none else some (values f)
    refine Option.bind_eq_some_iff.mpr ⟨slots, (visits slots).mpr ⟨short, fun f => ?_⟩,
      finish_eq_some_iff.mpr fun f => ?_⟩
    · rcases has f with ⟨item, here, decoded⟩ | ⟨none, _⟩
      · exact .inr ⟨item, values f, here, decoded, if_neg (by simp [here])⟩
      · exact .inl ⟨none, if_pos none⟩
    · rcases has f with ⟨item, here, _⟩ | ⟨none, default⟩
      · simp only [slots, here, if_neg (Option.some_ne_none item)]
        rfl
      · simp only [slots, none, if_true]
        exact default

/-! ## Round trip -/

/-- **What is written is read.** -/
theorem read_write (values : S.Values) : S.read (S.write values) = some values := by
  refine read_object_eq_some_iff.mpr fun f => .inl ⟨_, ?_, (S.codec f).decode_encode _⟩
  have filtered (fields : List F) (nodup : fields.Nodup) (member : f ∈ fields) :
      S.membersOf f (fields.map fun f => (S.name f, (S.codec f).encode (values f))) =
        [(S.name f, (S.codec f).encode (values f))] := by
    rw [membersOf, List.filter_map]
    have only : fields.filter (fun f' => S.name f' == S.name f) = [f] := by
      have same : (fun f' => S.name f' == S.name f) = fun f' => f' == f := by
        funext f'
        rw [Bool.eq_iff_iff, beq_iff_eq, beq_iff_eq]
        exact ⟨fun equal => S.name_injective equal, congrArg _⟩
      rw [same, List.filter_beq, List.count_eq_one_of_mem nodup member, List.replicate_one]
    exact congrArg (List.map _) only
  exact filtered S.fields S.nodup (S.complete f)

end Schema

end Json

end ArkadeEscrow
