import Mathlib.Data.List.Infix

/-!
# Errors

An `anyhow::Error` is a chain of causes, the outermost context first. The only cause the
client looks for in a chain is a gRPC status (`Error.status?`). A status stays in the
chain when context is added (`status?_context`), and no check that the client makes by
itself puts one there (`Statusless`).
-/

set_option autoImplicit false

namespace ArkadeEscrow

/-- `tonic::Code`. -/
inductive Code where
  | ok | cancelled | unknown | invalidArgument | deadlineExceeded | notFound | alreadyExists
  | permissionDenied | resourceExhausted | failedPrecondition | aborted | outOfRange
  | unimplemented | internal | unavailable | dataLoss | unauthenticated
  deriving DecidableEq

/-- `tonic::Status`. -/
structure Status where
  code : Code
  message : String
  deriving DecidableEq

/-- One cause of an error: a gRPC status, or a message. -/
inductive Cause where
  | status (status : Status)
  | message (text : String)
  deriving DecidableEq

/-- `anyhow::Error`. -/
structure Error where
  chain : List Cause
  deriving DecidableEq

namespace Error

/-- `anyhow!(text)`. -/
def msg (text : String) : Error := ⟨[.message text]⟩

/-- `err.context(text)`. -/
def context (e : Error) (text : String) : Error := ⟨.message text :: e.chain⟩

/-- The first gRPC status of the chain. -/
def status? (e : Error) : Option Status :=
  e.chain.findSome? fun
    | .status status => some status
    | .message _ => none

@[simp] theorem status?_context (e : Error) (text : String) :
    (e.context text).status? = e.status? := rfl

/-- `format!("{err:#}")`: the causes, one after the other. A status is printed by
`statusText`. -/
def text (statusText : Status → String) (e : Error) : String :=
  ": ".intercalate (e.chain.map fun
    | .status status => statusText status
    | .message text => text)

end Error

/-- `str::contains`. -/
def strContains (s pattern : String) : Bool := decide (pattern.toList <:+: s.toList)

@[simp] theorem strContains_iff {s pattern : String} :
    strContains s pattern = true ↔ pattern.toList <:+: s.toList := decide_eq_true_iff

/-- Where the pattern cannot begin in the one text and end in the other, it is in one of them. -/
theorem strContains_append_iff {s s' pattern : String}
    (apart : ∀ l l', pattern.toList = l ++ l' → l <:+ s.toList → l' <+: s'.toList →
      l = [] ∨ l' = []) :
    strContains (s ++ s') pattern = true ↔
      strContains s pattern = true ∨ strContains s' pattern = true := by
  simp only [strContains_iff, String.toList_append, List.infix_append_iff_ne_nil]
  constructor
  · rintro (first | second | ⟨l, l', some, some', split, before, after⟩)
    · exact .inl first
    · exact .inr second
    · exact absurd (apart l l' split before after) (not_or.mpr ⟨some, some'⟩)
  · rintro (first | second)
    · exact .inl first
    · exact .inr (.inl second)

/-- A pattern without a colon does not lie across one. -/
theorem strContains_colon_iff {s s' pattern : String} (absent : ':' ∉ pattern.toList)
    (starts : pattern.toList.head? ≠ some ' ') :
    strContains (s ++ ": " ++ s') pattern = true ↔
      strContains s pattern = true ∨ strContains s' pattern = true := by
  have colon (l : List Char) (within : ∀ c ∈ l, c ∈ pattern.toList)
      (first : l <+: ':' :: ' ' :: s'.toList) : l = [] := by
    cases l with
    | nil => rfl
    | cons c l =>
        obtain ⟨rfl, _⟩ := List.cons_prefix_cons.mp first
        exact absurd (within _ List.mem_cons_self) absent
  have blank (first : pattern.toList <+: ' ' :: s'.toList) : pattern.toList = [] := by
    cases chars : pattern.toList with
    | nil => rfl
    | cons c l =>
        rw [chars] at first starts
        obtain ⟨rfl, _⟩ := List.cons_prefix_cons.mp first
        exact absurd rfl starts
  have text : s ++ ": " ++ s' = s ++ String.ofList (':' :: ' ' :: s'.toList) := by
    rw [← String.toList_inj]
    simp
  rw [text, strContains_append_iff]
  · refine or_congr_right ?_
    simp only [strContains_iff, String.toList_ofList, List.infix_cons_iff]
    constructor
    · rintro (first | first | within)
      · exact colon _ (fun _ member => member) first ▸ List.nil_infix
      · exact blank first ▸ List.nil_infix
      · exact within
    · exact fun within => .inr (.inr within)
  · intro l l' split _ after
    rw [String.toList_ofList] at after
    exact .inr (colon l' (fun c member => split ▸ List.mem_append_right l member) after)

/-- `option.context(text)` and `ok_or_else(|| anyhow!(text))`. -/
def orError {α : Type} (text : String) : Option α → Except Error α
  | some a => .ok a
  | none => .error (.msg text)

/-- An error of the standard library or of another crate that is not a gRPC status: its
text. -/
def ofDisplay {α : Type} (r : Except String α) : Except Error α := r.mapError Error.msg

/-- `result.context(text)`. -/
def withContext {α : Type} (text : String) (r : Except Error α) : Except Error α :=
  r.mapError fun e => e.context text

/-- `anyhow::ensure!(condition, text)`. -/
def ensure (condition : Bool) (text : String) : Except Error Unit :=
  if condition then .ok () else .error (.msg text)

@[simp] theorem orError_eq_ok_iff {α : Type} {text : String} {x : Option α} {a : α} :
    orError text x = .ok a ↔ x = some a := by
  cases x <;> simp [orError]

@[simp] theorem ofDisplay_eq_ok_iff {α : Type} {r : Except String α} {a : α} :
    ofDisplay r = .ok a ↔ r = .ok a := by
  cases r <;> simp [ofDisplay, Except.mapError]

@[simp] theorem withContext_eq_ok_iff {α : Type} {text : String} {r : Except Error α} {a : α} :
    withContext text r = .ok a ↔ r = .ok a := by
  cases r <;> simp [withContext, Except.mapError]

@[simp] theorem ensure_eq_ok_iff {condition : Bool} {text : String} :
    ensure condition text = .ok () ↔ condition = true := by
  cases condition <;> simp [ensure]

/-! ## Errors that carry no status -/

/-- If the computation fails, then not with a gRPC status. -/
def Statusless {α : Type} (r : Except Error α) : Prop := ∀ e, r = .error e → e.status? = none

namespace Statusless

variable {α β : Type}

theorem ok (a : α) : Statusless (.ok a) := by
  intro e failed
  cases failed

theorem throw_msg (text : String) : Statusless (throw (.msg text) : Except Error α) := by
  intro e failed
  cases failed
  rfl

theorem orError (text : String) (x : Option α) : Statusless (orError text x) := by
  cases x with
  | none => exact throw_msg text
  | some a => exact ok a

theorem ensure (condition : Bool) (text : String) : Statusless (ensure condition text) := by
  cases condition with
  | false => exact throw_msg text
  | true => exact ok ()

theorem ofDisplay (r : Except String α) : Statusless (ofDisplay r) := by
  cases r with
  | error text => exact throw_msg text
  | ok a => exact ok a

theorem withContext {r : Except Error α} (h : Statusless r) (text : String) :
    Statusless (withContext text r) := by
  cases r with
  | error e =>
      intro e' failed
      cases failed
      exact h e rfl
  | ok a => exact ok a

theorem bind {r : Except Error α} {f : α → Except Error β} (h : Statusless r)
    (rest : ∀ a, Statusless (f a)) : Statusless (r >>= f) := by
  cases r with
  | error e =>
      intro e' failed
      cases failed
      exact h e rfl
  | ok a => exact rest a

theorem mapM {f : α → Except Error β} (body : ∀ a, Statusless (f a)) (xs : List α) :
    Statusless (xs.mapM f) := by
  induction xs with
  | nil => exact ok []
  | cons x xs ih =>
      rw [List.mapM_cons]
      exact (body x).bind fun y => ih.bind fun ys => ok (y :: ys)

end Statusless

end ArkadeEscrow
