import ArkadeEscrow.Client.Outstanding
import ArkadeEscrow.Interaction.Backend

/-!
# The store that calls a Ruby object

Through the Ruby API the application supplies the store: an object with `save`, `load` and
`remove`, which takes and returns JSON, and possibly with `remove_if` and `save_if`. Any of its
methods may raise, before or after it has taken effect. Where the object does not respond to a
conditional method, the store loads, compares and writes.

What is asked of the object is its row of an id (`row`). Over it the store simulates the shelf that
the client has been verified against (`simulates_shelf`), whether the object has the conditional
methods or not, and so a submit that is outstanding is held by such a store as well.
-/

set_option autoImplicit false

namespace ArkadeEscrow
namespace Ruby

open Interaction Program
open Service (Follows)
open Client (Shelf shelf)

/-! ## The calls of the object -/

/-- The methods that the store calls, with their arguments. -/
inductive StoreCall where
  | save (id json : String)
  | load (id : String)
  | remove (id : String)
  | respondTo (method : String)
  | removeIf (id token : String)
  | saveIf (id json token : String)

namespace StoreCall

def method : StoreCall → String
  | .save _ _ => "save"
  | .load _ => "load"
  | .remove _ => "remove"
  | .respondTo _ => "respond_to?"
  | .removeIf _ _ => "remove_if"
  | .saveIf _ _ _ => "save_if"

/-- What the value that a method returns is converted to. -/
abbrev Result : StoreCall → Type
  | .load _ => Option String
  | .save _ _ | .remove _ => Unit
  | .respondTo _ | .removeIf _ _ | .saveIf _ _ _ => Bool

/-- A method returns, or it raises, or its value cannot be converted: then there is the text of an
exception. -/
abbrev Reply (call : StoreCall) : Type := Except String call.Result

end StoreCall

/-- The interface of the Ruby object. -/
abbrev storeInterface : Interface := ⟨Empty, StoreCall, StoreCall.Reply⟩

abbrev StoreAction (α : Type) := Fallible storeInterface Error α

/-- `store.funcall(method, arguments)`. -/
def funcall (call : StoreCall) : StoreAction call.Result :=
  ExceptT.mk ((fun r => r.mapError fun e => .msg s!"Ruby store#{call.method} failed: {e}") <$>
    Program.request (I := storeInterface) call)

/-- A check of the store's own. -/
def check {α : Type} (r : Except Error α) : StoreAction α := ExceptT.mk (.done r)

/-! ## The store -/

namespace CallbackSpendStore

variable (J : JsonText)

def save (spend : PendingSpend) : StoreAction Unit := do
  let json ← check (ofDisplay (J.toString spend.toJson))
  funcall (.save spend.id json)

def load (id : String) : StoreAction (Option PendingSpend) := do
  match ← funcall (.load id) with
  | some json => return some (← check (ofDisplay (J.fromStr json)))
  | none => return none

def remove (id : String) : StoreAction Unit := funcall (.remove id)

def removeIf (id token : String) : StoreAction Bool := do
  if ← funcall (.respondTo "remove_if") then
    funcall (.removeIf id token)
  else
    match ← load J id with
    | some existing =>
        if existing.token == "" || existing.token == token then do
          remove id
          return true
        else return false
    | none => return false

def saveIf (spend : PendingSpend) : StoreAction Bool := do
  if ← funcall (.respondTo "save_if") then do
    let json ← check (ofDisplay (J.toString spend.toJson))
    funcall (.saveIf spend.id json spend.token)
  else
    match ← load J spend.id with
    | some existing =>
        if existing.token == "" || existing.token == spend.token then do
          save J spend
          return true
        else return false
    | none => return false

/-- The store has conditional operations of its own. -/
def spendStore : SpendStore := ⟨true, true⟩

/-- What the store does for a request of the client. -/
def serve : Handler Client.interface storeInterface
  | .load id => some (load J id).run
  | .save spend => some (save J spend).run
  | .remove id => some (remove id).run
  | .removeIf id token => some (removeIf J id token).run
  | .saveIf spend => some (saveIf J spend).run
  | .newToken | .submit _ _ | .finalize _ _ => none

end CallbackSpendStore

/-! ## The row of an id -/

/-- The JSON under an id. -/
abbrev Row := Option String

namespace Row

variable (J : JsonText) (id : String)

/-- `token = ? OR token IS NULL`: there is a record, and it has this token or none. -/
def holds (row : Row) (token : String) : Bool :=
  row.any fun json => (J.fromStr json).toOption.any fun existing => existing.matchesToken token

/-- A method takes effect. -/
def effect (row : Row) : StoreCall → Row
  | .save id' json => if id' = id then some json else row
  | .remove id' => if id' = id then none else row
  | .removeIf id' token => if id' = id ∧ row.holds J token = true then none else row
  | .saveIf id' json token => if id' = id ∧ row.holds J token = true then some json else row
  | .load _ | .respondTo _ => row

/-- What a store must do that is given to the client: which answers its methods give, and what
they leave. -/
def Answered (row : Row) : (call : StoreCall) → call.Reply → Row → Prop
  | .load id', .ok found, row' => (id' = id → found = row) ∧ row' = row
  | .save id' json, .ok _, row' => row' = row.effect J id (.save id' json)
  | .remove id', .ok _, row' => row' = row.effect J id (.remove id')
  | .respondTo _, .ok _, row' => row' = row
  | .removeIf id' token, .ok removed, row' =>
      (id' = id → removed = row.holds J token) ∧ row' = row.effect J id (.removeIf id' token)
  | .saveIf id' json token, .ok written, row' =>
      (id' = id → written = row.holds J token) ∧ row' = row.effect J id (.saveIf id' json token)
  | call, .error _, row' => row' = row ∨ row' = row.effect J id call

end Row

/-- The observer of the row of an id. -/
def row (J : JsonText) (id : String) : Observer storeInterface Row where
  noted r _ := r
  sent r _ := r
  answered r call reply r' := r.Answered J id call reply r'
  lost r call r' := r' = r ∨ r' = r.effect J id call

/-- The row holds the record of the shelf. -/
def Reads (J : JsonText) (r : Row) : Shelf → Prop
  | none => r = none
  | some spend => ∃ json, r = some json ∧ J.fromStr json = .ok spend

/-! ## What the store does to the row -/

section Serving

variable {J : JsonText} {id token json : String} {r r' : Row} {s : Shelf} {spend : PendingSpend}

theorem Reads.holds_eq (reads : Reads J r s) (token : String) :
    r.holds J token = s.holds token := by
  cases s with
  | none =>
      obtain rfl : r = none := reads
      rfl
  | some existing =>
      obtain ⟨json, rfl, parsed⟩ := reads
      simp [Row.holds, Shelf.holds, parsed, Except.toOption]

theorem reads_some (parsed : J.fromStr json = .ok spend) : Reads J (some json) (some spend) :=
  ⟨json, rfl, parsed⟩

/-- The record has been put there, or it will not be touched. -/
theorem Reads.saveIf (reads : Reads J r s) (parsed : J.fromStr json = .ok spend)
    (own : spend.id = id) : Reads J (r.effect J id (.saveIf spend.id json spend.token))
      (s.effect id (.saveIf spend)) := by
  simp only [Row.effect, Shelf.effect, own, reads.holds_eq]
  split
  · exact reads_some parsed
  · exact reads

theorem Reads.removeIf (reads : Reads J r s) :
    Reads J (r.effect J id (.removeIf id token)) (s.effect id (.removeIf id token)) := by
  simp only [Row.effect, Shelf.effect, reads.holds_eq]
  split
  · rfl
  · exact reads

/-- On the way, the row reads as the shelf with or without the effect of the request. -/
def between (J : JsonText) (id : String) (s : Shelf) (request : Client.Ask) :
    Discipline storeInterface Row where
  allow _ _ := True
  keep r := ∃ s', (s' = s ∨ s' = s.effect id request) ∧ Reads J r s'

variable {request : Client.Ask}

theorem Reads.between_here (reads : Reads J r s) : (between J id s request).keep r :=
  ⟨s, .inl rfl, reads⟩

theorem Reads.between_taken (reads : Reads J r (s.effect id request)) :
    (between J id s request).keep r :=
  ⟨_, .inr rfl, reads⟩

/-- **A method is called**, with or without its effect. -/
theorem achieves_funcall {D : Discipline storeInterface Row} (call : StoreCall)
    {post : call.Result → Row → Prop} (allowed : D.allow r call) (here : D.keep r)
    (taken : D.keep (r.effect J id call))
    (answered : ∀ a r', r.Answered J id call (.ok a) r' → D.keep r' ∧ post a r') :
    Fallible.Achieves (row J id) D post (funcall call) r := by
  have either {r' : Row} (left : r' = r ∨ r' = r.effect J id call) : D.keep r' := by
    rcases left with rfl | rfl
    · exact here
    · exact taken
  refine ⟨allowed, here, fun r' => either, fun reply r' answer => ?_⟩
  cases reply with
  | ok a =>
      obtain ⟨kept, after⟩ := answered a r' answer
      refine ⟨kept, ?_⟩
      rintro _ ⟨⟩
      exact after
  | error e =>
      have left : r' = r ∨ r' = r.effect J id call := by
        cases call <;> exact answer
      refine ⟨either left, ?_⟩
      rintro _ ⟨⟩

/-- What is loaded is what the shelf says. -/
theorem achieves_load (reads : Reads J r s) :
    Fallible.Achieves (row J id) (between J id s request) (fun found r' => found = s ∧ r' = r)
      (CallbackSpendStore.load J id) r := by
  rw [CallbackSpendStore.load, Fallible.achieves_bind]
  refine achieves_funcall _ trivial reads.between_here reads.between_here fun found r' answer => ?_
  obtain ⟨same, rfl⟩ : (id = id → found = r) ∧ r' = r := answer
  obtain rfl := same rfl
  refine ⟨reads.between_here, ?_⟩
  cases s with
  | none =>
      obtain rfl : found = none := reads
      rintro _ ⟨⟩
      exact ⟨rfl, rfl⟩
  | some spend =>
      obtain ⟨json, rfl, parsed⟩ := reads
      simp only [parsed]
      rintro _ ⟨⟩
      exact ⟨rfl, rfl⟩

/-- A record is printed, and put under its id. -/
theorem achieves_save (json : J.RoundTrips) (own : spend.id = id)
    (here : (between J id s request).keep r)
    (taken : ∀ text, J.fromStr text = .ok spend → (between J id s request).keep (some text)) :
    Fallible.Achieves (row J id) (between J id s request) (fun _ r' =>
        ∃ text, r' = some text ∧ J.fromStr text = .ok spend)
      (CallbackSpendStore.save J spend) r := by
  subst own
  rw [CallbackSpendStore.save]
  cases printed : J.toString spend.toJson with
  | error e =>
      rintro _ ⟨⟩
  | ok text =>
      have parsed := json.fromStr (.inl printed)
      have put : r.effect J spend.id (.save spend.id text) = some text := if_pos rfl
      refine achieves_funcall (.save spend.id text) trivial here ?_ fun _ r' answer => ?_
      · rw [put]
        exact taken text parsed
      · obtain rfl : r' = some text := answer.trans put
        exact ⟨taken text parsed, text, rfl, parsed⟩

theorem effect_removeIf (s : Shelf) (token : String) :
    s.effect id (.removeIf id token) = if s.holds token = true then none else s := by
  simp [Shelf.effect]

theorem effect_saveIf (own : spend.id = id) (s : Shelf) :
    s.effect id (.saveIf spend) = if s.holds spend.token = true then some spend else s := by
  simp [Shelf.effect, own]

/-- **A record is removed if it may be**, by the object or by the store. -/
theorem achieves_removeIf (reads : Reads J r s) :
    Fallible.Achieves (row J id) (between J id s (.removeIf id token)) (fun removed r' =>
        removed = s.holds token ∧ Reads J r' (s.effect id (.removeIf id token)))
      (CallbackSpendStore.removeIf J id token) r := by
  rw [CallbackSpendStore.removeIf, Fallible.achieves_bind]
  refine achieves_funcall _ trivial reads.between_here reads.between_here
    fun supported r₁ same => ?_
  obtain rfl : r₁ = r := same
  refine ⟨reads.between_here, ?_⟩
  cases supported with
  | true =>
      refine achieves_funcall (.removeIf id token) trivial reads.between_here
        (Reads.between_taken reads.removeIf) fun removed r₂ answer => ?_
      obtain ⟨found, after⟩ : (id = id → removed = r₁.holds J token) ∧
        r₂ = r₁.effect J id (.removeIf id token) := answer
      subst after
      exact ⟨Reads.between_taken reads.removeIf, (found rfl).trans (reads.holds_eq token),
        reads.removeIf⟩
  | false =>
      have taken : s.effect id (.removeIf id token) = _ := effect_removeIf s token
      refine Fallible.achieves_bind.mpr
        ((achieves_load reads).mono fun result r₂ loaded found same => ?_)
      obtain ⟨rfl, rfl⟩ := loaded found same
      cases found with
      | none =>
          rintro _ ⟨⟩
          rw [taken]
          exact ⟨rfl, reads⟩
      | some existing =>
          change _ = if existing.matchesToken token = true then none else _ at taken
          show Fallible.Achieves _ _ (fun removed r' => removed = existing.matchesToken token ∧ _)
            (if existing.matchesToken token = true then _ else _) _
          cases mine : existing.matchesToken token with
          | true =>
              rw [mine, if_pos rfl] at taken
              have gone : r₂.effect J id (.remove id) = none := if_pos rfl
              have removed : Reads J (r₂.effect J id (.remove id))
                  (Shelf.effect id (some existing) (.removeIf id token)) := by
                rw [taken]
                exact gone
              refine Fallible.achieves_bind.mpr (achieves_funcall (.remove id) trivial
                reads.between_here removed.between_taken fun _ r₃ answer => ?_)
              obtain rfl : r₃ = r₂.effect J id (.remove id) := answer
              refine ⟨removed.between_taken, ?_⟩
              rintro _ ⟨⟩
              exact ⟨rfl, removed⟩
          | false =>
              rw [mine, if_neg Bool.false_ne_true] at taken
              rintro _ ⟨⟩
              rw [taken]
              exact ⟨rfl, reads⟩

/-- **A record is overwritten if it may be**, by the object or by the store. -/
theorem achieves_saveIf (json : J.RoundTrips) (own : spend.id = id) (reads : Reads J r s) :
    Fallible.Achieves (row J id) (between J id s (.saveIf spend)) (fun written r' =>
        written = s.holds spend.token ∧ Reads J r' (s.effect id (.saveIf spend)))
      (CallbackSpendStore.saveIf J spend) r := by
  subst own
  rw [CallbackSpendStore.saveIf, Fallible.achieves_bind]
  refine achieves_funcall _ trivial reads.between_here reads.between_here
    fun supported r₁ same => ?_
  obtain rfl : r₁ = r := same
  refine ⟨reads.between_here, ?_⟩
  cases supported with
  | true =>
      cases printed : J.toString spend.toJson with
      | error e =>
          rintro _ ⟨⟩
      | ok text =>
          have saved := reads.saveIf (json.fromStr (.inl printed)) rfl
          refine achieves_funcall (.saveIf spend.id text spend.token) trivial
            reads.between_here saved.between_taken fun written r₂ answer => ?_
          obtain ⟨found, after⟩ : (spend.id = spend.id → written = r₁.holds J spend.token) ∧
            r₂ = r₁.effect J spend.id (.saveIf spend.id text spend.token) := answer
          subst after
          exact ⟨saved.between_taken, (found rfl).trans (reads.holds_eq _), saved⟩
  | false =>
      have taken : s.effect spend.id (.saveIf spend) = _ := effect_saveIf rfl s
      refine Fallible.achieves_bind.mpr
        ((achieves_load reads).mono fun result r₂ loaded found same => ?_)
      obtain ⟨rfl, rfl⟩ := loaded found same
      cases found with
      | none =>
          rintro _ ⟨⟩
          rw [taken]
          exact ⟨rfl, reads⟩
      | some existing =>
          change _ = if existing.matchesToken spend.token = true then some spend else _ at taken
          show Fallible.Achieves _ _
            (fun written r' => written = existing.matchesToken spend.token ∧ _)
            (if existing.matchesToken spend.token = true then _ else _) _
          cases mine : existing.matchesToken spend.token with
          | true =>
              rw [mine, if_pos rfl] at taken
              have put {text : String} (parsed : J.fromStr text = .ok spend) :
                  Reads J (some text) (Shelf.effect spend.id (some existing) (.saveIf spend)) := by
                rw [taken]
                exact reads_some parsed
              refine Fallible.achieves_bind.mpr ((achieves_save json rfl reads.between_here
                fun text parsed => (put parsed).between_taken).mono
                  fun result r₃ saved done same => ?_)
              obtain ⟨text, rfl, parsed⟩ := saved done same
              rintro _ ⟨⟩
              exact ⟨rfl, put parsed⟩
          | false =>
              rw [mine, if_neg Bool.false_ne_true] at taken
              rintro _ ⟨⟩
              rw [taken]
              exact ⟨rfl, reads⟩

/-- **The store serves the requests**, as the shelf says. -/
theorem serves (json : J.RoundTrips) (own : request.key id = id)
    {p : Program storeInterface request.Answer}
    (serving : CallbackSpendStore.serve J request = some p) (reads : Reads J r s) :
    p.Serves (row J id) (shelf id) (Reads J) s request r := by
  cases request with
  | load id' =>
      cases serving
      obtain rfl : id' = id := own
      refine Fallible.upholds_of_achieves (D := between J id' s (.load id')) ?_ reads.between_here
        fun e r' kept => kept
      refine (achieves_load reads).mono fun result r' loaded found same => ?_
      obtain ⟨rfl, rfl⟩ := loaded found same
      exact ⟨found, ⟨fun _ => rfl, rfl⟩, reads⟩
  | save spend =>
      cases serving
      have put : s.effect id (.save spend) = some spend := Shelf.effect_save own s
      have saved {text : String} (parsed : J.fromStr text = .ok spend) :
          Reads J (some text) (s.effect id (.save spend)) := by
        rw [put]
        exact reads_some parsed
      refine Fallible.upholds_of_achieves (D := between J id s (.save spend)) ?_
        reads.between_here fun e r' kept => kept
      refine (achieves_save json own reads.between_here fun text parsed =>
        (saved parsed).between_taken).mono fun result r' after done same => ?_
      obtain ⟨text, rfl, parsed⟩ := after done same
      exact ⟨_, rfl, saved parsed⟩
  | remove id' =>
      cases serving
      obtain rfl : id' = id := own
      have removed : Reads J (r.effect J id' (.remove id')) (s.effect id' (.remove id')) := by
        simp only [Row.effect, Shelf.effect, if_true]
        rfl
      refine Fallible.upholds_of_achieves (D := between J id' s (.remove id')) ?_
        reads.between_here fun e r' kept => kept
      refine achieves_funcall (.remove id') trivial reads.between_here
        removed.between_taken fun _ r' answer => ?_
      obtain rfl : r' = r.effect J id' (.remove id') := answer
      exact ⟨removed.between_taken, _, rfl, removed⟩
  | removeIf id' token =>
      cases serving
      obtain rfl : id' = id := own
      refine Fallible.upholds_of_achieves (D := between J id' s (.removeIf id' token)) ?_
        reads.between_here fun e r' kept => kept
      refine (achieves_removeIf reads).mono fun result r' after removed same => ?_
      obtain ⟨found, left⟩ := after removed same
      exact ⟨_, ⟨fun _ => found, rfl⟩, left⟩
  | saveIf spend =>
      cases serving
      refine Fallible.upholds_of_achieves (D := between J id s (.saveIf spend)) ?_
        reads.between_here fun e r' kept => kept
      refine (achieves_saveIf json own reads).mono fun result r' after written same => ?_
      obtain ⟨found, left⟩ := after written same
      exact ⟨_, ⟨fun _ => found, rfl⟩, left⟩
  | newToken => cases serving
  | submit arkTx checkpointTxs => cases serving
  | finalize arkTxid checkpoints => cases serving

end Serving

/-! ## The client over a Ruby object -/

/-- The row of an id, when the calls for it are served by the store. -/
def called (J : JsonText) (id : String) : Observer Client.interface Row :=
  Handler.observer (CallbackSpendStore.serve J) (row J id)

/-- **The store simulates the shelf of an id.** -/
theorem simulates_shelf {J : JsonText} (json : J.RoundTrips) (id : String) :
    Simulates (fun request : Client.Ask => request.key id = id) (called J id) (shelf id)
      (Reads J) := by
  refine Handler.simulates (fun _ _ => rfl) (fun _ _ => rfl) (fun _ _ _ => .inl rfl) ?_
    fun r s request p own serving reads => serves json own serving reads
  intro s request answer own outside
  cases request with
  | newToken => exact .inl rfl
  | submit arkTx checkpointTxs => exact .inl rfl
  | finalize arkTxid checkpoints => exact .inl rfl
  | _ => cases outside

/-- Calls for an id that are given well-formed PSBTs, one after the other, each up to its end or
killed anywhere. -/
abbrev CalledBack (B : BitcoinLib) (J : JsonText) (id : String) :=
  Sequence (called J id) (Client.Call.program B CallbackSpendStore.spendStore)
    (fun call => call.id = id ∧ call.WellFormed) fun r => r

variable {B : BitcoinLib} {J : JsonText} {id : String} {r r₁ r' : Row}

/-- **What is outstanding is held by a Ruby object too.** If every method that returns has done
what it should, and every method that raises has done that or nothing: wherever the calls for an
id end, its row is none or is read as a record, and as long as a submit is outstanding it is read
as one that holds it. -/
theorem outstanding_in_callbacks (trips : B.PsbtRoundTrips) (json : J.RoundTrips)
    {initial : Shelf} (start : Reads J r initial)
    (named : ∀ record, initial = some record → record.id = id)
    {h : List (Event Client.interface)} {t : Thread Client.interface (Except Error (Option Txid))}
    (run : CalledBack B J id r h t r₁) (killed : Ends (called J id) t r₁ r') :
    ∃ found, Reads J r' found ∧ ∀ sub, Client.outstanding h = some sub →
      ∃ record, found = some record ∧ Client.Holds B sub record := by
  have held : Client.Held B id (initial, none) := ⟨named, by rintro _ ⟨⟩⟩
  have safe (call : Client.Call) (x : Client.Ward) (own : call.id = id ∧ call.WellFormed)
      (kept : (Client.holding B id).keep x) : Safe (Client.warden id) (Client.holding B id)
        (call.program B CallbackSpendStore.spendStore) x := Client.Held.safe_call trips own kept
  obtain ⟨found, reads, held'⟩ := Simulates.keep_of_sequence Client.outstandingNext_noted
    (simulates_shelf json id) (fun _ _ allowed => allowed) safe start held run killed
  exact ⟨found, reads, held'.held⟩

/-- A call is killed while it waits for the answer to its submit. -/
theorem outstanding_in_callbacks_sample :
    ∃ record, Reads Client.Sample.jsonText (some Client.Sample.compact) (some record) ∧
      Client.Holds .reference Client.Sample.submitTx record := by
  let J := Client.Sample.jsonText
  have printed : J.toString Client.Sample.pending.toJson = .ok Client.Sample.compact :=
    if_pos (PendingSpend.ofJson_toJson _)
  have returned (call : StoreCall) (result : call.Result) : Fallible.Returns (funcall call)
      [.sent call, .answered call (.ok result)] result :=
    Interaction.Returns.map (Interaction.Returns.request (I := storeInterface) call (.ok result)) _
  have loaded : Fallible.Returns (CallbackSpendStore.load J "trade")
      ([.sent (.load "trade"), .answered (.load "trade") (.ok none)] ++ []) none :=
    (returned (.load "trade") none).bind (.stop _)
  have saved : Fallible.Returns (CallbackSpendStore.save J Client.Sample.pending)
      [.sent (.save "trade" Client.Sample.compact),
        .answered (.save "trade" Client.Sample.compact) (.ok ())] () := by
    rw [CallbackSpendStore.save, printed]
    exact returned (.save "trade" Client.Sample.compact) ()
  have load : (called J "trade").answered none (.load "trade") (.ok none) none :=
    ⟨_, loaded, .sent _ (.answered _ ⟨fun _ => rfl, rfl⟩ (.nil _))⟩
  have put : (row J "trade").answered none (.save "trade" Client.Sample.compact) (.ok ())
      (some Client.Sample.compact) := by
    simp only [row, Row.Answered, Row.effect, if_true]
  have save : (called J "trade").answered none (.save Client.Sample.pending) (.ok ())
      (some Client.Sample.compact) := ⟨_, saved, .sent _ (.answered _ put (.nil _))⟩
  obtain ⟨t, emits⟩ := Client.Sample.emits_submitted CallbackSpendStore.spendStore
  have run : CalledBack .reference J "trade" none Client.Sample.submitted t
      (some Client.Sample.compact) :=
    .first ⟨rfl, Client.Sample.wellFormed_call⟩ emits
      (.sent _ (.answered _ load (.sent _ (.answered _ rfl (.sent _
        (.answered _ save (.sent _ (.nil _))))))))
  have start : Reads J none none := rfl
  obtain ⟨found, reads, held⟩ := outstanding_in_callbacks BitcoinLib.psbtRoundTrips_reference
    Client.Sample.roundTrips_jsonText start nofun run (.stop _ _)
  obtain ⟨record, rfl, holds⟩ := held _ Client.Sample.outstanding_submitted
  exact ⟨record, reads, holds⟩

end Ruby
end ArkadeEscrow
