import ArkadeEscrow.Client.Interface
import ArkadeEscrow.Interaction.Sequence

/-!
# The record of one id

A shelf is what the store holds under one id. An operation on another id leaves it as it is.
One that fails, or whose answer never arrives, may or may not have taken effect: a backend
can report an error after its write is in place. Nothing but the requests that the observer
sees touches the shelf.
-/

set_option autoImplicit false

namespace ArkadeEscrow
namespace Client

open Interaction

abbrev Shelf := Option PendingSpend

namespace Shelf

/-- There is a record that the attempt with this token may touch. -/
def holds (s : Shelf) (token : String) : Bool := s.any fun existing => existing.matchesToken token

/-- A store operation takes effect. -/
def effect (id : String) (s : Shelf) : Ask → Shelf
  | .save spend => if spend.id = id then some spend else s
  | .saveIf spend => if spend.id = id ∧ s.holds spend.token = true then some spend else s
  | .remove id' => if id' = id then none else s
  | .removeIf id' token => if id' = id ∧ s.holds token = true then none else s
  | _ => s

/-- A record is put under its id. -/
theorem effect_save {id : String} {spend : PendingSpend} (own : spend.id = id) (s : Shelf) :
    s.effect id (.save spend) = some spend := if_pos own

/-- Which answers the store gives, and what they leave. -/
def Answered (id : String) (s : Shelf) : (request : Ask) → request.Answer → Shelf → Prop
  | .load id', .ok found, s' => (id' = id → found = s) ∧ s' = s
  | .save spend, .ok _, s' => s' = s.effect id (.save spend)
  | .remove id', .ok _, s' => s' = s.effect id (.remove id')
  | .saveIf spend, .ok written, s' =>
      (spend.id = id → written = s.holds spend.token) ∧ s' = s.effect id (.saveIf spend)
  | .removeIf id' token, .ok cleared, s' =>
      (id' = id → cleared = s.holds token) ∧ s' = s.effect id (.removeIf id' token)
  | request, _, s' => s' = s ∨ s' = s.effect id request

/-- An answer leaves the shelf as it was, or with the effect of the request. -/
theorem Answered.cases {id : String} {s s' : Shelf} {request : Ask} {answer : request.Answer}
    (answered : s.Answered id request answer s') : s' = s ∨ s' = s.effect id request := by
  cases request with
  | newToken => exact answered
  | submit arkTx checkpointTxs => exact answered
  | finalize arkTxid signedCheckpointTxs => exact answered
  | load id' =>
      cases answer with
      | ok found => exact .inl answered.2
      | error e => exact answered
  | save spend =>
      cases answer with
      | ok done => exact .inr answered
      | error e => exact answered
  | remove id' =>
      cases answer with
      | ok done => exact .inr answered
      | error e => exact answered
  | saveIf spend =>
      cases answer with
      | ok written => exact .inr answered.2
      | error e => exact answered
  | removeIf id' token =>
      cases answer with
      | ok cleared => exact .inr answered.2
      | error e => exact answered

end Shelf

/-- The observer of the shelf of an id. -/
def shelf (id : String) : Observer interface Shelf where
  noted s _ := s
  sent s _ := s
  answered := Shelf.Answered id
  lost s request s' := s' = s ∨ s' = s.effect id request

/-- A request is permitted when it is allowed and the shelf is kept with and without its
effect. -/
theorem permits_shelf {id : String} {D : Discipline interface Shelf} {request : Ask}
    {rest : request.Answer → Shelf → Prop} {s : Shelf} (allowed : D.allow s request)
    (here : D.keep s) (taken : D.keep (s.effect id request))
    (answered : ∀ answer s', s.Answered id request answer s' → rest answer s') :
    Permits (shelf id) D request rest s := by
  refine ⟨allowed, here, ?_, fun answer s' reply => ⟨?_, answered answer s' reply⟩⟩
  · rintro s' (rfl | rfl)
    · exact here
    · exact taken
  · rcases Shelf.Answered.cases reply with rfl | rfl
    · exact here
    · exact taken

end Client
end ArkadeEscrow
