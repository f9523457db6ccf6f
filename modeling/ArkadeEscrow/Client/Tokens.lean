import ArkadeEscrow.Client.Attempt
import ArkadeEscrow.Client.Shelf
import ArkadeEscrow.Interaction.Pool
import ArkadeEscrow.Reference

/-!
# Attempts that run at the same time

Any number of calls for one id run interleaved over a store whose operations are atomic. The
conditional operations leave a record with another attempt's token alone. The upgrade and the
save that is tried once more are not conditional: `tokens_protect_iff` says that they are the
only writes that replace such a record.
-/

set_option autoImplicit false

namespace ArkadeEscrow
namespace Client

open Interaction Program
open Service (Follows)

variable {B : BitcoinLib} {id : String}

/-- The token under which an attempt writes: that of the first record it has written, or that
of the record it has taken up. -/
def learnToken (own : Option String) : (request : Ask) → request.Answer → Option String
  | .load _, .ok (some pending) => own.or (some pending.token)
  | .save spend, .ok _ => own.or (some spend.token)
  | _, _ => own

/-- A backend with atomic operations for everything. -/
def atomicStore : SpendStore := ⟨true, true⟩

/-- The calls for an id over one record, each with its token. -/
def pool (B : BitcoinLib) (id : String) :
    Pool interface {call : Call // call.id = id} Shelf (Option String)
      (Except Error (Option Txid)) where
  program call := call.1.program B atomicStore
  observer := shelf id
  begun := none
  learn := learnToken

/-- The record and the calls, numbered by `ι`. -/
abbrev PoolWorld (ι : Type) :=
  Pool.World interface ι Shelf (Option String) (Except Error (Option Txid))

/-- A step of the pool. -/
abbrev Moment (ι : Type) :=
  Pool.Moment interface ι Shelf (Option String) (Except Error (Option Txid))

variable {ι : Type}

/-- If the attempt that moves has written its first record, it leaves a record with another,
non-empty token as it is. -/
def Protected (m : Moment ι) : Prop :=
  ∀ t own record, m.before.thread m.actor = some (t, some own) → m.before.shared = some record →
    record.token ≠ "" → record.token ≠ own → m.after.shared = some record

/-- An unconditional save of an upgraded record takes effect where the record of another attempt
is stored. -/
def Overruns (m : Moment ι) : Prop :=
  ∃ spend next own record, m.before.thread m.actor = some (.waiting (.save spend) next, some own) ∧
    spend.stage = .submitted ∧ m.before.shared = some record ∧ record.token ≠ "" ∧
    record.token ≠ own ∧ m.after.shared = some spend

/-! ## What is asked under a token -/

/-- A request of an attempt with this token. -/
def UnderToken (token : String) : Ask → Prop
  | .save spend => spend.token = token ∧ spend.stage = .submitted
  | .saveIf spend => spend.token = token
  | .removeIf _ token' => token' = token
  | .remove _ => False
  | .newToken | .load _ | .submit _ _ | .finalize _ _ => True

/-- An attempt with a token asks under it. -/
def tokened : Discipline interface (Option String) where
  allow own request := ∀ token, own = some token → UnderToken token request
  keep _ := True

theorem learnToken_some (token : String) (request : Ask) (answer : request.Answer) :
    learnToken (some token) request answer = some token := by
  unfold learnToken
  split <;> rfl

theorem permits_memory {own : Option String} {request : Ask}
    {rest : request.Answer → Option String → Prop} (allowed : tokened.allow own request)
    (answered : ∀ answer, rest answer (learnToken own request answer)) :
    Permits (pool B id).memory tokened request rest own := by
  refine ⟨allowed, trivial, by rintro _ ⟨⟩, ?_⟩
  rintro answer _ rfl
  exact ⟨trivial, answered answer⟩

theorem permits_token {token : String} (request : Ask) (under : UnderToken token request) :
    Permits (pool B id).memory tokened request (fun _ own => own = some token) (some token) := by
  refine permits_memory ?_ fun answer => learnToken_some token request answer
  rintro _ ⟨⟩
  exact under

/-- A program that asks under one token. -/
theorem safe_of_token {token : String} {α : Type} {p : Program interface α}
    (confined : Confined (UnderToken token) p) :
    Safe (pool B id).memory tokened p (some token) := by
  refine confined.upholds (J := fun own => own = some token) ?_ (fun _ _ _ => trivial) rfl
  rintro request _ under rfl
  exact permits_token request under

theorem confined_finalize_token (pending : PendingSpend) (arkTxid : Txid)
    (finalCheckpoints : List Psbt) :
    Confined (UnderToken pending.token)
      (finalizeAndRecord atomicStore pending arkTxid finalCheckpoints).run :=
  confined_finalizeAndRecord_of trivial (confined_saveIf_own rfl rfl)

/-! ## The calls -/

theorem safe_submit_token {pending : PendingSpend} {arkTx : Psbt}
    {unsignedCheckpoints : List Psbt} {partyCps : List (List Psbt)} {firstAttempt : Bool} :
    Safe (pool B id).memory tokened
      (submitAndFinalize B atomicStore pending arkTx unsignedCheckpoints partyCps
        firstAttempt).run (some pending.token) := by
  refine safe_submitAndFinalize ((permits_token (.submit arkTx unsignedCheckpoints) trivial).mono
    fun outcome own same => ?_)
  subst same
  refine ⟨fun e _ => ?_, fun reply canonical _ _ => ⟨trivial, fun finalCheckpoints _ => ?_⟩⟩
  · exact safe_of_token (confined_submitFailed_of fun _ _ => confined_removeIf_own rfl rfl)
  · have finalizes := confined_finalize_token (upgradedRecord B pending canonical finalCheckpoints)
      (B.computeTxid arkTx.unsignedTx) finalCheckpoints
    exact safe_of_token (confined_upgradeAndFinalize_of ⟨rfl, rfl⟩ finalizes)

theorem safe_resume_token (pending : PendingSpend) :
    Safe (pool B id).memory tokened (resumeRecorded B atomicStore pending).run
      (some pending.token) := by
  refine safe_resumeRecorded ?_ ?_
  · intro evidence canonical _ _
    exact ⟨trivial, fun arkTxid finalCheckpoints _ => safe_of_token (confined_finalize_token ..)⟩
  · intro arkTx unsignedCheckpoints partyCps _
    exact safe_submit_token

/-- **A call asks under its token**, once it has one. -/
theorem safe_call_token (call : Call) :
    Safe (pool B id).memory tokened (call.program B atomicStore) none := by
  refine safe_call (permits_memory (by rintro _ ⟨⟩) fun found => ⟨?_, ?_⟩)
  · rintro pending rfl _
    exact safe_resume_token pending
  · rintro _ arkTx unsignedCheckpoints partyCps _ rfl _
    refine permits_memory (by rintro _ ⟨⟩) fun bytes => ?_
    refine permits_memory (by rintro _ ⟨⟩) ?_
    rintro _ rfl
    exact safe_submit_token

/-! ## Runs of the pool -/

variable (id) in
/-- **What a request under a token does to a foreign record**: nothing, unless it is the save of
an upgraded record. -/
theorem UnderToken.effect {token : String} {request : Ask} (under : UnderToken token request)
    {record : PendingSpend} (foreign : record.token ≠ "" ∧ record.token ≠ token) :
    Shelf.effect id (some record) request = some record ∨
      ∃ spend, request = .save spend ∧ spend.stage = .submitted ∧
        Shelf.effect id (some record) request = some spend := by
  have mismatch : Shelf.holds (some record) token = false := by
    simp [Shelf.holds, PendingSpend.matchesToken, foreign.1, foreign.2]
  cases request with
  | save spend =>
      rw [Shelf.effect]
      split
      · exact .inr ⟨spend, rfl, under.2, rfl⟩
      · exact .inl rfl
  | saveIf spend =>
      obtain rfl : spend.token = token := under
      exact .inl (by simp [Shelf.effect, mismatch])
  | removeIf id' token' =>
      obtain rfl : token' = token := under
      exact .inl (by simp [Shelf.effect, mismatch])
  | remove id' => exact under.elim
  | newToken => exact .inl rfl
  | load id' => exact .inl rfl
  | submit arkTx checkpointTxs => exact .inl rfl
  | finalize arkTxid signedCheckpointTxs => exact .inl rfl

variable [DecidableEq ι]

/-- **A step**: a foreign record is left alone exactly when no save of an upgraded record takes
effect there. -/
theorem protected_iff {i : ι} {before after : PoolWorld ι}
    (step : (pool B id).Step i before after) (ordered : (pool B id).InOrder tokened before) :
    Protected ⟨i, before, after⟩ ↔ ¬ Overruns ⟨i, before, after⟩ := by
  constructor
  · rintro leaves ⟨spend, next, own, record, present, -, stored, named, other, taken⟩
    have kept := leaves _ _ _ present stored named other
    have under := (ordered _ _ _ present).2 _ _ rfl own rfl
    obtain rfl : spend = record := Option.some.inj (taken.symm.trans kept)
    exact other under.1
  · intro spares t own record present stored named other
    have taken {request : Ask} {next : request.Answer → Program interface _} {s' : Shelf}
        (waiting : t = .waiting request next) (result : after.shared = s')
        (effect : s' = before.shared ∨ s' = before.shared.effect id request) :
        after.shared = some record := by
      subst waiting
      rw [show before.shared = some record from stored] at effect
      have under := (ordered _ _ _ present).2 _ _ rfl own rfl
      rcases effect with rfl | rfl
      · exact result
      · rcases under.effect id ⟨named, other⟩ with same | ⟨spend, rfl, stage, same⟩
        · exact result.trans same
        · exact (spares ⟨spend, next, own, record, present, stage, stored, named, other,
            result.trans same⟩).elim
    cases step with
    | start c free =>
        rw [free] at present
        cases present
    | note here => exact stored
    | send here => exact stored
    | receive answer here reply =>
        rw [here] at present
        cases present
        exact taken rfl rfl (Shelf.Answered.cases reply)
    | stop here => exact stored
    | lose here lost =>
        rw [here] at present
        cases present
        exact taken rfl rfl lost

/-- **When tokens protect the records of other attempts.** In every run of any number of calls
on an id, interleaved in any order over an atomic store, no attempt that has written its first
record replaces or deletes a record with another attempt's token, if and only if no save of an
upgraded record takes effect while such a record is stored. -/
theorem tokens_protect_iff {w w' : PoolWorld ι} {moments : List (Moment ι)}
    (idle : ∀ i, w.thread i = none)
    (run : (pool B id).Run w moments w') :
    (∀ m ∈ moments, Protected m) ↔ ∀ m ∈ moments, ¬ Overruns m := by
  have ordered := (run.inOrder (D := tokened) (fun c => ⟨trivial, safe_call_token c.1⟩) idle).2
  exact forall₂_congr fun m member =>
    protected_iff (ordered m member).1 (ordered m member).2

/-! ## Two fresh calls that overlap -/

namespace Overlap

noncomputable section

def cp : Psbt := Sample.checkpoint 1 ∅

def arkTx : Psbt := Sample.arkTx [cp]

def call : {call : Call // call.id = "escrow"} := ⟨.spend "escrow" arkTx [cp] [[cp]], rfl⟩

def program : Program interface (Except Error (Option Txid)) :=
  call.1.program BitcoinLib.reference atomicStore

def record (bytes : Vector UInt8 16) : PendingSpend :=
  freshRecord BitcoinLib.reference "escrow" arkTx [cp] [[cp]] (PendingSpend.newToken bytes)

/-- The record with the server's copies. -/
def upgraded (bytes : Vector UInt8 16) (finalCheckpoints : List Psbt) : PendingSpend :=
  upgradedRecord BitcoinLib.reference (record bytes) (Sample.cosigned [cp]) finalCheckpoints

/-- Two draws for the token. -/
def mine : Vector UInt8 16 := Vector.replicate 16 0

def theirs : Vector UInt8 16 := Vector.replicate 16 1

theorem tokens_differ : PendingSpend.newToken theirs ≠ PendingSpend.newToken mine := by decide

def looks (bytes : Vector UInt8 16) : List (Event interface) :=
  [.sent (.load "escrow"), .answered (.load "escrow") (.ok none), .sent .newToken,
    .answered .newToken bytes]

def saves (bytes : Vector UInt8 16) : List (Event interface) :=
  [.sent (.save (record bytes)), .answered (.save (record bytes)) (.ok ())]

def submits : List (Event interface) :=
  submitTrace arkTx [cp] ⟨Sample.cosigned [cp], [cp]⟩ (Sample.cosigned [cp])

theorem follows_looks (bytes : Vector UInt8 16) :
    Follows (shelf "escrow") none (looks bytes) none :=
  .sent _ <| .answered _ ⟨fun _ => rfl, rfl⟩ <| .sent _ <| .answered _ (.inl rfl) <| .nil _

theorem follows_saves (bytes : Vector UInt8 16) (s : Shelf) :
    Follows (shelf "escrow") s (saves bytes) (some (record bytes)) :=
  .sent _ <| .answered _ (Shelf.effect_save rfl s).symm <| .nil _

theorem follows_submits (s : Shelf) : Follows (shelf "escrow") s submits s :=
  .sent _ <| .answered _ (.inl rfl) <| .noted _ <| .nil _

theorem valid : validateCheckpoints [cp] [[cp]] = .ok () := validateCheckpoints_self (by simp)

/-- A call that is about to save its first record. -/
theorem exists_looked (bytes : Vector UInt8 16) :
    ∃ next, Evolves program (looks bytes) (.running (.ask (.save (record bytes)) next)) := by
  have whole : Emits (call.1.program BitcoinLib.reference atomicStore) _ :=
    emits_call_fresh bytes valid (.nil _)
  obtain ⟨t, whole⟩ : Emits program (looks bytes ++ saves bytes) := whole
  exact whole.asking rfl

/-- A call that has saved its first record, and will save the upgraded one when the reply to
its submission arrives. -/
theorem exists_replied (bytes : Vector UInt8 16) :
    ∃ finalCheckpoints next next',
      Evolves program (looks bytes ++ saves bytes) (.running (.ask (.submit arkTx [cp]) next)) ∧
      Evolves (.ask (I := interface) (.submit arkTx [cp]) next) submits
        (.running (.ask (.save (upgraded bytes finalCheckpoints)) next')) := by
  obtain ⟨finalCheckpoints, merged⟩ := exists_merges_self (B := BitcoinLib.reference) [cp]
    (by simp [cp, Sample.checkpoint]) (Sample.cosigned [cp])
  have verified : Spend.verifyServerArkTxSig BitcoinLib.reference arkTx
      (SubmitReply.mk (Sample.cosigned [cp]) [cp]).signedArkTx = .ok (Sample.cosigned [cp]) :=
    Sample.verified_cosigned cp []
  have whole : Emits (call.1.program BitcoinLib.reference atomicStore) _ :=
    emits_call_fresh bytes valid
      (emits_upgrade (passes_freshRecord verified merged) emits_upgradeAndFinalize)
  obtain ⟨t, whole⟩ : Emits program ((looks bytes ++ saves bytes) ++ (submits ++
    upgradeTrace (upgraded bytes finalCheckpoints)
      (BitcoinLib.reference.computeTxid arkTx.unsignedTx) finalCheckpoints)) := whole
  obtain ⟨next, saved⟩ := whole.asking rfl
  obtain ⟨next', replied⟩ := (saved.rest whole).asking rfl
  exact ⟨finalCheckpoints, next, next', saved, replied⟩

/-- A definitive rejection. -/
def rejection : Error := ⟨[.status ⟨.invalidArgument, "invalid checkpoint"⟩]⟩

def refused : List (Event interface) :=
  [.sent (.submit arkTx [cp]), .answered (.submit arkTx [cp]) (.finished (.error rejection))]

/-- The removal that the token guards. -/
def clears (bytes : Vector UInt8 16) : Ask := .removeIf "escrow" (PendingSpend.newToken bytes)

theorem follows_refused (s : Shelf) : Follows (shelf "escrow") s refused s :=
  .sent _ <| .answered _ (.inl rfl) <| .nil _

/-- A call that has saved its first record, and will remove it when it hears that the submission
is rejected. -/
theorem exists_refused (bytes : Vector UInt8 16) :
    ∃ next next',
      Evolves program (looks bytes ++ saves bytes) (.running (.ask (.submit arkTx [cp]) next)) ∧
      Evolves (.ask (I := interface) (.submit arkTx [cp]) next) refused
        (.running (.ask (clears bytes) next')) := by
  have definitive : isDefinitiveRejection rejection = true := by decide
  have whole : Emits (call.1.program BitcoinLib.reference atomicStore) _ :=
    emits_call_fresh bytes valid (emits_rejected rfl definitive)
  obtain ⟨t, whole⟩ : Emits program ((looks bytes ++ saves bytes) ++
    (refused ++ ([.sent (clears bytes)] : List (Event interface)))) := whole
  obtain ⟨next, saved⟩ := whole.asking rfl
  obtain ⟨next', cleared⟩ := (saved.rest whole).asking rfl
  exact ⟨next, next', saved, cleared⟩

/-- No upgraded record is stored. -/
def Unupgraded (s : Shelf) : Prop := ∀ spend, s = some spend → spend.stage ≠ .submitted

theorem unupgraded_record (bytes : Vector UInt8 16) : Unupgraded (some (record bytes)) := by
  rintro _ ⟨⟩
  exact nofun

/-- Only the first record is saved. -/
def SavesFirst (events : List (Event interface)) : Prop :=
  ∀ request answer, .answered request answer ∈ events →
    ∀ s, Unupgraded s → Unupgraded (Shelf.effect "escrow" s request)

theorem unupgraded_of_follows {events : List (Event interface)} {s s' : Shelf}
    (follows : Follows (shelf "escrow") s events s') (first : SavesFirst events)
    (here : Unupgraded s) : Unupgraded s' := by
  induction follows with
  | nil s => exact here
  | noted remark _ ih =>
      exact ih (fun request answer member => first request answer (.tail _ member)) here
  | sent request _ ih =>
      exact ih (fun request answer member => first request answer (.tail _ member)) here
  | @answered s s₁ s' request answer events reply _ ih =>
      refine ih (fun request answer member => first request answer (.tail _ member)) ?_
      rcases Shelf.Answered.cases reply with rfl | rfl
      · exact here
      · exact first request answer (.head _) s here

theorem SavesFirst.part {done events : List (Event interface)} (part : done <+: events)
    (first : SavesFirst events) : SavesFirst done :=
  fun request answer member => first request answer (part.subset member)

theorem savesFirst_looks (bytes : Vector UInt8 16) : SavesFirst (looks bytes) := by
  intro request answer member s here
  simp only [looks, List.mem_cons, List.not_mem_nil, or_false, reduceCtorEq, false_or] at member
  rcases member with same | same
  · cases same
    exact here
  · cases same
    exact here

theorem savesFirst_saves (bytes : Vector UInt8 16) : SavesFirst (saves bytes) := by
  intro request answer member s here
  simp only [saves, List.mem_cons, List.not_mem_nil, or_false, reduceCtorEq, false_or] at member
  cases member
  have saved : s.effect "escrow" (.save (record bytes)) = some (record bytes) :=
    Shelf.effect_save rfl s
  rw [saved]
  exact unupgraded_record bytes

theorem savesFirst_refused : SavesFirst refused := by
  intro request answer member s here
  simp only [refused, List.mem_cons, List.not_mem_nil, or_false, reduceCtorEq, false_or] at member
  cases member
  exact here

/-- The token that a call remembers. -/
def token (bytes : Vector UInt8 16) : Option String := some (PendingSpend.newToken bytes)

/-- One call moves on, and saves no more than its first record. -/
theorem advance {p : Program interface (Except Error (Option Txid))}
    {events : List (Event interface)} {t : Thread interface (Except Error (Option Txid))}
    (run : Evolves p events t) (i : Bool) (w : PoolWorld Bool) {own : Option String} {s' : Shelf}
    (present : w.thread i = some (.running p, own))
    (follows : Follows (shelf "escrow") w.shared events s') (first : SavesFirst events)
    (here : Unupgraded w.shared) :
    (pool BitcoinLib.reference "escrow").Reaches Unupgraded w
      (w.put i s' (some (t, (pool BitcoinLib.reference "escrow").recollect own events))) :=
  Pool.reaches_of_evolves run present follows fun _ _ part follows =>
    unupgraded_of_follows follows (SavesFirst.part part first) here

/-- Two calls have found no record. The first one, `true`, has saved its record and is about to
submit, and the second one has put its record in the place of it. -/
theorem exists_overlap
    {next : (Outcome SubmitReply) → Program interface (Except Error (Option Txid))}
    (saved : Evolves program (looks mine ++ saves mine)
      (.running (.ask (.submit arkTx [cp]) next))) :
    ∃ w, (pool BitcoinLib.reference "escrow").Reaches Unupgraded ⟨none, fun _ => none⟩ w ∧
      w.shared = some (record theirs) ∧
      w.thread true = some (.running (.ask (.submit arkTx [cp]) next), token mine) := by
  let P := pool BitcoinLib.reference "escrow"
  obtain ⟨next', looked'⟩ := exists_looked theirs
  have empty : Unupgraded none := nofun
  let w₀ : PoolWorld Bool := ⟨none, fun _ => none⟩
  let w₁ := w₀.put false none (some (.running program, none))
  let w₂ := w₁.put false none (some (.running (.ask (.save (record theirs)) next'), none))
  let w₃ := w₂.put true none (some (.running program, none))
  let w₄ := w₃.put true (some (record mine))
    (some (.running (.ask (.submit arkTx [cp]) next), token mine))
  let w₅ := w₄.put false (some (record theirs)) (some (.running (next' (.ok ())), token theirs))
  have reach₁ : P.Reaches Unupgraded w₀ w₁ := (Pool.Step.start w₀ call rfl).reaches empty
  have reach₂ : P.Reaches Unupgraded w₁ w₂ := advance looked' false w₁
    (Pool.World.put_thread_self ..) (follows_looks theirs) (savesFirst_looks theirs) empty
  have reach₃ : P.Reaches Unupgraded w₂ w₃ := (Pool.Step.start w₂ call rfl).reaches empty
  have reach₄ : P.Reaches Unupgraded w₃ w₄ := advance saved true w₃
    (Pool.World.put_thread_self ..)
    (follows_append.mpr ⟨none, follows_looks mine, follows_saves mine none⟩)
    (fun request answer member => (List.mem_append.mp member).elim
      (savesFirst_looks mine request answer) (savesFirst_saves mine request answer)) empty
  have saves' : Evolves _ (saves theirs) (.running (next' (.ok ()))) :=
    Evolves.exchange (I := interface) (.save (record theirs)) (.ok ()) (.stop _)
  have reach₅ : P.Reaches Unupgraded w₄ w₅ := advance saves' false w₄ rfl
    (follows_saves theirs _) (savesFirst_saves theirs) (unupgraded_record mine)
  exact ⟨w₅, (((reach₁.trans reach₂).trans reach₃).trans reach₄).trans reach₅, rfl, rfl⟩

end

end Overlap

open Overlap

/-- The submission of the first call is rejected. Its removal meets the record of the second
call, and leaves it. -/
theorem tokens_protect_sample :
    ∃ (w w' : PoolWorld Bool) (moments : List (Moment Bool)),
      (pool BitcoinLib.reference "escrow").Run w moments w' ∧
      (∃ m ∈ moments, ∃ next,
        m.before.thread m.actor = some (.waiting (clears mine) next, token mine) ∧
        m.before.shared = some (record theirs) ∧
        m.after.thread m.actor = some (.running (next (.ok false)), token mine) ∧
        m.after.shared = some (record theirs)) ∧
      ∀ m ∈ moments, Protected m := by
  let P := pool BitcoinLib.reference "escrow"
  obtain ⟨next, next', saved, cleared⟩ := exists_refused mine
  obtain ⟨w, overlap, stored, present⟩ := exists_overlap saved
  have theirs' : Unupgraded w.shared := stored ▸ unupgraded_record theirs
  let w₁ := w.put true w.shared (some (.running (.ask (clears mine) next'), token mine))
  let w₂ := w₁.put true w.shared (some (.waiting (clears mine) next', token mine))
  have reach₁ : P.Reaches Unupgraded w w₁ :=
    advance cleared true w present (follows_refused _) savesFirst_refused theirs'
  have reach₂ : P.Reaches Unupgraded w₁ w₂ :=
    (Pool.Step.send w₁ (Pool.World.put_thread_self ..)).reaches theirs'
  obtain ⟨moments, run, unupgraded⟩ := (overlap.trans reach₁).trans reach₂
  have other : Shelf.holds w₂.shared (PendingSpend.newToken mine) = false := by
    show Shelf.holds w.shared _ = false
    rw [stored]
    decide
  have left : P.observer.answered w₂.shared (clears mine) (.ok false) w.shared := by
    refine ⟨fun _ => other.symm, ?_⟩
    rw [Shelf.effect, if_neg]
    · rfl
    · simp [other]
  have step := Pool.Step.receive (P := P) w₂ _ (Pool.World.put_thread_self ..) left
  have run := run.snoc step
  refine ⟨_, _, _, run, ⟨_, List.mem_append_right _ (List.mem_singleton_self _), next',
      Pool.World.put_thread_self .., stored, Pool.World.put_thread_self .., stored⟩,
    (tokens_protect_iff (fun _ => rfl) run).mpr ?_⟩
  rintro m member ⟨spend, _, _, _, _, stage, _, _, _, taken⟩
  rcases List.mem_append.mp member with member | member
  · exact unupgraded m member spend taken stage
  · rw [List.mem_singleton.mp member] at taken
    exact theirs' spend taken stage

/-- Two fresh calls have both found no record. When the reply to the first one arrives, its
upgrade replaces the record that the second one has written. -/
theorem tokens_not_always_protect :
    ¬ ∀ (B : BitcoinLib) (id : String) (w w' : PoolWorld Bool) (moments : List (Moment Bool)),
      (∀ i, w.thread i = none) → (pool B id).Run w moments w' → ∀ m ∈ moments, Protected m := by
  intro always
  let P := pool BitcoinLib.reference "escrow"
  obtain ⟨finalCheckpoints, next, next', saved, replied⟩ := exists_replied mine
  obtain ⟨w, ⟨first, run, _⟩, stored, present⟩ := exists_overlap saved
  let w₁ := w.put true w.shared
    (some (.running (.ask (.save (upgraded mine finalCheckpoints)) next'), token mine))
  let w₂ := w₁.put true w.shared
    (some (.waiting (.save (upgraded mine finalCheckpoints)) next', token mine))
  obtain ⟨second, run', _⟩ : P.Reaches (fun _ => True) w w₁ :=
    Pool.reaches_of_evolves replied present (follows_submits _) fun _ _ _ _ => trivial
  have run := (run.trans run').snoc (Pool.Step.send w₁ (Pool.World.put_thread_self ..))
  have taken : P.observer.answered w₂.shared (.save (upgraded mine finalCheckpoints)) (.ok ())
      (some (upgraded mine finalCheckpoints)) := (Shelf.effect_save rfl _).symm
  have step := Pool.Step.receive (P := P) w₂ _ (Pool.World.put_thread_self ..) taken
  have kept := always BitcoinLib.reference "escrow" _ _ _ (fun _ => rfl) (run.snoc step) _
    (List.mem_append_right _ (List.mem_singleton_self _))
  have same : some (upgraded mine finalCheckpoints) = some (record theirs) :=
    kept _ _ _ (Pool.World.put_thread_self ..) stored (PendingSpend.newToken_ne_empty _)
      tokens_differ
  exact tokens_differ (congrArg PendingSpend.token (Option.some.inj same)).symm

end Client
end ArkadeEscrow
