import ArkadeEscrow.Client.Attempt
import ArkadeEscrow.Client.Shelf
import ArkadeEscrow.Reference

/-!
# The recorded stage

A chronicle lists the stages that have been stored under an id. They only advance, and no
message follows a finalized record, unless the store has misled the client in one call: it
reported an error for the upgrade, then an error for a mark that was in place all the same,
and then took the upgrade that is saved once more. `stages_forward_iff` says that this is the
only way.
-/

set_option autoImplicit false

namespace ArkadeEscrow

/-- How far a stage is. -/
def SpendStage.rank : SpendStage → Nat
  | .submitting => 0
  | .submitted => 1
  | .finalized => 2

theorem SpendStage.rank_le_two (stage : SpendStage) : stage.rank ≤ 2 := by
  cases stage <;> simp [rank]

namespace Client

open Interaction Program
open Service (Follows)

variable {B : BitcoinLib} {store : SpendStore}

/-! ## Chronicles -/

/-- What has been stored and sent under an id, and how the store has answered the call in
progress. -/
structure Chronicle where
  /-- The stages that have been stored, the latest first. -/
  stages : List SpendStage
  /-- A message was sent after a finalized record had been stored. -/
  late : Bool
  /-- The store has reported an error for the upgrade. -/
  unsaved : Bool
  /-- The store has reported an error for a finalized record that is in place. -/
  marked : Bool
  /-- After both, the store has taken a record at stage `submitted`. -/
  relapsed : Bool

namespace Chronicle

/-- Nothing has happened. -/
def empty : Chronicle := ⟨[], false, false, false, false⟩

/-- A call begins. -/
def begin (c : Chronicle) : Chronicle := { c with unsaved := false, marked := false }

/-- What is stored now. -/
def seen (c : Chronicle) (s : Shelf) : Chronicle :=
  { c with stages := (s.map PendingSpend.stage).toList ++ c.stages }

/-- A save at stage `submitted` is in place. -/
def written (c : Chronicle) : Ask → Shelf → Chronicle
  | .save spend, s' =>
      { c with relapsed := c.relapsed ||
        (c.unsaved && c.marked && decide (spend.stage = .submitted ∧ s' = some spend)) }
  | _, _ => c

/-- The store has reported an error. -/
def failed (c : Chronicle) : Ask → Shelf → Chronicle
  | .save spend, s' | .saveIf spend, s' =>
      { c with
        unsaved := c.unsaved || decide (spend.stage = .submitted)
        marked := c.marked || decide (spend.stage = .finalized ∧ s' = some spend) }
  | _, _ => c

/-- A request has been answered. -/
def answered (c : Chronicle) : (request : Ask) → request.Answer → Shelf → Chronicle
  | .save spend, .error _, s' => ((c.written (.save spend) s').failed (.save spend) s').seen s'
  | .saveIf spend, .error _, s' => (c.failed (.saveIf spend) s').seen s'
  | request, _, s' => (c.written request s').seen s'

/-- The stages have only advanced, and no message was late. -/
def Forward (c : Chronicle) : Prop :=
  c.stages.Pairwise (fun later earlier => earlier.rank ≤ later.rank) ∧ c.late = false

end Chronicle

/-- How the chronicle is kept. -/
def chronicler : Watch interface Shelf Chronicle where
  sent c _ request :=
    { c with late := c.late || (request.isMessage && decide (.finalized ∈ c.stages)) }
  answered := Chronicle.answered
  lost c request s' := (c.written request s').seen s'

/-- A call begins. -/
def beginCall (x : Shelf × Chronicle) : Shelf × Chronicle := (x.1, x.2.begin)

/-- Calls on an id, one after the other, each up to its end or up to a crash, and from an
empty store. -/
abbrev Calls (B : BitcoinLib) (store : SpendStore) (id : String) :=
  Sequence ((shelf id).watched chronicler) (Call.program B store) (fun call => call.id = id)
    beginCall (none, Chronicle.empty)

/-! ## The invariant -/

/-- How far the stored record is. -/
def Shelf.level (s : Shelf) : Nat := (s.map fun record => record.stage.rank).getD 0

/-- What holds of the record and the chronicle at any time. -/
structure Kept (id : String) (x : Shelf × Chronicle) : Prop where
  named : ∀ record, x.1 = some record → record.id = id
  forward : x.2.relapsed = false →
    x.2.Forward ∧ ∀ stage ∈ x.2.stages, stage.rank ≤ x.1.level
  marked : x.2.marked = true → .finalized ∈ x.2.stages
  backward : x.2.relapsed = true →
    ¬ x.2.stages.Pairwise fun later earlier => earlier.rank ≤ later.rank

/-- How a request and what has become of it may change the chronicle. -/
structure Advances (x : Shelf × Chronicle) (s' : Shelf) (c' : Chronicle) : Prop where
  stages : c'.stages = (s'.map PendingSpend.stage).toList ++ x.2.stages
  late : c'.late = x.2.late
  marked : c'.marked = true →
    x.2.marked = true ∨ ∃ record, s' = some record ∧ record.stage = .finalized
  climbs : c'.relapsed = false → x.2.relapsed = false ∧ x.1.level ≤ s'.level
  relapsed : c'.relapsed = true → x.2.relapsed = true ∨
    (x.2.marked = true ∧ ∃ record, s' = some record ∧ record.stage = .submitted)

theorem Kept.advance {id : String} {x : Shelf × Chronicle} {s' : Shelf} {c' : Chronicle}
    (kept : Kept id x) (named : ∀ record, s' = some record → record.id = id)
    (advances : Advances x s' c') : Kept id (s', c') where
  named := named
  forward forward := by
    obtain ⟨before, climbs⟩ := advances.climbs forward
    obtain ⟨⟨sorted, punctual⟩, bound⟩ := kept.forward before
    have bound' : ∀ stage ∈ x.2.stages, stage.rank ≤ s'.level :=
      fun stage member => (bound stage member).trans climbs
    refine ⟨⟨?_, advances.late.trans punctual⟩, ?_⟩
    · rw [advances.stages]
      cases s' with
      | none => exact sorted
      | some record => exact List.pairwise_cons.mpr ⟨bound', sorted⟩
    · show ∀ stage ∈ c'.stages, _
      rw [advances.stages]
      cases s' with
      | none => exact bound'
      | some record => exact List.forall_mem_cons.mpr ⟨le_rfl, bound'⟩
  marked marked := by
    show _ ∈ c'.stages
    rw [advances.stages]
    rcases advances.marked marked with before | ⟨record, rfl, stage⟩
    · exact List.mem_append_right _ (kept.marked before)
    · simp [stage]
  backward relapsed := by
    show ¬ c'.stages.Pairwise _
    rw [advances.stages]
    rcases advances.relapsed relapsed with before | ⟨marked, record, rfl, stage⟩
    · exact fun sorted => kept.backward before (List.pairwise_append.mp sorted).2.1
    · intro sorted
      have earlier := List.rel_of_pairwise_cons sorted (kept.marked marked)
      rw [stage] at earlier
      simp [SpendStage.rank] at earlier

theorem Kept.begin {id : String} {x : Shelf × Chronicle} (kept : Kept id x) :
    Kept id (beginCall x) where
  named := kept.named
  forward := kept.forward
  marked := by rintro ⟨⟩
  backward := kept.backward

/-- A message leaves no trace unless it is late. -/
theorem Kept.sent {id : String} {x : Shelf × Chronicle} (kept : Kept id x) {request : Ask}
    (early : request.isMessage = true → x.1.level ≤ 1) :
    Kept id (x.1, chronicler.sent x.2 x.1 request) where
  named := kept.named
  forward forward := by
    obtain ⟨⟨sorted, punctual⟩, bound⟩ := kept.forward forward
    refine ⟨⟨sorted, ?_⟩, bound⟩
    have absent : request.isMessage = true → .finalized ∉ x.2.stages := by
      intro message member
      have far := (bound _ member).trans (early message)
      simp [SpendStage.rank] at far
    simpa [chronicler, punctual] using absent
  marked := kept.marked
  backward := kept.backward

theorem effect_named {id : String} {s : Shelf} (named : ∀ record, s = some record → record.id = id)
    (request : Ask) : ∀ record, s.effect id request = some record → record.id = id := by
  cases request with
  | save spend =>
      rw [Shelf.effect]
      split
      · rintro _ ⟨⟩
        assumption
      · exact named
  | saveIf spend =>
      rw [Shelf.effect]
      split
      · next own =>
          rintro _ ⟨⟩
          exact own.1
      · exact named
  | remove id' =>
      rw [Shelf.effect]
      split
      · rintro _ ⟨⟩
      · exact named
  | removeIf id' token =>
      rw [Shelf.effect]
      split
      · rintro _ ⟨⟩
      · exact named
  | newToken => exact named
  | load id' => exact named
  | submit arkTx checkpointTxs => exact named
  | finalize arkTxid signedCheckpointTxs => exact named

/-- A request that takes effect does not lower the stage, or it is the save after a failed
upgrade and a failed mark. -/
def Climbs (id : String) (x : Shelf × Chronicle) (request : Ask) : Prop :=
  x.1.level ≤ (x.1.effect id request).level ∨
    (x.2.unsaved = true ∧ x.2.marked = true ∧ ∃ spend, request = .save spend ∧
      spend.stage = .submitted ∧ x.1.effect id request = some spend)

theorem Chronicle.written_relapsed {c : Chronicle} {request : Ask} {s' : Shelf}
    (relapsed : (c.written request s').relapsed = true) : c.relapsed = true ∨
      (c.marked = true ∧ ∃ record, s' = some record ∧ record.stage = .submitted) := by
  cases request with
  | save spend =>
      simp only [Chronicle.written, Bool.or_eq_true, Bool.and_eq_true, decide_eq_true_eq]
        at relapsed
      rcases relapsed with before | ⟨⟨_, marked⟩, stage, stored⟩
      · exact .inl before
      · exact .inr ⟨marked, spend, stored, stage⟩
  | _ => exact .inl relapsed

/-- A request in flight, lost or answered. -/
theorem advances_written {id : String} {x : Shelf × Chronicle} {request : Ask} {s' : Shelf}
    (taken : s' = x.1 ∨ s' = x.1.effect id request) (climbs : Climbs id x request) :
    Advances x s' ((x.2.written request s').seen s') where
  stages := by cases request <;> rfl
  late := by cases request <;> rfl
  marked marked := .inl (by cases request <;> exact marked)
  relapsed := Chronicle.written_relapsed
  climbs relapsed := by
    have before : x.2.relapsed = false := by
      cases request with
      | save spend => exact (Bool.or_eq_false_iff.mp relapsed).1
      | _ => exact relapsed
    refine ⟨before, ?_⟩
    rcases taken with rfl | rfl
    · exact le_rfl
    · rcases climbs with climbs | ⟨unsaved, marked, spend, rfl, stage, stored⟩
      · exact climbs
      · simp [Chronicle.seen, Chronicle.written, unsaved, marked, stage, stored] at relapsed

/-- An error adds to what is known of the store. -/
theorem Advances.failed {x : Shelf × Chronicle} {s' : Shelf} {c : Chronicle} {request : Ask}
    (advances : Advances x s' (c.seen s')) : Advances x s' ((c.failed request s').seen s') := by
  have more : ∀ spend, request = .save spend ∨ request = .saveIf spend →
      Advances x s' ((c.failed request s').seen s') := by
    rintro spend (rfl | rfl)
    all_goals
      refine ⟨advances.stages, advances.late, fun marked => ?_, advances.climbs, advances.relapsed⟩
      simp only [Chronicle.seen, Chronicle.failed, Bool.or_eq_true, decide_eq_true_eq] at marked
      rcases marked with before | ⟨stage, stored⟩
      · exact advances.marked before
      · exact .inr ⟨spend, stored, stage⟩
  cases request with
  | save spend => exact more spend (.inl rfl)
  | saveIf spend => exact more spend (.inr rfl)
  | _ => exact advances

theorem advances_answered {id : String} {x : Shelf × Chronicle} {request : Ask}
    {answer : request.Answer} {s' : Shelf} (reply : x.1.Answered id request answer s')
    (climbs : Climbs id x request) : Advances x s' (chronicler.answered x.2 request answer s') := by
  have written := advances_written reply.cases climbs
  cases request with
  | save spend =>
      cases answer with
      | ok saved => exact written
      | error e => exact written.failed
  | saveIf spend =>
      cases answer with
      | ok saved => exact written
      | error e => exact written.failed
  | _ => exact written

/-- The discipline of a chronicle. -/
def chronicled (id : String) : Discipline interface (Shelf × Chronicle) where
  allow _ _ := True
  keep := Kept id

/-- The chronicle after a request has been sent and answered. -/
def Chronicle.after (c : Chronicle) (s : Shelf) (request : Ask) (answer : request.Answer)
    (s' : Shelf) : Chronicle :=
  chronicler.answered (chronicler.sent c s request) request answer s'

theorem permits_chronicled {id : String} (request : Ask) {x : Shelf × Chronicle}
    {rest : request.Answer → Shelf × Chronicle → Prop} (kept : Kept id x)
    (early : request.isMessage = true → x.1.level ≤ 1) (climbs : Climbs id x request)
    (answered : ∀ answer s', x.1.Answered id request answer s' →
      Kept id (s', x.2.after x.1 request answer s') →
      rest answer (s', x.2.after x.1 request answer s')) :
    Permits ((shelf id).watched chronicler) (chronicled id) request rest x := by
  have sent := kept.sent early
  have named : ∀ s', s' = x.1 ∨ s' = x.1.effect id request →
      ∀ record, s' = some record → record.id = id := by
    rintro s' (rfl | rfl)
    · exact kept.named
    · exact effect_named kept.named request
  refine ⟨trivial, sent, ?_, ?_⟩
  · rintro ⟨s', c'⟩ ⟨taken, chronicle⟩
    obtain rfl : c' = chronicler.lost (chronicler.sent x.2 x.1 request) request s' := chronicle
    exact sent.advance (named s' taken) (advances_written taken climbs)
  · rintro answer ⟨s', c'⟩ ⟨reply, chronicle⟩
    obtain rfl : c' = x.2.after x.1 request answer s' := chronicle
    have after := sent.advance (named s' reply.cases) (advances_answered reply climbs)
    exact ⟨after, answered answer s' reply after⟩

/-! ## The calls -/

theorem Shelf.level_le_two (s : Shelf) : s.level ≤ 2 := by
  cases s with
  | none => exact Nat.zero_le _
  | some record => exact record.stage.rank_le_two

/-- What a write leaves: the record as it was, or the new one. -/
theorem effect_write (id : String) (s : Shelf) {request : Ask} {spend : PendingSpend}
    (write : request = .save spend ∨ request = .saveIf spend) :
    s.effect id request = s ∨ s.effect id request = some spend := by
  rcases write with rfl | rfl
  all_goals
    rw [Shelf.effect]
    split
    · exact .inr rfl
    · exact .inl rfl

/-- A record that is at least as far may be written. -/
theorem climbs_write {id : String} {x : Shelf × Chronicle} {request : Ask} {spend : PendingSpend}
    (write : request = .save spend ∨ request = .saveIf spend)
    (far : x.1.level ≤ spend.stage.rank) : Climbs id x request := by
  refine .inl ?_
  rcases effect_write id x.1 write with same | taken
  · rw [same]
  · rw [taken]
    exact far

/-- A failed mark: the record is not finalized, unless the chronicle says so. -/
def FailedMark (id : String) (unsaved : Bool) (x : Shelf × Chronicle) : Prop :=
  Kept id x ∧ x.2.unsaved = unsaved ∧ (x.2.marked = false → x.1.level ≤ 1)

/-- What an error for a write of a finalized record means. -/
theorem failedMark_of_error {id : String} {x : Shelf × Chronicle} {request : Ask}
    {spend : PendingSpend} (write : request = .save spend ∨ request = .saveIf spend)
    (stage : spend.stage = .finalized) (low : x.1.level ≤ 1) {s' : Shelf}
    (taken : s' = x.1 ∨ s' = x.1.effect id request) {c : Chronicle}
    (same : c.unsaved = x.2.unsaved) (kept : Kept id (s', (c.failed request s').seen s')) :
    FailedMark id x.2.unsaved (s', (c.failed request s').seen s') := by
  have stored : s' = x.1 ∨ s' = some spend := by
    rcases taken with rfl | rfl
    · exact .inl rfl
    · exact effect_write id x.1 write
  refine ⟨kept, ?_, fun unmarked => ?_⟩
  · rcases write with rfl | rfl <;> simp [Chronicle.failed, Chronicle.seen, stage, same]
  · rcases stored with rfl | rfl
    · exact low
    · rcases write with rfl | rfl <;>
        simp [Chronicle.failed, Chronicle.seen, stage] at unmarked

/-- Marking a finalized record. -/
theorem upholds_marking {id : String} {spend : PendingSpend} {x : Shelf × Chronicle}
    (stage : spend.stage = .finalized) (kept : Kept id x) (low : x.1.level ≤ 1) :
    (saveIf store spend).run.Upholds ((shelf id).watched chronicler) (chronicled id)
      (Settles (fun _ => Kept id) (FailedMark id x.2.unsaved)) x := by
  have far : x.1.level ≤ spend.stage.rank := by
    rw [stage]
    exact x.1.level_le_two
  refine upholds_saveIf (fun _ => ?_) (fun _ => ?_)
  · refine permits_chronicled (.saveIf spend) kept (by rintro ⟨⟩) (climbs_write (.inr rfl) far) ?_
    intro answer s' reply after
    cases answer with
    | ok written => exact after
    | error e => exact failedMark_of_error (.inr rfl) stage low reply.cases rfl after
  · refine permits_chronicled (.load spend.id) kept (by rintro ⟨⟩) (.inl le_rfl) ?_
    intro answer s' reply after
    have same : s' = x.1 := by simpa [Shelf.effect] using reply.cases
    subst same
    cases answer with
    | error e => exact ⟨after, rfl, fun _ => low⟩
    | ok found =>
        refine ⟨fun _ => after, fun existing _ _ => ?_⟩
        refine permits_chronicled (.save spend) after (by rintro ⟨⟩)
          (climbs_write (.inl rfl) far) ?_
        intro answer s'' reply' after'
        cases answer with
        | ok saved => exact after'
        | error e => exact failedMark_of_error (.inl rfl) stage low reply'.cases rfl after'

variable (store) in
/-- Finalizing and marking a record. -/
theorem upholds_finalizing {id : String} (pending : PendingSpend) (arkTxid : Txid)
    (finalCheckpoints : List Psbt) {x : Shelf × Chronicle} (kept : Kept id x)
    (low : x.1.level ≤ 1) :
    (finalizeAndRecord store pending arkTxid finalCheckpoints).run.Upholds
      ((shelf id).watched chronicler) (chronicled id)
      (Settles (fun _ => Kept id) (FailedMark id x.2.unsaved)) x := by
  refine upholds_finalizeAndRecord (permits_chronicled (.finalize arkTxid finalCheckpoints) kept
    (fun _ => low) (.inl le_rfl) fun answer s' reply after => ?_)
  have same : s' = x.1 := by simpa [Shelf.effect] using reply.cases
  subst same
  exact ⟨fun _ => ⟨after, rfl, fun _ => low⟩, fun _ => upholds_marking rfl after low⟩

variable (store) in
/-- Recording a reply and finalizing it. The save that is tried once more lowers the stage only
after a failed upgrade and a failed mark. -/
theorem upholds_upgrading {id : String} {pending : PendingSpend} (arkTxid : Txid)
    (finalCheckpoints : List Psbt) {x : Shelf × Chronicle} (stage : pending.stage = .submitted)
    (kept : Kept id x) (low : x.1.level ≤ 1) :
    (upgradeAndFinalize store pending arkTxid finalCheckpoints).run.Upholds
      ((shelf id).watched chronicler) (chronicled id) (Settles (fun _ => Kept id) (Kept id)) x := by
  have far : pending.stage.rank = 1 := by rw [stage, SpendStage.rank]
  refine upholds_upgradeAndFinalize (permits_chronicled (.save pending) kept (by rintro ⟨⟩)
    (climbs_write (.inl rfl) (low.trans_eq far.symm)) fun answer s' reply after => ?_)
  have low' : s'.level ≤ 1 := by
    rcases reply.cases with rfl | rfl
    · exact low
    · rcases effect_write id x.1 (.inl rfl : Ask.save pending = _ ∨ _) with same | taken
      · rwa [same]
      · rw [taken]
        exact far.le
  have finalizing := upholds_finalizing store pending arkTxid finalCheckpoints after low'
  cases answer with
  | ok saved =>
      refine finalizing.mono fun result x' settled => ?_
      cases result with
      | ok txid => exact settled
      | error e => exact settled.1
  | error e =>
      refine finalizing.mono fun result x' settled => ?_
      cases result with
      | ok txid => exact settled
      | error e' =>
          obtain ⟨kept', unsaved, unmarked⟩ := settled
          refine permits_chronicled (.save pending) kept' (by rintro ⟨⟩) ?_ fun _ _ _ final => final
          cases marked : x'.2.marked with
          | false => exact climbs_write (.inl rfl) ((unmarked marked).trans_eq far.symm)
          | true =>
              rcases effect_write id x'.1 (.inl rfl : Ask.save pending = _ ∨ _) with same | taken
              · exact .inl (by rw [same])
              · refine .inr ⟨?_, marked, pending, rfl, stage, taken⟩
                simp [unsaved, Chronicle.after, chronicler, Chronicle.answered, Chronicle.failed,
                  Chronicle.seen, stage]

/-- Submitting under a record at the first stage. -/
theorem safe_submitting {id : String} {pending : PendingSpend} {arkTx : Psbt}
    {unsignedCheckpoints : List Psbt} {partyCps : List (List Psbt)} {firstAttempt : Bool}
    {x : Shelf × Chronicle} (kept : Kept id x) (start : x.1.level = 0) :
    Safe ((shelf id).watched chronicler) (chronicled id)
      (submitAndFinalize B store pending arkTx unsignedCheckpoints partyCps firstAttempt).run
      x := by
  refine safe_submitAndFinalize (permits_chronicled (.submit arkTx unsignedCheckpoints) kept
    (fun _ => start.trans_le zero_le_one) (.inl le_rfl) fun outcome s' reply after => ?_)
  have same : s' = x.1 := by simpa [Shelf.effect] using reply.cases
  subst same
  refine ⟨fun e _ => ?_, fun reply canonical _ _ => ⟨after, fun finalCheckpoints _ => ?_⟩⟩
  · refine (confined_submitFailed ..).upholds (J := fun x' => Kept id x' ∧ x'.1.level = 0) ?_
      (fun _ _ _ => trivial) ⟨after, start⟩
    rintro request x' ⟨_, _, member⟩ ⟨kept', start'⟩
    have silent : request.isMessage = false := by cases member <;> rfl
    have cleared : (x'.1.effect id request).level = 0 := by
      cases member with
      | load => exact start'
      | own =>
          rw [Shelf.effect]
          split
          · rfl
          · exact start'
      | remove =>
          rw [Shelf.effect]
          split
          · rfl
          · exact start'
    refine permits_chronicled request kept' (by simp [silent]) (.inl (by simp [start']))
      fun answer s'' reply' after' => ⟨after', ?_⟩
    rcases reply'.cases with rfl | rfl
    · exact start'
    · exact cleared
  · have stage : (upgradedRecord B pending canonical finalCheckpoints).stage = .submitted := rfl
    have upgrading := upholds_upgrading store (B.computeTxid arkTx.unsignedTx)
      finalCheckpoints stage
      after (start.trans_le zero_le_one)
    exact upgrading.mono fun _ _ _ => trivial

/-- **A call keeps the record and the chronicle in order.** -/
theorem safe_call_kept {id : String} {call : Call} (same : call.id = id) {x : Shelf × Chronicle}
    (kept : Kept id x) :
    Safe ((shelf id).watched chronicler) (chronicled id) (call.program B store) x := by
  refine safe_call (permits_chronicled (.load call.id) kept (by rintro ⟨⟩) (.inl le_rfl)
    fun answer s' reply after => ?_)
  cases answer with
  | error e => exact ⟨by rintro _ ⟨⟩, by rintro _ _ _ _ _ ⟨⟩⟩
  | ok found =>
      obtain ⟨loaded, rfl⟩ := reply
      obtain rfl := loaded same
      constructor
      · intro pending stored _
        have level {stage : SpendStage} (here : pending.stage = stage) :
            x.1.level = stage.rank := by
          rw [Except.ok.inj stored, ← here]
          rfl
        refine safe_resumeRecorded ?_ ?_
        · intro evidence canonical stage _
          refine ⟨after, fun arkTxid finalCheckpoints _ => ?_⟩
          have finalizing := upholds_finalizing store pending arkTxid finalCheckpoints after
            (level stage).le
          exact finalizing.mono fun _ _ _ => trivial
        · intro arkTx unsignedCheckpoints partyCps resubmittable
          exact safe_submitting after (level resubmittable.stage)
      · rintro id' arkTx unsignedCheckpoints partyCps rfl stored _
        have nothing : x.1 = none := Except.ok.inj stored
        have start : x.1.level = 0 := by rw [nothing]; rfl
        refine permits_chronicled .newToken after (by rintro ⟨⟩) (.inl le_rfl)
          fun bytes s₂ reply after₂ => ?_
        have same₂ : s₂ = x.1 := by simpa [Shelf.effect] using reply.cases
        subst same₂
        refine permits_chronicled _ after₂ (by rintro ⟨⟩) (.inl (by simp [start]))
          fun saved s₃ reply after₃ => ?_
        rintro rfl
        refine safe_submitting after₃ ?_
        obtain rfl : s₃ = _ := reply
        simp only [Shelf.effect]
        split
        · rfl
        · exact start

/-- **The record and the chronicle are in order in every run.** -/
theorem kept_of_calls {id : String} {h : List (Event interface)}
    {t : Thread interface (Except Error (Option Txid))} {x : Shelf × Chronicle}
    (run : Calls B store id h t x) : Kept id x := by
  have start : Kept id (none, Chronicle.empty) :=
    ⟨by rintro _ ⟨⟩, fun _ => ⟨⟨.nil, rfl⟩, by rintro _ ⟨⟩⟩, by rintro ⟨⟩, by rintro ⟨⟩⟩
  obtain ⟨thread, _⟩ := run.upholds (D := chronicled id)
    (fun call x same kept => ⟨kept.begin, safe_call_kept same kept.begin⟩) start
  exact thread.keep

/-- **When the stage never moves backwards.** In every run of calls on an id that do not
overlap, from an empty store, the stored stages only advance and no message follows a finalized
record, if and only if the store has never, in one call, reported an error for the upgrade, then
an error for a mark that was in place, and then taken the save that is tried once more. -/
theorem stages_forward_iff {id : String} {h : List (Event interface)}
    {t : Thread interface (Except Error (Option Txid))} {x : Shelf × Chronicle}
    (run : Calls B store id h t x) : x.2.Forward ↔ x.2.relapsed = false := by
  have kept := kept_of_calls run
  constructor
  · rintro ⟨sorted, _⟩
    exact Bool.eq_false_iff.mpr fun relapsed => kept.backward relapsed sorted
  · exact fun forward => (kept.forward forward).1

/-! ## Two runs of a fresh call -/

/-- The store reports an error for the upgrade and for the mark, which is in place, and takes
the second save. -/
theorem emits_relapse {pending : PendingSpend} {arkTxid : Txid} {finalCheckpoints : List Psbt}
    (e e' : Error) :
    Emits (upgradeAndFinalize ⟨true, true⟩ pending arkTxid finalCheckpoints).run
      [.sent (.save pending), .answered (.save pending) (.error e),
        .sent (.finalize arkTxid finalCheckpoints),
        .answered (.finalize arkTxid finalCheckpoints) (.finished (.ok ())),
        .sent (.saveIf (finalizedRecord pending)),
        .answered (.saveIf (finalizedRecord pending)) (.error e'),
        .sent (.save pending), .answered (.save pending) (.ok ())] := by
  refine .exchange (I := interface) ?_
  refine .exchange (I := interface) ?_
  refine .exchange (I := interface) ?_
  refine .exchange (I := interface) ?_
  exact .nil _

/-- Events that lead from one chronicle to another. -/
abbrev Leads (id : String) (x : Shelf × Chronicle) (events : List (Event interface))
    (goal : Shelf × Chronicle → Prop) : Prop :=
  ∃ y, Follows ((shelf id).watched chronicler) x events y ∧ goal y

/-- A call from an empty store. -/
theorem calls_of_leads {call : Call} {events : List (Event interface)}
    {goal : Shelf × Chronicle → Prop} (run : Emits (call.program B store) events)
    (leads : Leads call.id (none, Chronicle.empty) events goal) :
    ∃ h t x, Calls B store call.id h t x ∧ goal x := by
  obtain ⟨t, run⟩ := run
  obtain ⟨y, follows, reached⟩ := leads
  exact ⟨events, t, y, .first rfl run follows, reached⟩

/-- A request, and the answer to it. -/
theorem leads_exchange {id : String} {request : Ask} {answer : request.Answer} {s : Shelf}
    {c : Chronicle} {events : List (Event interface)} {goal : Shelf × Chronicle → Prop}
    (s' : Shelf) (reply : s.Answered id request answer s')
    (rest : Leads id (s', c.after s request answer s') events goal) :
    Leads id (s, c) (.sent request :: .answered request answer :: events) goal := by
  obtain ⟨y, follows, reached⟩ := rest
  refine ⟨y, .sent request (.answered answer ?_ follows), reached⟩
  exact ⟨reply, rfl⟩

/-- From an empty store to an accepted reply. -/
theorem leads_accepted {id : String} {arkTx : Psbt} {unsignedCheckpoints : List Psbt}
    {partyCps : List (List Psbt)} {bytes : Vector UInt8 16} {reply : SubmitReply}
    {canonical : Psbt} {events : List (Event interface)} {goal : Shelf × Chronicle → Prop}
    (rest : Leads id
      (some (freshRecord B id arkTx unsignedCheckpoints partyCps (PendingSpend.newToken bytes)),
        ⟨[.submitting, .submitting], false, false, false, false⟩) events goal) :
    Leads id (none, Chronicle.empty)
      (freshTrace B id arkTx unsignedCheckpoints partyCps bytes ++
        (submitTrace arkTx unsignedCheckpoints reply canonical ++ events)) goal := by
  refine leads_exchange none ⟨fun _ => rfl, rfl⟩ ?_
  refine leads_exchange none (.inl rfl) ?_
  refine leads_exchange _ (Shelf.effect_save rfl none).symm ?_
  refine leads_exchange _ (.inl rfl) ?_
  obtain ⟨y, follows, reached⟩ := rest
  exact ⟨y, .noted _ follows, reached⟩

section Upgrading

variable {id : String} {pending first : PendingSpend} (own : pending.id = id)
  (token : first.token = pending.token)
include own

include token

theorem effect_mark : Shelf.effect id (some first) (.saveIf (finalizedRecord pending)) =
    some (finalizedRecord pending) :=
  if_pos ⟨own, by simp [Shelf.holds, PendingSpend.matchesToken, token, finalizedRecord]⟩

/-- What the store has misled the client into. -/
theorem leads_relapse (stage : pending.stage = .submitted) (initial : first.stage = .submitting)
    {arkTxid : Txid} {finalCheckpoints : List Psbt} (e e' : Error) :
    Leads id (some first, ⟨[.submitting, .submitting], false, false, false, false⟩)
      [.sent (.save pending), .answered (.save pending) (.error e),
        .sent (.finalize arkTxid finalCheckpoints),
        .answered (.finalize arkTxid finalCheckpoints) (.finished (.ok ())),
        .sent (.saveIf (finalizedRecord pending)),
        .answered (.saveIf (finalizedRecord pending)) (.error e'),
        .sent (.save pending), .answered (.save pending) (.ok ())]
      fun y => y.2.relapsed = true := by
  refine leads_exchange (some first) (.inl rfl) ?_
  refine leads_exchange (some first) (.inl rfl) ?_
  refine leads_exchange _ (.inr (effect_mark own token).symm) ?_
  refine leads_exchange _ (Shelf.effect_save own _).symm ⟨_, .nil _, ?_⟩
  simp [Chronicle.after, chronicler, Chronicle.answered, Chronicle.written, Chronicle.failed,
    Chronicle.seen, Ask.isMessage, finalizedRecord, stage, initial]

omit token in
/-- Every operation succeeds. -/
theorem leads_finish {arkTxid : Txid} {finalCheckpoints : List Psbt} :
    Leads id (some first, ⟨[.submitting, .submitting], false, false, false, false⟩)
      (finishTrace ⟨true, true⟩ pending arkTxid finalCheckpoints)
      fun y => .finalized ∈ y.2.stages ∧ y.2.relapsed = false := by
  have marked : Shelf.Answered id (some pending) (.saveIf (finalizedRecord pending)) (.ok true)
      (some (finalizedRecord pending)) := by
    refine ⟨fun _ => ?_, (effect_mark own rfl).symm⟩
    simp [Shelf.holds, PendingSpend.matchesToken, finalizedRecord]
  refine leads_exchange _ (Shelf.effect_save own _).symm ?_
  refine leads_exchange (some pending) (.inl rfl) ?_
  show Leads id _ [_, _] _
  refine leads_exchange _ marked ⟨_, .nil _, ?_⟩
  simp [Chronicle.after, chronicler, Chronicle.answered, Chronicle.written, Chronicle.seen,
    Ask.isMessage, finalizedRecord]

end Upgrading

/-- A run in which the stored stage falls back from `finalized` to `submitted`. -/
theorem stages_not_always_forward :
    ¬ ∀ (B : BitcoinLib) (store : SpendStore) (id : String) (h : List (Event interface))
      (t : Thread interface (Except Error (Option Txid))) (x : Shelf × Chronicle),
      Calls B store id h t x → x.2.Forward := by
  intro always
  let cp := Sample.checkpoint 1 ∅
  let call : Call := .spend "escrow" (Sample.arkTx [cp]) [cp] [[cp]]
  have valid : validateCheckpoints [cp] [[cp]] = .ok () := validateCheckpoints_self (by simp)
  obtain ⟨finalCheckpoints, merged⟩ := exists_merges_self (B := BitcoinLib.reference) [cp]
    (by simp [cp, Sample.checkpoint]) (Sample.cosigned [cp])
  let e := Error.msg "directory sync failed"
  have run : Emits (call.program BitcoinLib.reference ⟨true, true⟩) _ :=
    emits_call_fresh (Vector.replicate 16 0) valid (emits_upgrade
      (passes_freshRecord (Sample.verified_cosigned cp []) merged) (emits_relapse e e))
  obtain ⟨h, t, x, calls, relapsed⟩ :=
    calls_of_leads run (leads_accepted (leads_relapse (by rfl) (by rfl) (by rfl) (by rfl) e e))
  exact (kept_of_calls calls).backward relapsed (always _ _ _ _ _ _ calls).1

/-- A fresh call that gets through. -/
theorem stages_forward_sample :
    ∃ (h : List (Event interface)) (t : Thread interface (Except Error (Option Txid)))
      (x : Shelf × Chronicle), Calls BitcoinLib.reference ⟨true, true⟩ "escrow" h t x ∧
      .finalized ∈ x.2.stages ∧ x.2.Forward := by
  let cp := Sample.checkpoint 1 ∅
  let call : Call := .spend "escrow" (Sample.arkTx [cp]) [cp] [[cp]]
  have valid : validateCheckpoints [cp] [[cp]] = .ok () := validateCheckpoints_self (by simp)
  obtain ⟨finalCheckpoints, merged⟩ := exists_merges_self (B := BitcoinLib.reference) [cp]
    (by simp [cp, Sample.checkpoint]) (Sample.cosigned [cp])
  have run : Emits (call.program BitcoinLib.reference ⟨true, true⟩) _ :=
    emits_call_fresh (Vector.replicate 16 0) valid (emits_upgrade
      (passes_freshRecord (Sample.verified_cosigned cp []) merged)
      ⟨_, returns_upgradeAndFinalize⟩)
  obtain ⟨h, t, x, calls, stored, forward⟩ :=
    calls_of_leads run (leads_accepted (leads_finish (by rfl)))
  exact ⟨h, t, x, calls, stored, (stages_forward_iff calls).mpr forward⟩

end Client
end ArkadeEscrow
