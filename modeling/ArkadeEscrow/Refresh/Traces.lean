import ArkadeEscrow.Batch.Rules
import ArkadeEscrow.Refresh.Program

/-!
# What the parts of a refresh show

One lemma for each function of a refresh, about all its runs: how many intents it registers
and deletes, what it knows when it returns, and what it has sent by then. `deleteIntent` is
`Deleting`, one ceremony is `Settling`, and the two ceremonies with the deletion in between
are `Executing`.
-/

set_option autoImplicit false

namespace ArkadeEscrow
namespace Refresh

open Interaction Batch Program

variable {L : BatchLib} {B : BitcoinLib} {statusText : Status → String}
variable {info : Info} {refresh : RefreshIntent L} {refreshCosignerKp : Keypair}
variable {α : Type}

/-- What a refresh shows, deadlines left out. -/
abbrev Journal (L : BatchLib) := List (Event (interface L))

/-! ## Messages -/

def Ask.isRegister : Ask L → Bool
  | .ceremony request => request.isRegister
  | .sleep _ => false

def Ask.isDelete : Ask L → Bool
  | .ceremony request => request.isDelete
  | .sleep _ => false

/-- The request neither registers nor deletes an intent. -/
def Ask.Other (request : Ask L) : Prop := request.isRegister = false ∧ request.isDelete = false

def isRegister : Event (interface L) → Bool
  | .sent request => Ask.isRegister request
  | _ => false

def isDelete : Event (interface L) → Bool
  | .sent request => Ask.isDelete request
  | _ => false

/-- The server has answered that there was nothing to delete. -/
def isBarren (statusText : Status → String) : Event (interface L) → Bool
  | .answered (.ceremony (.deleteIntent _)) (.error text) =>
      isNoMatchingIntentError statusText (.msg text)
  | _ => false

/-- How many `RegisterIntent` have been sent. -/
def registers (j : Journal L) : Nat := j.countP isRegister

/-- How many `DeleteIntent` have been sent. -/
def deletes (j : Journal L) : Nat := j.countP isDelete

/-- A `DeleteIntent` has been answered with success, or so many with nothing to delete. -/
def Cleared (statusText : Status → String) (attempts : Nat) (j : Journal L) : Prop :=
  (∃ intent, .answered (.ceremony (.deleteIntent intent)) (.ok ()) ∈ j) ∨
    attempts ≤ j.countP (isBarren statusText)

theorem registers_append (j j' : Journal L) : registers (j ++ j') = registers j + registers j' :=
  List.countP_append

theorem deletes_append (j j' : Journal L) : deletes (j ++ j') = deletes j + deletes j' :=
  List.countP_append

theorem registers_exchange (request : Ask L) (answer : Ask.Answer L request) (j : Journal L) :
    registers (.sent request :: .answered request answer :: j) =
      registers j + if Ask.isRegister request then 1 else 0 := by
  cases counts : Ask.isRegister request <;> simp [registers, isRegister, counts]

theorem deletes_exchange (request : Ask L) (answer : Ask.Answer L request) (j : Journal L) :
    deletes (.sent request :: .answered request answer :: j) =
      deletes j + if Ask.isDelete request then 1 else 0 := by
  cases counts : Ask.isDelete request <;> simp [deletes, isDelete, counts]

theorem registers_cons_register (intent : Intent L) (j : Journal L) :
    registers (.sent (.ceremony (.registerIntent intent)) :: j) = registers j + 1 :=
  List.countP_cons_of_pos rfl

theorem deletes_cons_delete (intent : Intent L) (j : Journal L) :
    deletes (.sent (.ceremony (.deleteIntent intent)) :: j) = deletes j + 1 :=
  List.countP_cons_of_pos rfl

@[simp] theorem registers_nil : registers ([] : Journal L) = 0 := rfl

@[simp] theorem deletes_nil : deletes ([] : Journal L) = 0 := rfl

theorem Cleared.append_left {attempts : Nat} {j : Journal L}
    (cleared : Cleared statusText attempts j) (before : Journal L) :
    Cleared statusText attempts (before ++ j) := by
  rcases cleared with ⟨intent, answered⟩ | barren
  · exact .inl ⟨intent, List.mem_append_right _ answered⟩
  · right
    rw [List.countP_append]
    omega

theorem Cleared.append_right {attempts : Nat} {j : Journal L}
    (cleared : Cleared statusText attempts j) (after : Journal L) :
    Cleared statusText attempts (j ++ after) := by
  rcases cleared with ⟨intent, answered⟩ | barren
  · exact .inl ⟨intent, List.mem_append_left _ answered⟩
  · right
    rw [List.countP_append]
    omega

/-- Other requests do not count. -/
theorem counts_of_other {j : Journal L} (other : ∀ request, .sent request ∈ j → Ask.Other request) :
    registers j = 0 ∧ deletes j = 0 := by
  constructor
  · refine List.countP_eq_zero.mpr fun event member => ?_
    cases event with
    | sent request => simpa [isRegister] using (other request member).1
    | _ => simp [isRegister]
  · refine List.countP_eq_zero.mpr fun event member => ?_
    cases event with
    | sent request => simpa [isDelete] using (other request member).2
    | _ => simp [isDelete]

theorem no_delete_of_deletes {j : Journal L} (none : deletes j = 0) (intent : Intent L) :
    .sent (.ceremony (.deleteIntent intent)) ∉ j := by
  intro sent
  exact absurd rfl (List.countP_eq_zero.mp none _ sent)

/-! ## `deleteIntent` -/

/-- What the loop of `deleteIntent` shows, and knows when it has returned. -/
structure Deleting (statusText : Status → String) (intent : Intent L) (attempts : Nat)
    (j : Journal L) (result : Option (Except Error Bool)) : Prop where
  registers_eq : registers j = 0
  deletes_le : deletes j ≤ attempts
  own : ∀ intent', .sent (.ceremony (.deleteIntent intent')) ∈ j → intent' = intent
  silent : ∀ remark, .noted remark ∉ j
  started : j ≠ [] → 1 ≤ deletes j
  returned : result ≠ none → j ≠ []
  cleared : ∀ deleted, result = some (.ok deleted) → Cleared statusText attempts j

theorem deleteAttempts_run (intent : Intent L) (more : Nat) :
    (deleteAttempts statusText intent more).run =
      .ask (I := interface L) (.ceremony (.deleteIntent intent)) fun
        | .ok () => .done (.ok true)
        | .error text =>
            if !isNoMatchingIntentError statusText (.msg text) then
              .done (.error ((Error.msg text).context "deleting intent"))
            else match more with
              | 0 => .done (.ok false)
              | more + 1 => .ask (I := interface L) (.sleep staleIntentDeleteRetryDelay) fun _ =>
                  (deleteAttempts statusText intent more).run := by
  rw [deleteAttempts.eq_def]
  refine congrArg (Program.ask (I := interface L) (.ceremony (.deleteIntent intent))) ?_
  funext answer
  cases answer with
  | ok _ => rfl
  | error text =>
      show ExceptT.run (ite _ _ _) = _
      dsimp only
      split
      · rfl
      · cases more with
        | zero => rfl
        | succ more => rfl

namespace Deleting

variable {intent : Intent L} {attempts : Nat} {result : Option (Except Error Bool)}

/-- Nothing has been sent, or not been answered. -/
theorem unanswered {j : Journal L}
    (short : j = [] ∨ j = [.sent (.ceremony (.deleteIntent intent))]) :
    Deleting statusText intent (attempts + 1) j none := by
  rcases short with rfl | rfl
  · exact ⟨rfl, Nat.zero_le _, by simp, by simp, by simp, by simp, by rintro _ ⟨⟩⟩
  · refine ⟨rfl, ?_, by simp, by simp, fun _ => le_rfl, by simp, by rintro _ ⟨⟩⟩
    exact Nat.succ_le_succ (Nat.zero_le _)

/-- One attempt has been answered. -/
theorem attempt {answer : Except String Unit} {rest : Journal L} (registers_eq : registers rest = 0)
    (deletes_le : deletes rest ≤ attempts)
    (own : ∀ intent', .sent (.ceremony (.deleteIntent intent')) ∈ rest → intent' = intent)
    (silent : ∀ remark, .noted remark ∉ rest)
    (cleared : ∀ deleted, result = some (.ok deleted) →
      Cleared statusText (attempts + 1) (.sent (.ceremony (.deleteIntent intent)) ::
        .answered (.ceremony (.deleteIntent intent)) answer :: rest)) :
    Deleting statusText intent (attempts + 1) (.sent (.ceremony (.deleteIntent intent)) ::
      .answered (.ceremony (.deleteIntent intent)) answer :: rest) result := by
  have count : deletes (.sent (.ceremony (.deleteIntent intent)) ::
      .answered (.ceremony (.deleteIntent intent)) answer :: rest) = deletes rest + 1 :=
    deletes_exchange ..
  refine ⟨registers_eq, ?_, ?_, ?_, fun _ => ?_, fun _ => List.cons_ne_nil _ _, cleared⟩
  · omega
  · intro intent' member
    rcases List.mem_cons.mp member with same | member
    · cases same
      rfl
    · exact own intent' (by simpa using member)
  · simpa using silent
  · omega

end Deleting

/-- **What `deleteIntent` shows.** The induction is on the attempts that are left. -/
theorem deleteAttempts_inv {intent : Intent L} {more : Nat} {j : Journal L}
    {t : Thread (interface L) (Except Error Bool)}
    (run : Evolves (deleteAttempts statusText intent more).run j t) :
    Deleting statusText intent (more + 1) j t.result? := by
  induction more using Nat.strong_induction_on generalizing j with
  | _ more ih =>
      rw [deleteAttempts_run] at run
      rcases Evolves.of_ask run with ⟨rfl, open_⟩ | ⟨rfl, open_⟩ | ⟨answer, rest, rfl, later⟩
      · exact open_ ▸ .unanswered (.inl rfl)
      · exact open_ ▸ .unanswered (.inr rfl)
      · cases answer with
        | ok done =>
            obtain ⟨rfl, finished⟩ := Evolves.of_done later
            exact .attempt rfl (Nat.zero_le _) (by simp) (by simp)
              fun _ _ => .inl ⟨intent, by simp⟩
        | error text =>
            dsimp only at later
            split at later
            · obtain ⟨rfl, failed⟩ := Evolves.of_done later
              refine .attempt rfl (Nat.zero_le _) (by simp) (by simp) ?_
              rw [failed]
              rintro _ ⟨⟩
            · next matching =>
                have barren : isNoMatchingIntentError statusText (.msg text) = true := by
                  simpa using matching
                cases more with
                | zero =>
                    obtain ⟨rfl, finished⟩ := Evolves.of_done later
                    refine .attempt rfl (Nat.zero_le _) (by simp) (by simp) fun _ _ => .inr ?_
                    simp [barren, isBarren]
                | succ more =>
                    rcases Evolves.of_ask later with ⟨rfl, open_⟩ | ⟨rfl, open_⟩ |
                      ⟨_, rest, rfl, later'⟩
                    · refine .attempt rfl (Nat.zero_le _) (by simp) (by simp) ?_
                      rw [open_]
                      rintro _ ⟨⟩
                    · refine .attempt rfl (Nat.zero_le _) (by simp) (by simp) ?_
                      rw [open_]
                      rintro _ ⟨⟩
                    · have again := ih more (Nat.lt_succ_self more) later'
                      refine .attempt again.registers_eq again.deletes_le ?_ ?_ ?_
                      · exact fun intent' member => again.own intent' (by simpa using member)
                      · simpa using again.silent
                      · intro deleted finished
                        rcases again.cleared deleted finished with ⟨intent', answered⟩ | count
                        · exact .inl ⟨intent', by simp [answered]⟩
                        · right
                          simpa [List.countP_cons, isBarren, barren] using count

theorem deleteIntent_inv {intent : Intent L} {maxAttempts : Nat} (positive : 0 < maxAttempts)
    {j : Journal L} {t : Thread (interface L) (Except Error Bool)}
    (run : Evolves (deleteIntent statusText intent maxAttempts).run j t) :
    Deleting statusText intent maxAttempts j t.result? := by
  have attempts : maxAttempts - 1 + 1 = maxAttempts := Nat.sub_add_cancel positive
  have shown := deleteAttempts_inv run
  rwa [attempts] at shown

/-! ## One ceremony -/

theorem settle_of_passes (passes : PassesLocalChecks refresh.intoDelegate refreshCosignerKp) :
    ∃ next, (settle B info refresh refreshCosignerKp).run =
        .ask (I := interface L) (.ceremony (.registerIntent refresh.intent)) next ∧
      ∀ answer, Confined Ask.Other (next answer) := by
  obtain ⟨next, run, others⟩ := @settleDelegate_of_passes L B info _ _ passes
  refine ⟨fun answer => (next answer).embed (ceremony L), ?_, fun answer => ?_⟩
  · rw [settle, ExceptT.run_mk, run]
    rfl
  · exact (others answer).embed fun request other => other

theorem settle_of_not_passes (fails : ¬PassesLocalChecks refresh.intoDelegate refreshCosignerKp) :
    ∃ e, (settle B info refresh refreshCosignerKp).run = .done (.error e) := by
  obtain ⟨e, run⟩ := @settleDelegate_of_not_passes L B info _ _ fails
  refine ⟨e, ?_⟩
  rw [settle, ExceptT.run_mk, run]
  rfl

/-- What one ceremony shows. -/
structure Settling (refresh : RefreshIntent L) (refreshCosignerKp : Keypair) (j : Journal L)
    (result : Option (Except Error Txid)) : Prop where
  registers_le : registers j ≤ 1
  deletes_eq : deletes j = 0
  silent : ∀ remark, .noted remark ∉ j
  registered : PassesLocalChecks refresh.intoDelegate refreshCosignerKp → j ≠ [] → registers j = 1
  returned : PassesLocalChecks refresh.intoDelegate refreshCosignerKp → result ≠ none → j ≠ []

/-- **One ceremony registers the intent at most once** and deletes none. If the local checks
pass, that comes first. -/
theorem settle_inv {j : Journal L} {t : Thread (interface L) (Except Error Txid)}
    (run : Evolves (settle B info refresh refreshCosignerKp).run j t) :
    Settling refresh refreshCosignerKp j t.result? := by
  by_cases passes : PassesLocalChecks refresh.intoDelegate refreshCosignerKp
  · obtain ⟨next, first, others⟩ := @settle_of_passes L B info _ _ passes
    rw [first] at run
    rcases Evolves.of_ask run with ⟨rfl, open_⟩ | ⟨rfl, open_⟩ | ⟨answer, rest, rfl, later⟩
    · exact ⟨Nat.zero_le _, rfl, by simp, by simp, by simp [open_]⟩
    · exact ⟨le_rfl, rfl, by simp, fun _ _ => rfl, by simp⟩
    · obtain ⟨silent, sent⟩ := (others answer).of_sent later
      obtain ⟨noRegister, noDelete⟩ := counts_of_other sent
      have one : registers (.sent (.ceremony (.registerIntent refresh.intent)) ::
          .answered (.ceremony (.registerIntent refresh.intent)) answer :: rest) = 1 := by
        rw [registers_exchange, noRegister]
        rfl
      refine ⟨one.le, ?_, by simpa using silent, fun _ _ => one, by simp⟩
      rw [deletes_exchange, noDelete]
      rfl
  · obtain ⟨e, first⟩ := @settle_of_not_passes L B info _ _ passes
    rw [first] at run
    obtain ⟨rfl, _⟩ := Evolves.of_done run
    exact ⟨Nat.zero_le _, rfl, by simp, fun here => absurd here passes,
      fun here => absurd here passes⟩

/-! ## `executeRefresh` -/

/-- A second `RegisterIntent` is only sent when stale intents have been cleared. -/
def ClearedBetween (statusText : Status → String) (j : Journal L) : Prop :=
  ∀ before intent after, j = before ++ .sent (.ceremony (.registerIntent intent)) :: after →
    1 ≤ registers before → Cleared statusText staleIntentDeleteAttempts before

/-- A `DeleteIntent` is only sent when a `RegisterIntent` has been. -/
def RegisteredBefore (j : Journal L) : Prop :=
  ∀ before intent after, j = before ++ .sent (.ceremony (.deleteIntent intent)) :: after →
    1 ≤ registers before

/-- What the two ceremonies show, with the deletion in between. -/
structure Executing (statusText : Status → String) (refresh : RefreshIntent L)
    (refreshCosignerKp : Keypair) (j : Journal L) (result : Option (Except Error Txid)) : Prop where
  checked : j ≠ [] → checkDeleteProof refresh = .ok ()
  registers_le : registers j ≤ 2
  deletes_le : deletes j ≤ staleIntentDeleteAttempts
  own : ∀ intent, .sent (.ceremony (.deleteIntent intent)) ∈ j → refresh.deleteIntent = some intent
  silent : ∀ remark, .noted remark ∉ j
  single : refresh.deleteIntent = none → registers j ≤ 1
  cleared : ClearedBetween statusText j
  registered : PassesLocalChecks refresh.intoDelegate refreshCosignerKp → RegisteredBefore j
  started : PassesLocalChecks refresh.intoDelegate refreshCosignerKp →
    checkDeleteProof refresh = .ok () → result ≠ none ∨ j ≠ [] → 1 ≤ registers j

/-- One intent has been registered in the first part, and one at most in the last. -/
theorem clearedBetween_of_parts {first last : Journal L} (one : registers first ≤ 1)
    (cleared : last ≠ [] → Cleared statusText staleIntentDeleteAttempts first) :
    ClearedBetween statusText (first ++ last) := by
  intro before intent after split registered
  rcases split_append split with ⟨middle, rfl, _⟩ | ⟨middle, rfl, rest⟩
  · rw [registers_append, registers_cons_register] at one
    omega
  · -- the message is in the last part
    refine (cleared ?_).append_right middle
    rintro rfl
    simp at rest

/-- All deletions come after the first part, in which an intent has been registered. -/
theorem registeredBefore_of_parts {first last : Journal L} (none : deletes first = 0)
    (registered : last ≠ [] → 1 ≤ registers first) : RegisteredBefore (first ++ last) := by
  intro before intent after split
  rcases split_append split with ⟨middle, rfl, _⟩ | ⟨middle, rfl, rest⟩
  · rw [deletes_append, deletes_cons_delete] at none
    omega
  · rw [registers_append]
    refine Nat.le_add_right_of_le (registered ?_)
    rintro rfl
    simp at rest

namespace Executing

variable {j first deletion second : Journal L} {result result' : Option (Except Error Txid)}

/-- There was only one ceremony. -/
theorem of_settling (checked : checkDeleteProof refresh = .ok ())
    (settling : Settling refresh refreshCosignerKp j result')
    (same : result ≠ none → result' ≠ none) :
    Executing statusText refresh refreshCosignerKp j result where
  checked _ := checked
  registers_le := settling.registers_le.trans (by decide)
  deletes_le := settling.deletes_eq ▸ Nat.zero_le _
  own intent sent := absurd sent (no_delete_of_deletes settling.deletes_eq intent)
  silent := settling.silent
  single _ := settling.registers_le
  cleared := by
    rw [← List.append_nil j]
    exact clearedBetween_of_parts settling.registers_le (absurd rfl)
  registered _ := by
    rw [← List.append_nil j]
    exact registeredBefore_of_parts settling.deletes_eq (absurd rfl)
  started passes _ either := by
    refine (settling.registered passes ?_).ge
    rcases either with finished | some
    · exact settling.returned passes (same finished)
    · exact some

/-- A ceremony has failed, and stale intents are deleted before the second one. -/
theorem of_deleting {intent : Intent L} {failed : Except Error Txid}
    {deleted : Option (Except Error Bool)} (checked : checkDeleteProof refresh = .ok ())
    (proof : refresh.deleteIntent = some intent)
    (settling : Settling refresh refreshCosignerKp first (some failed))
    (deleting : Deleting statusText intent staleIntentDeleteAttempts deletion deleted)
    (again : Settling refresh refreshCosignerKp second result')
    (between : second ≠ [] → Cleared statusText staleIntentDeleteAttempts deletion) :
    Executing statusText refresh refreshCosignerKp (first ++ (deletion ++ second)) result where
  checked _ := checked
  registers_le := by
    rw [registers_append, registers_append, deleting.registers_eq]
    have one := settling.registers_le
    have one' := again.registers_le
    omega
  deletes_le := by
    rw [deletes_append, deletes_append, settling.deletes_eq, again.deletes_eq]
    have many := deleting.deletes_le
    omega
  own intent' sent := by
    rcases List.mem_append.mp sent with sent | sent
    · exact absurd sent (no_delete_of_deletes settling.deletes_eq intent')
    · rcases List.mem_append.mp sent with sent | sent
      · rw [deleting.own intent' sent, proof]
      · exact absurd sent (no_delete_of_deletes again.deletes_eq intent')
  silent remark noted := by
    rcases List.mem_append.mp noted with noted | noted
    · exact settling.silent remark noted
    · rcases List.mem_append.mp noted with noted | noted
      · exact deleting.silent remark noted
      · exact again.silent remark noted
  single none := by
    rw [proof] at none
    cases none
  cleared := by
    rw [← List.append_assoc]
    refine clearedBetween_of_parts ?_ fun some => (between some).append_left first
    rw [registers_append, deleting.registers_eq]
    exact settling.registers_le
  registered passes := by
    refine registeredBefore_of_parts settling.deletes_eq fun _ => ?_
    exact (settling.registered passes (settling.returned passes (by simp))).ge
  started passes _ _ := by
    rw [registers_append, settling.registered passes (settling.returned passes (by simp))]
    omega

/-- The second ceremony has not begun. -/
theorem of_deletion {intent : Intent L} {failed : Except Error Txid}
    {deleted : Option (Except Error Bool)} (checked : checkDeleteProof refresh = .ok ())
    (proof : refresh.deleteIntent = some intent)
    (settling : Settling refresh refreshCosignerKp first (some failed))
    (deleting : Deleting statusText intent staleIntentDeleteAttempts deletion deleted) :
    Executing statusText refresh refreshCosignerKp (first ++ deletion) result := by
  have nothing : Settling refresh refreshCosignerKp [] none :=
    ⟨Nat.zero_le _, rfl, by simp, by simp, by simp⟩
  have parts := @of_deleting L statusText refresh refreshCosignerKp first deletion [] result none
    intent failed deleted checked proof settling deleting nothing (absurd rfl)
  rwa [List.append_nil] at parts

/-- The delete proof has been refused. -/
theorem of_refused {e : Error} (refused : checkDeleteProof refresh = .error e) :
    Executing statusText refresh refreshCosignerKp [] result where
  checked := absurd rfl
  registers_le := Nat.zero_le _
  deletes_le := Nat.zero_le _
  own := by simp
  silent := by simp
  single _ := Nat.zero_le _
  cleared := by
    intro before intent after split
    simp at split
  registered _ := by
    intro before intent after split
    simp at split
  started _ checked := by
    rw [refused] at checked
    cases checked

end Executing

theorem returns_of_inContext {text : String} {x : Action L α} {j : Journal L} {a : α}
    (run : Fallible.Returns (inContext text x) j a) : Fallible.Returns x j a := by
  obtain ⟨u, run', same⟩ := Evolves.map_inv run
  refine run'.returns ?_
  cases finished : u.result? with
  | none =>
      rw [finished] at same
      cases same
  | some r =>
      rw [finished, Option.map_some, Thread.result?_done, Option.some.injEq] at same
      rw [withContext_eq_ok_iff.mp same.symm]

/-- **What the whole ceremony shows.** -/
theorem executeRefresh_inv {j : Journal L} {t : Thread (interface L) (Except Error Txid)}
    (run : Evolves (executeRefresh B statusText info refresh refreshCosignerKp).run j t) :
    Executing statusText refresh refreshCosignerKp j t.result? := by
  rw [executeRefresh] at run
  rcases Fallible.evolves_check_bind_inv run with ⟨e, refused, rfl, finished⟩ | ⟨⟨⟩, checked, run⟩
  · exact .of_refused refused
  · rcases Fallible.evolves_attempt_bind_inv run with ⟨u, first, open_, open'⟩ |
      ⟨first, rest, r, rfl, firstRun, later⟩
    · exact .of_settling checked (settle_inv first) (by simp [open'])
    · have settling := settle_inv firstRun
      cases r with
      | ok txid =>
          obtain ⟨rfl, finished⟩ := Evolves.of_done later
          rw [List.append_nil]
          exact .of_settling checked settling (by simp)
      | error e =>
          cases proof : refresh.deleteIntent with
          | none =>
              rw [proof] at later
              obtain ⟨rfl, finished⟩ := Evolves.of_done later
              rw [List.append_nil]
              exact .of_settling checked settling (by simp)
          | some delete =>
              rw [proof] at later
              dsimp only at later
              split at later
              · rcases Fallible.evolves_bind_inv later with ⟨u, deletion, open_, open'⟩ |
                  ⟨e', deletion, failed⟩ | ⟨deletion, second, deleted, rfl, deletionRun, secondRun⟩
                · obtain ⟨v, deletionRun, _⟩ := Evolves.map_inv deletion
                  exact .of_deletion checked proof settling
                    (deleteIntent_inv (by decide) deletionRun)
                · obtain ⟨v, deletionRun, _⟩ := Evolves.map_inv deletion
                  exact .of_deletion checked proof settling
                    (deleteIntent_inv (by decide) deletionRun)
                · have deleting := deleteIntent_inv (by decide) (returns_of_inContext deletionRun)
                  exact .of_deleting checked proof settling deleting (settle_inv secondRun)
                    fun _ => deleting.cleared deleted rfl
              · obtain ⟨rfl, finished⟩ := Evolves.of_done later
                rw [List.append_nil]
                exact .of_settling checked settling (by simp)

/-! ## Runs that get there -/

variable {client : EscrowClient}

theorem executeRefresh_of_passes (checked : checkDeleteProof refresh = .ok ())
    (passes : PassesLocalChecks refresh.intoDelegate refreshCosignerKp) :
    ∃ next, (executeRefresh B statusText info refresh refreshCosignerKp).run =
      .ask (I := interface L) (.ceremony (.registerIntent refresh.intent)) next := by
  obtain ⟨next, first, _⟩ := @settle_of_passes L B info _ _ passes
  rw [executeRefresh, checked, Fallible.check_ok_bind, Fallible.run_attempt_bind, first]
  exact ⟨_, rfl⟩

/-- The deadline fires before the first answer. -/
theorem returns_timedOut {millis : Nat} {operation : String} {future : Action L α} {request : Ask L}
    {next : (interface L).Answer request → Program (interface L) (Except Error α)}
    (asks : future.run = .ask (I := interface L) request next)
    (suspended : suspends request = true) :
    Interaction.Returns (runWithTimeout (some millis) operation future).run
      [.sent (.timed request), .answered (.timed request) .elapsed]
      (.error (.msg s!"{operation} timed out after {millis}ms")) := by
  have fired := returns_hurried_elapsed (I := interface L) next suspended
  rw [← asks] at fired
  exact fired.map _

/-- The ceremony has come to its result. -/
theorem evolves_settled {h : List (Event (interface L).scheduled)} {outcome : Except Error Txid}
    (connected : serverInfo client.serverInfo = .ok info)
    (checked : checkDeleteProof refresh = .ok ())
    (ceremony : Interaction.Returns (runWithTimeout client.refreshTimeout "refreshing escrow"
      (executeRefresh B statusText info refresh refreshCosignerKp)).run h outcome) :
    Evolves (refreshEscrow B statusText client refresh refreshCosignerKp).run
      (h ++ [.noted (.settled outcome)])
      (.running (cleanup statusText client refresh outcome).run) := by
  rw [refreshEscrow, connected, checked]
  exact (Fallible.evolves_attempt_bind ceremony).trans (.note _ (.stop _))

theorem returns_deleteRefreshIntent (delete : Intent L) :
    Fallible.Returns (deleteRefreshIntent statusText client delete)
      [.sent (.timed (.ceremony (.deleteIntent delete))),
        .answered (.timed (.ceremony (.deleteIntent delete))) (.inTime (.ok ()))] true := by
  have asks := @deleteAttempts_run L statusText delete 0
  have run : Interaction.Returns ((deleteIntent statusText delete 1).run.hurried suspends)
      [.sent (.timed (.ceremony (.deleteIntent delete))),
        .answered (.timed (.ceremony (.deleteIntent delete))) (.inTime (.ok ()))]
      (some (.ok true)) := by
    rw [deleteIntent, asks]
    exact returns_hurried_inTime rfl (.stop _)
  exact run.map _

end Refresh
end ArkadeEscrow
